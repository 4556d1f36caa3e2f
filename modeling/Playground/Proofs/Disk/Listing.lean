import Mathlib.Data.List.Lex
import Playground.Proofs.Disk.SourceTree
import Playground.Proofs.Path.Suffix

namespace Playground

def Text.CodePointBefore (c d : Char) : Prop := c.toNat < d.toNat

instance : IsStrictTotalOrder Char Text.CodePointBefore where
  trichotomous _ _ hcd hdc := Char.toNat_inj.1 (Nat.le_antisymm (Nat.le_of_not_lt hdc)
    (Nat.le_of_not_lt hcd))
  irrefl c := Nat.lt_irrefl c.toNat
  trans _ _ _ := Nat.lt_trans

/-- Virtual paths are compared segment by segment, and segments by their code points. The first
difference decides, and what goes on comes later. -/
def Path.Before (p q : String) : Prop :=
  List.Lex (List.Lex Text.CodePointBefore) (segments p) (segments q)

namespace SourceTree

section Order

theorem lexBefore_iff {α β : Type} [DecidableEq α] {before : α → α → Bool} {f : α → β}
    (hf : f.Injective) {r : β → β → Prop} [Std.Irrefl r]
    (hbefore : ∀ a b, a ≠ b → (before a b = true ↔ r (f a) (f b))) {as bs : List α} :
    lexBefore before as bs = true ↔ as = bs ∨ List.Lex r (as.map f) (bs.map f) := by
  induction as generalizing bs with
  | nil => cases bs <;> simp [lexBefore]
  | cons a as ih =>
    cases bs with
    | nil => simp [lexBefore]
    | cons b bs =>
      rw [lexBefore, List.map_cons, List.map_cons]
      split
      · next hab => rw [hab, ih, List.lex_cons_iff, List.cons_inj_right]
      · next hab =>
        rw [hbefore a b hab, or_iff_right (mt (fun h => (List.cons.inj h).1) hab)]
        have hne : f a ≠ f b := hf.ne hab
        generalize f a = x at hne ⊢
        generalize f b = y at hne ⊢
        refine ⟨.rel, fun h => ?_⟩
        cases h with
        | rel h => exact h
        | cons => exact absurd rfl hne

theorem nameBefore_iff {a b : String} :
    nameBefore a b = true ↔ a = b ∨ List.Lex Text.CodePointBefore a.toList b.toList := by
  have h : nameBefore a b = true ↔ a.toList = b.toList ∨
      List.Lex Text.CodePointBefore (a.toList.map id) (b.toList.map id) :=
    lexBefore_iff Function.injective_id fun _ _ _ => decide_eq_true_iff
  rwa [List.map_id, List.map_id, String.toList_inj] at h

/-- Places are in the order of the virtual paths that they are read under. -/
theorem placeBefore_iff {p q : List String} :
    placeBefore p q = true ↔ p = q ∨
      List.Lex (List.Lex Text.CodePointBefore) (p.map (·.toList)) (q.map (·.toList)) :=
  lexBefore_iff (fun _ _ => String.toList_inj.1) fun _ _ hab =>
    nameBefore_iff.trans (or_iff_right hab)

instance : IsStrictTotalOrder (List (List Char)) (List.Lex (List.Lex Text.CodePointBefore)) :=
  have : IsStrictTotalOrder (List Char) (List.Lex Text.CodePointBefore) :=
    { isStrictWeakOrder_of_isOrderConnected with }
  { isStrictWeakOrder_of_isOrderConnected with }

theorem pairwise_sorted (sources : List (List String × List Nat)) :
    (sorted sources).Pairwise fun a b => placeBefore a.1 b.1 = true := by
  refine List.pairwise_mergeSort (fun a b c hab hbc => ?_) (fun a b => ?_) sources
  · rw [placeBefore_iff] at hab hbc ⊢
    rcases hab with hab | hab
    · rwa [hab]
    · rcases hbc with hbc | hbc
      · rw [← hbc]
        exact .inr hab
      · exact .inr (Trans.trans hab hbc)
  · rw [Bool.or_eq_true, placeBefore_iff, placeBefore_iff]
    rcases trichotomous_of (List.Lex (List.Lex Text.CodePointBefore)) (a.1.map (·.toList))
      (b.1.map (·.toList)) with hlt | heq | hgt
    · exact .inl (.inr hlt)
    · exact .inl (.inl (List.map_injective_iff.2 (fun _ _ => String.toList_inj.1) heq))
    · exact .inr (.inr hgt)

end Order

/-- A stem and one of the suffixes of sources behind it. -/
def IsSourceName (name : String) : Prop :=
  ∃ stem, ∃ suffix ∈ suffixes, stem ≠ [] ∧ name.toList = stem ++ suffix

theorem exists_ext_of_mem_suffixes {suffix : List Char} (h : suffix ∈ suffixes) :
    ∃ ext, suffix = '.' :: ext ∧ '.' ∉ ext ∧ ext ≠ [] := by
  simp only [suffixes, List.mem_cons, List.not_mem_nil, or_false] at h
  rcases h with rfl | rfl | rfl | rfl <;> exact ⟨_, rfl, by decide, by decide⟩

theorem isSource_iff {place : List String} {name : String} (hname : place.getLast? = some name) :
    isSource place = true ↔ IsSourceName name := by
  have hsuffix {suffix : List Char} (h : suffix ∈ suffixes) :
      HostPath.nameSuffix name.toList = suffix ↔
        ∃ stem, stem ≠ [] ∧ name.toList = stem ++ suffix := by
    obtain ⟨ext, rfl, hext, hne⟩ := exists_ext_of_mem_suffixes h
    exact HostPath.nameSuffix_eq_iff hext hne
  rw [isSource, hname, Option.getD_some, List.contains_iff_mem]
  constructor
  · intro hmem
    obtain ⟨stem, hstem⟩ := (hsuffix hmem).1 rfl
    exact ⟨stem, _, hmem, hstem⟩
  · rintro ⟨stem, suffix, hmem, hstem⟩
    rwa [(hsuffix hmem).2 ⟨stem, hstem⟩]

/-- A file below a folder whose name is that of a source, by the names that lead to it from
there. -/
structure IsSourceBelow (d : Disk) (folder place : List String) (bytes : List Nat) : Prop where
  file : (folder ++ place, bytes) ∈ d.files
  named : ∃ name, place.getLast? = some name ∧ IsSourceName name

/-- No file is the folder itself. -/
theorem ne_nil_of_file {d : Disk} (hd : d.WellFormed) {folder place : List String}
    {bytes : List Nat} (hfolder : d.isFolder folder = true)
    (hfile : (folder ++ place, bytes) ∈ d.files) : place ≠ [] := by
  rintro rfl
  have hapart := hd.apart _ hfile
  rw [List.append_nil, hfolder] at hapart
  cases hapart

theorem mem_sourcesBelow_iff {d : Disk} (hd : d.WellFormed) {folder : List String}
    (hfolder : d.isFolder folder = true) {place : List String} {bytes : List Nat} :
    (place, bytes) ∈ sourcesBelow d folder ↔ IsSourceBelow d folder place bytes := by
  have hsource (hfile : (folder ++ place, bytes) ∈ d.files) :
      isSource (folder ++ place) = true ↔
        ∃ name, place.getLast? = some name ∧ IsSourceName name := by
    have hne := ne_nil_of_file hd hfolder hfile
    have hlast : (folder ++ place).getLast? = some (place.getLast hne) := by
      rw [List.getLast?_append_of_ne_nil _ hne, List.getLast?_eq_some_getLast hne]
    rw [isSource_iff hlast, List.getLast?_eq_some_getLast hne]
    simp
  unfold sourcesBelow
  rw [List.mem_filterMap]
  constructor
  · rintro ⟨f, hf, hkept⟩
    split at hkept
    · next hcond =>
      cases hkept
      rw [Bool.and_eq_true, List.isPrefixOf_iff_prefix] at hcond
      have hplace : folder ++ f.1.drop folder.length = f.1 :=
        (List.prefix_iff_eq_append.1 hcond.1)
      have hfile : (folder ++ f.1.drop folder.length, f.2) ∈ d.files := by rwa [hplace]
      exact ⟨hfile, (hsource hfile).1 (by rw [hplace]; exact hcond.2)⟩
    · cases hkept
  · rintro ⟨hfile, hnamed⟩
    refine ⟨_, hfile, ?_⟩
    rw [if_pos]
    · rw [List.drop_left]
    · rw [Bool.and_eq_true, List.isPrefixOf_iff_prefix]
      exact ⟨List.prefix_append folder place, (hsource hfile).2 hnamed⟩

theorem exists_readAll_iff {sources : List (List String × List Nat)} :
    (∃ texts, readAll sources = .ok texts) ↔
      ∀ source ∈ sources, ∃ text, Disk.decode source.2 = .ok text := by
  induction sources with
  | nil => simp [readAll]
  | cons source sources ih =>
    obtain ⟨place, bytes⟩ := source
    rw [List.forall_mem_cons, ← ih, readAll]
    cases Disk.decode bytes with
    | error e => simp
    | ok text => cases readAll sources <;> simp [Except.map]

theorem mem_readAll {sources : List (List String × List Nat)} {texts : List (String × String)}
    (h : readAll sources = .ok texts) {key text : String} :
    (key, text) ∈ texts ↔
      ∃ source ∈ sources, key = virtualPath source.1 ∧ Disk.decode source.2 = .ok text := by
  induction sources generalizing texts with
  | nil =>
    cases h
    simp
  | cons source sources ih =>
    obtain ⟨place, bytes⟩ := source
    unfold readAll at h
    split at h
    · cases h
    · next own hown =>
      obtain ⟨rest, hrest, rfl⟩ := map_eq_ok h
      rw [List.mem_cons, ih hrest, List.exists_mem_cons_iff, hown]
      simp [Prod.ext_iff, eq_comm]

/-- The texts of all sources below a folder by their virtual paths, each of them once and in the
order of the paths. -/
structure IsListing (d : Disk) (folder : List String) (texts : List (String × String)) : Prop where
  increasing : (Assoc.keys texts).Pairwise Path.Before
  mem_iff : ∀ key text, (key, text) ∈ texts ↔ ∃ place bytes, IsSourceBelow d folder place bytes ∧
    key = virtualPath place ∧ Disk.decode bytes = .ok text

theorem IsListing.nodup {d : Disk} {folder : List String} {texts : List (String × String)}
    (h : IsListing d folder texts) : (Assoc.keys texts).Nodup := by
  refine h.increasing.imp fun {p q} hbefore => ?_
  rintro rfl
  exact irrefl_of (List.Lex (List.Lex Text.CodePointBefore)) _ hbefore

section Read

variable {d : Disk} {folder : List String}

theorem nodup_sourcesBelow (hdistinct : (Assoc.keys d.files).Nodup) :
    ((sourcesBelow d folder).map (·.1)).Nodup := by
  rw [List.Nodup, List.pairwise_map, sourcesBelow, List.pairwise_filterMap]
  refine (List.pairwise_map.1 hdistinct).imp fun {f g} hne source hsource source' hsource' heq => ?_
  have below {f : List String × List Nat} {source : List String × List Nat}
      (h : (if folder.isPrefixOf f.1 && isSource f.1 then some (f.1.drop folder.length, f.2)
        else none) = some source) : f.1 = folder ++ source.1 := by
    split at h
    · next hcond =>
      cases h
      rw [Bool.and_eq_true, List.isPrefixOf_iff_prefix] at hcond
      exact (List.prefix_iff_eq_append.1 hcond.1).symm
    · cases h
  exact hne (by rw [below hsource, below hsource', heq])

theorem read_eq_ok_iff {root : HostPath} (hfolder : d.folderAt root = .ok (some folder))
    {texts : List (String × String)} :
    read d root = .ok texts ↔ readAll (sorted (sourcesBelow d folder)) = .ok texts := by
  rw [read, hfolder]
  exact mapError_eq_ok_iff

theorem mem_sorted_iff (hd : d.WellFormed) (hbelow : d.isFolder folder = true)
    (source : List String × List Nat) :
    source ∈ sorted (sourcesBelow d folder) ↔ IsSourceBelow d folder source.1 source.2 :=
  (sorted_perm _).mem_iff.trans (mem_sourcesBelow_iff hd hbelow)

theorem mem_read_iff (hd : d.WellFormed) {root : HostPath}
    (hfolder : d.folderAt root = .ok (some folder)) {texts : List (String × String)}
    (htexts : read d root = .ok texts) (key text : String) :
    (key, text) ∈ texts ↔ ∃ place bytes, IsSourceBelow d folder place bytes ∧
      key = virtualPath place ∧ Disk.decode bytes = .ok text := by
  rw [mem_readAll ((read_eq_ok_iff hfolder).1 htexts)]
  simp only [mem_sorted_iff hd (Disk.isFolder_of_folderAt hfolder), Prod.exists]

/-- A folder is read exactly when all sources below it are texts, and then they are listed. -/
theorem read_of_folder (hd : d.WellFormed) (hdistinct : (Assoc.keys d.files).Nodup)
    {root : HostPath} (hfolder : d.folderAt root = .ok (some folder)) :
    ((∃ texts, read d root = .ok texts) ↔ ∀ place bytes, IsSourceBelow d folder place bytes →
      ∃ text, Disk.decode bytes = .ok text) ∧
    ∀ texts, read d root = .ok texts → IsListing d folder texts := by
  have hbelow := Disk.isFolder_of_folderAt hfolder
  refine ⟨?_, fun texts htexts => ⟨?_, mem_read_iff hd hfolder htexts⟩⟩
  · simp only [read_eq_ok_iff hfolder, exists_readAll_iff, mem_sorted_iff hd hbelow, Prod.forall]
  · rw [keys_readAll ((read_eq_ok_iff hfolder).1 htexts), List.pairwise_map]
    have hplaces : ((sorted (sourcesBelow d folder)).map (·.1)).Nodup :=
      ((sorted_perm _).map _).nodup_iff.2 (nodup_sourcesBelow hdistinct)
    refine ((pairwise_sorted _).and (List.pairwise_map.1 hplaces)).imp_of_mem ?_
    intro a b ha hb hab
    have segments {source : List String × List Nat}
        (h : source ∈ sorted (sourcesBelow d folder)) :
        Path.segments (virtualPath source.1) = source.1.map (·.toList) := by
      have hfile := ((mem_sorted_iff hd hbelow source).1 h).file
      refine segments_virtualPath (ne_nil_of_file hd hbelow hfile) fun name hname => ?_
      exact hd.named _ hfile name (List.mem_append_right _ hname)
    rw [Path.Before, segments ha, segments hb]
    exact (placeBefore_iff.1 hab.1).resolve_left hab.2

end Read

end SourceTree

end Playground
