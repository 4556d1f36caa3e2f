import Mathlib.Data.List.Basic
import Playground.Proofs.Import.Anchor
import Playground.Proofs.Import.Route

namespace Playground

/-- The first of several names in a virtual path is that of a folder. -/
theorem Path.parentChars_ne_nil {path : String} (hpath : IsVirtual path)
    (hslash : '/' ∈ path.toList) : parentChars path.toList ≠ [] := by
  have hnames : ∀ name ∈ folders path, name ≠ [] := by
    rintro name hname rfl
    exact absurd ((isVirtual_iff.1 hpath).2 [] (List.dropLast_subset _ hname)) (by decide)
  rw [parentChars_eq_joined, ne_eq, joined_eq_nil_iff hnames]
  intro hnil
  -- without a folder the path is its only segment, in which there is no slash
  obtain ⟨name, hname⟩ : ∃ name, segments path = [name] := by
    have hlength := congrArg List.length hnil
    rw [folders, List.length_dropLast, List.length_nil] at hlength
    have hpos := List.length_pos_iff.2 (segments_ne_nil path)
    exact List.length_eq_one_iff.1 (by omega)
  have hmem : name ∈ segments path := by simp [hname]
  have hpath := joined_segments path
  rw [hname, joined_singleton] at hpath
  rw [← hpath] at hslash
  exact slash_not_mem_of_mem_segments hmem hslash

namespace Import

/-- A relative specifier of a file in a folder is never its own reading from the root: either two
dots go, or the folder comes in. -/
theorem resolveChars_ne_self {filename s : List Char} (hdir : Path.parentChars filename ≠ [])
    (hs : isRelative s = true) : resolveChars filename s ≠ s := by
  obtain ⟨r, rfl⟩ : ∃ r, s = '.' :: r := by
    simpa [isRelative, List.head?_eq_some_iff] using hs
  have hlength := List.length_pos_iff.2 hdir
  unfold resolveChars
  split
  · next r' he =>
    obtain rfl := (List.cons.inj he).2
    simp [rooted]
  · next r' _ he =>
    obtain rfl := (List.cons.inj he).2
    intro heq
    have hcount := congrArg List.length heq
    rw [length_rooted, if_neg (by omega)] at hcount
    simp only [List.length_drop, List.length_cons] at hcount
    omega
  · next hno => exact absurd rfl (hno r)

theorem respell_eq_self_iff {filename : List Char} (hdir : Path.parentChars filename ≠ [])
    (p : Piece) : p.respell (resolveChars filename) = p ↔ p.relative? = none := by
  cases p with
  | plain c => simp [Piece.respell, Piece.relative?]
  | clause c =>
    cases hrel : isRelative c.specifier with
    | true =>
      have hne := resolveChars_ne_self hdir hrel
      simp only [Piece.respell, Clause.respell, Piece.relative?, hrel, if_true]
      refine iff_of_false (fun he => hne ?_) (by simp)
      exact congrArg Clause.specifier (Piece.clause.inj he)
    | false =>
      simp [Piece.respell, Clause.respell, Piece.relative?, hrel,
        resolveChars_of_not_relative filename hrel]

theorem findRelative_eq_nil_iff (code : String) :
    findRelative code = [] ↔ ∀ p ∈ scan code.toList, p.relative? = none := by
  rw [← List.map_eq_nil_iff (f := fun span : Nat × Nat × String => span.2.2),
    findRelative_specifiers, List.map_eq_nil_iff, List.filterMap_eq_nil_iff]

variable {filename : String}

/-- A source that anchoring leaves alone has no relative import: it is cut into the same pieces
again, so each of them is left alone, and several changes cannot make up for each other. -/
theorem anchor_eq_self_iff (hslash : '/' ∈ filename.toList)
    (hfolder : Path.parentChars filename.toList ≠ [])
    (hdir : ∀ c ∈ Path.parentChars filename.toList, isSpecifierChar c = true) (code : String) :
    anchor filename code = code ↔ findRelative code = [] := by
  rw [findRelative_eq_nil_iff]
  have hpiece := respell_eq_self_iff hfolder
  constructor
  · intro he p hp
    have hscan := scan_anchor hslash hdir code
    rw [he] at hscan
    refine (hpiece p).1 ?_
    have hmap := (List.map_id (scan code.toList)).trans hscan
    exact (List.map_inj_left.1 hmap p hp).symm
  · intro hnone
    rw [← String.toList_inj, toList_anchor hslash]
    have hsame : (scan code.toList).flatMap
        (fun p => (p.respell (resolveChars filename.toList)).text) =
          (scan code.toList).flatMap Piece.text :=
      List.flatMap_congr fun p hp => by rw [(hpiece p).2 (hnone p hp)]
    rw [hsame, scan_text]

/-- Anchoring leaves the files at the root alone. Below it, a source is left alone exactly when it
has no relative import, and as anchoring keeps the imports relative, a second time leaves the source
alone exactly when the first one did. -/
theorem anchor_fixed_iff (filename : String) :
    ('/' ∉ filename.toList → ∀ code, anchor filename code = code) ∧
    ('/' ∈ filename.toList → Path.IsVirtual filename →
      (∀ c ∈ (Path.parent filename).toList, c ≠ '\'' ∧ c ≠ '"' ∧ c ≠ '\n') → ∀ code,
        (anchor filename code = code ↔ findRelative code = []) ∧
        (anchor filename (anchor filename code) = anchor filename code ↔
          findRelative code = [])) := by
  constructor
  · intro hroot code
    rw [anchor, if_neg (by simpa using hroot)]
  · intro hslash hpath hparent code
    have hfolder := Path.parentChars_ne_nil hpath hslash
    have hdir : ∀ c ∈ Path.parentChars filename.toList, isSpecifierChar c = true := by
      rw [Path.parent, String.toList_ofList] at hparent
      exact fun c hc => (isSpecifierChar_iff c).2 (hparent c hc)
    refine ⟨anchor_eq_self_iff hslash hfolder hdir code, ?_⟩
    have hkept : findRelative (anchor filename code) = [] ↔ findRelative code = [] := by
      have hcount := congrArg List.length (rescans_of_quotable hslash hdir code).specifiers
      rw [List.length_map, List.length_map] at hcount
      rw [← List.length_eq_zero_iff, ← List.length_eq_zero_iff, hcount]
    rw [anchor_eq_self_iff hslash hfolder hdir, hkept]

/-- One specifier grows by the folder and two lose a step each, so that the source keeps its length;
it does not stay the same, and a second time changes it again. -/
theorem anchor_fixed_iff_sameLength :
    let code := "import a from './x'\nimport b from '../y'\nimport c from '../z'"
    (anchor "a/f.vue" code).length = code.length ∧ anchor "a/f.vue" code ≠ code ∧
      anchor "a/f.vue" (anchor "a/f.vue" code) ≠ anchor "a/f.vue" code ∧
      anchor "f.vue" code = code := by
  intro code
  have hrelative : findRelative code ≠ [] := by decide +kernel
  have hparent : (Path.parent "a/f.vue").toList = ['a'] := by decide
  have hfolder : ∀ c ∈ (Path.parent "a/f.vue").toList, c ≠ '\'' ∧ c ≠ '"' ∧ c ≠ '\n' := by
    simp [hparent]
  obtain ⟨honce, htwice⟩ := (anchor_fixed_iff "a/f.vue").2 (by decide) rfl hfolder code
  exact ⟨by decide +kernel, mt honce.1 hrelative, mt htwice.1 hrelative,
    (anchor_fixed_iff "f.vue").1 (by decide) code⟩

end Import

end Playground
