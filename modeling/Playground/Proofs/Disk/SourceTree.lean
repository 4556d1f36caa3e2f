import Playground.Disk.SourceTree
import Playground.Proofs.Except
import Playground.Proofs.Path.Segments

namespace Playground

/-- Names of files: any text without a slash, except those that lead nowhere or back. -/
def Disk.IsName (name : String) : Prop :=
  name ≠ "" ∧ name ≠ "." ∧ name ≠ ".." ∧ '/' ∉ name.toList

instance (name : String) : Decidable (Disk.IsName name) :=
  inferInstanceAs (Decidable (name ≠ "" ∧ name ≠ "." ∧ name ≠ ".." ∧ '/' ∉ name.toList))

/-- What disks hold: all files have names, and none of them is a folder too. -/
structure Disk.WellFormed (d : Disk) : Prop where
  named : ∀ f ∈ d.files, ∀ name ∈ f.1, IsName name
  apart : ∀ f ∈ d.files, d.isFolder f.1 = false

theorem Disk.isFolder_of_folderAt {d : Disk} {path : HostPath} {folder : List String}
    (h : d.folderAt path = .ok (some folder)) : d.isFolder folder = true := by
  unfold folderAt at h
  split at h
  · cases h
  split at h
  · next place _ =>
    cases hfolder : d.isFolder place with
    | true =>
      rw [hfolder] at h
      cases h
      exact hfolder
    | false =>
      rw [hfolder] at h
      cases h
  · cases h
  · cases h

theorem Disk.IsName.isStepSegment {name : String} (h : IsName name) :
    Path.isStepSegment name.toList = false := by
  obtain ⟨hempty, hdot, hdots, -⟩ := h
  simp only [Path.isStepSegment, Bool.or_eq_false_iff, decide_eq_false_iff_not]
  refine ⟨⟨?_, ?_⟩, ?_⟩
  · exact fun he => hempty (String.toList_inj.1 he)
  · exact fun he => hdot (String.toList_inj.1 he)
  · exact fun he => hdots (String.toList_inj.1 he)

namespace SourceTree

theorem toList_virtualPath (place : List String) :
    (virtualPath place).toList = Path.joined (place.map (·.toList)) :=
  String.toList_intercalate

/-- The names that lead to a file are the segments of its path. -/
theorem segments_virtualPath {place : List String} (hplace : place ≠ [])
    (hnames : ∀ name ∈ place, Disk.IsName name) :
    Path.segments (virtualPath place) = place.map (·.toList) := by
  have hslash : ∀ name ∈ place.map (·.toList), '/' ∉ name := by
    intro name hname
    obtain ⟨s, hs, rfl⟩ := List.mem_map.1 hname
    exact (hnames s hs).2.2.2
  rw [← Path.segments_joined hslash (by simpa using hplace), ← toList_virtualPath,
    String.ofList_toList]

/-- A file can be named by a virtual path unless there is a backslash in a name that leads to it. -/
theorem isVirtual_virtualPath_iff {place : List String} (hplace : place ≠ [])
    (hnames : ∀ name ∈ place, Disk.IsName name) :
    Path.IsVirtual (virtualPath place) ↔ '\\' ∉ (virtualPath place).toList := by
  rw [Path.isVirtual_iff, segments_virtualPath hplace hnames, and_iff_left]
  intro name hname
  obtain ⟨s, hs, rfl⟩ := List.mem_map.1 hname
  exact (hnames s hs).isStepSegment

theorem keys_readAll {sources : List (List String × List Nat)} {texts : List (String × String)}
    (h : readAll sources = .ok texts) :
    Assoc.keys texts = sources.map fun f => virtualPath f.1 := by
  induction sources generalizing texts with
  | nil =>
    cases h
    rfl
  | cons source sources ih =>
    obtain ⟨place, bytes⟩ := source
    unfold readAll at h
    split at h
    · cases h
    · obtain ⟨rest, hrest, rfl⟩ := map_eq_ok h
      exact congrArg (virtualPath place :: ·) (ih hrest)

/-- What is read below a folder goes by the names that lead to it from there. -/
theorem exists_place_of_read {d : Disk} (hd : d.WellFormed) {root : HostPath}
    {sources : List (String × String)} (h : read d root = .ok sources) :
    ∀ key ∈ Assoc.keys sources, ∃ place, key = virtualPath place ∧ place ≠ [] ∧
      ∀ name ∈ place, Disk.IsName name := by
  unfold read at h
  split at h
  · cases h
  · cases h
  · next folder hfolder =>
    have hread := mapError_eq_ok h
    intro key hkey
    rw [keys_readAll hread] at hkey
    obtain ⟨source, hsource, rfl⟩ := List.mem_map.1 hkey
    have hbelow := (sorted_perm _).mem_iff.1 hsource
    obtain ⟨f, hf, hkept⟩ := List.mem_filterMap.1 hbelow
    split at hkept
    · next hcond =>
      cases hkept
      rw [Bool.and_eq_true, List.isPrefixOf_iff_prefix] at hcond
      refine ⟨f.1.drop folder.length, rfl, fun hnil => ?_, fun name hname => ?_⟩
      · -- a file is not the folder that is looked through
        have hle := List.drop_eq_nil_iff.1 hnil
        have hsame : folder = f.1 := hcond.1.eq_of_length_le hle
        have hfile := hd.apart f hf
        rw [← hsame, Disk.isFolder_of_folderAt hfolder] at hfile
        cases hfile
      · exact hd.named f hf name (List.mem_of_mem_drop hname)
    · cases hkept

end SourceTree

end Playground
