import Playground.Path.Virtual

namespace Playground

namespace Text

theorem splitOn_eq (sep : Char) (s : List Char) : splitOn sep s = s.splitOn sep := by
  induction s with
  | nil => rfl
  | cons c r ih =>
    simp only [splitOn, List.splitOn, List.splitOnP_cons_eq_if_modifyHead, beq_iff_eq] at ih ⊢
    rw [ih]
    split
    · rfl
    · cases hr : List.splitOnP (· == sep) r with
      | nil => exact absurd hr (List.splitOnP_ne_nil _ _)
      | cons p ps => rfl

theorem not_mem_of_mem_splitOn {sep : Char} {s piece : List Char} (h : piece ∈ splitOn sep s) :
    sep ∉ piece := by
  induction s generalizing piece with
  | nil =>
    rw [List.mem_singleton.1 h]
    exact List.not_mem_nil
  | cons c r ih =>
    rw [splitOn] at h
    split at h
    · rcases List.mem_cons.1 h with rfl | h
      · exact List.not_mem_nil
      · exact ih h
    · next hc =>
      split at h
      · rw [List.mem_singleton.1 h]
        simpa using Ne.symm hc
      · next p ps hr =>
        rw [hr] at ih
        rcases List.mem_cons.1 h with rfl | h
        · simpa [Ne.symm hc] using ih List.mem_cons_self
        · exact ih (List.mem_cons_of_mem _ h)

theorem cutAtLast_append (sep : Char) (a : List Char) {b : List Char} (hb : sep ∉ b) :
    cutAtLast sep (a ++ sep :: b) = some (a, b) := by
  induction a with
  | nil => simp [cutAtLast, cutAtLast_eq_none.2 hb]
  | cons c a ih => simp [cutAtLast, ih]

end Text

namespace Path

/-- Segments joined by slashes, which is the path that they are the segments of. -/
def joined (names : List (List Char)) : List Char := ['/'].intercalate names

@[simp] theorem joined_nil : joined [] = [] := rfl

@[simp] theorem joined_singleton (name : List Char) : joined [name] = name := by
  simp [joined]

theorem joined_append {a b : List (List Char)} (ha : a ≠ []) (hb : b ≠ []) :
    joined (a ++ b) = joined a ++ '/' :: joined b := by
  induction a with
  | nil => exact absurd rfl ha
  | cons name a ih =>
    cases a with
    | nil =>
      obtain ⟨next, b, rfl⟩ := List.exists_cons_of_ne_nil hb
      simp [joined, List.intercalate_cons_cons]
    | cons next a =>
      have hrest := ih (List.cons_ne_nil next a)
      simp only [joined, List.cons_append, List.intercalate_cons_cons] at hrest ⊢
      simp [hrest]

theorem joined_segments (path : String) : joined (segments path) = path.toList := by
  rw [joined, segments, Text.splitOn_eq]
  exact List.intercalate_splitOn '/'

theorem segments_ne_nil (path : String) : segments path ≠ [] := by
  rw [segments, Text.splitOn_eq]
  exact List.splitOn_ne_nil '/' path.toList

theorem slash_not_mem_of_mem_segments {path : String} {name : List Char}
    (h : name ∈ segments path) : '/' ∉ name :=
  Text.not_mem_of_mem_splitOn h

theorem segments_joined {names : List (List Char)} (hnames : ∀ name ∈ names, '/' ∉ name)
    (hne : names ≠ []) : segments (String.ofList (joined names)) = names := by
  rw [segments, String.toList_ofList, Text.splitOn_eq]
  exact List.splitOn_intercalate '/' hnames hne

theorem parentChars_joined {names : List (List Char)} (hnames : ∀ name ∈ names, '/' ∉ name) :
    parentChars (joined names) = joined names.dropLast := by
  rcases List.eq_nil_or_concat names with rfl | ⟨init, name, he⟩
  · rfl
  · rw [List.concat_eq_append] at he
    subst he
    have hname : '/' ∉ name := hnames name (by simp)
    rw [List.dropLast_concat]
    by_cases hinit : init = []
    · subst hinit
      simp [parentChars, Text.cutAtLast_eq_none.2 hname]
    · rw [joined_append hinit (by simp), joined_singleton, parentChars,
        Text.cutAtLast_append '/' _ hname]

theorem joined_eq_nil_iff {names : List (List Char)} (hnames : ∀ name ∈ names, name ≠ []) :
    joined names = [] ↔ names = [] := by
  refine ⟨fun h => ?_, fun h => by rw [h]; rfl⟩
  cases names with
  | nil => rfl
  | cons name names =>
    cases names with
    | nil => exact absurd h (by simpa using hnames)
    | cons next names =>
      rw [joined, List.intercalate_cons_cons] at h
      simp at h

/-- A path that passes its check is handed on as it is. -/
theorem eq_of_checkVirtual {s path : String} (h : checkVirtual s = .ok path) : path = s := by
  unfold checkVirtual at h
  split at h
  · cases h
  split at h
  · cases h
  split at h
  · cases h
  · cases h
    rfl

/-- A virtual path is made of names that lead somewhere, and no backslash is in it. -/
theorem isVirtual_iff {path : String} :
    IsVirtual path ↔ '\\' ∉ path.toList ∧ ∀ name ∈ segments path, isStepSegment name = false := by
  unfold IsVirtual checkVirtual
  split
  · next hempty =>
    -- the only segment of an empty path is empty
    have hsegments : segments path = [[]] := by
      rw [segments, List.isEmpty_iff.1 hempty]
      rfl
    simp [hsegments, isStepSegment]
  split
  · next hmarks =>
    rw [Bool.or_eq_true, decide_eq_true_eq] at hmarks
    refine ⟨nofun, fun ⟨hback, hsteps⟩ => ?_⟩
    rcases hmarks with hslash | hmem
    · obtain ⟨rest, hrest⟩ := List.head?_eq_some_iff.1 hslash
      have hfirst : [] ∈ segments path := by
        rw [segments, hrest]
        simp [Text.splitOn]
      exact absurd (hsteps [] hfirst) (by decide)
    · exact absurd (List.contains_iff_mem.1 hmem) hback
  · next hmarks =>
    have hback : '\\' ∉ path.toList := fun hmem =>
      hmarks (by simp [hmem])
    split
    · next hsteps =>
      refine ⟨nofun, fun ⟨_, hnone⟩ => ?_⟩
      obtain ⟨name, hname, hstep⟩ := List.any_eq_true.1 hsteps
      rw [hnone name hname] at hstep
      cases hstep
    · next hsteps =>
      simpa [hback] using hsteps

end Path

end Playground
