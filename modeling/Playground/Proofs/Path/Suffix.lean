import Playground.Path.Host
import Playground.Proofs.Path.Segments

namespace Playground

section Suffix

variable {name ext : List Char}

/-- A suffix is a dot with no other dot behind it, and a stem stands before it. -/
theorem Path.nameSuffix_eq_iff (hext : '.' ∉ ext) :
    Path.nameSuffix name = '.' :: ext ↔ ∃ stem, stem ≠ [] ∧ name = stem ++ '.' :: ext := by
  unfold Path.nameSuffix
  constructor
  · intro h
    split at h
    · next stem ext' hcut =>
      split at h
      · cases h
      · next hstem =>
        obtain ⟨-, rfl⟩ := List.cons.inj h
        exact ⟨stem, by simpa using hstem, (Text.cutAtLast_eq_some hcut).1⟩
    · cases h
  · rintro ⟨stem, hstem, rfl⟩
    simp [Text.cutAtLast_append '.' stem hext, hstem]

theorem HostPath.nameSuffix_eq_iff (hext : '.' ∉ ext) (hne : ext ≠ []) :
    HostPath.nameSuffix name = '.' :: ext ↔ ∃ stem, stem ≠ [] ∧ name = stem ++ '.' :: ext := by
  rw [← Path.nameSuffix_eq_iff hext]
  by_cases hdot : name.getLast? = some '.'
  · -- on the host the dot at the end starts no suffix, and in a virtual path it is one by itself
    obtain ⟨stem, rfl⟩ := List.getLast?_eq_some_iff.1 hdot
    have hcut := Text.cutAtLast_append '.' stem (List.not_mem_nil (a := '.'))
    refine iff_of_false ?_ ?_
    · simp [HostPath.nameSuffix, hcut]
    · rw [Path.nameSuffix, hcut]
      dsimp only
      split
      · exact nofun
      · exact fun h => hne (List.cons.inj h).2.symm
  · rw [HostPath.nameSuffix_eq hdot]

end Suffix

namespace Path

variable {names : List (List Char)}

theorem lastSegment_joined {name : List Char} (hname : '/' ∉ name) :
    lastSegment (joined (names ++ [name])) = name := by
  unfold lastSegment
  by_cases hnames : names = []
  · simp [hnames, Text.cutAtLast_eq_none.2 hname]
  · rw [joined_append hnames (List.cons_ne_nil name []), joined_singleton,
      Text.cutAtLast_append '/' _ hname]

theorem lastSegment_suffix (path : List Char) : lastSegment path <:+ path := by
  unfold lastSegment
  split
  · next dir name hcut =>
    exact ⟨dir ++ ['/'], by simp [(Text.cutAtLast_eq_some hcut).1]⟩
  · exact List.suffix_rfl

/-- A path has a suffix exactly when its last segment is a stem before that suffix. -/
theorem suffix_eq_iff {path : String} {ext : List Char} (hext : '.' ∉ ext) :
    suffix path = String.ofList ('.' :: ext) ↔
      ∃ stem, stem ≠ [] ∧ lastSegment path.toList = stem ++ '.' :: ext := by
  rw [suffix, String.ofList_inj, nameSuffix_eq_iff hext]

/-- What a path ends with is what its suffix ends with if it has one of its own. -/
theorem ext_suffix_of_suffix_eq {path : String} {ext : List Char} (hext : '.' ∉ ext)
    (h : suffix path = String.ofList ('.' :: ext)) : '.' :: ext <:+ path.toList := by
  obtain ⟨stem, -, hlast⟩ := (suffix_eq_iff hext).1 h
  exact (List.suffix_append stem _).trans (hlast ▸ lastSegment_suffix path.toList)

end Path

end Playground
