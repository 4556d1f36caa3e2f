import Playground.Import.Specifier
import Playground.Import.Anchor
import Playground.Proofs.Import.Respelled

namespace Playground

theorem Path.parentChars_prefix (path : List Char) : Path.parentChars path <+: path := by
  unfold Path.parentChars
  split
  next dir name h => exact ⟨'/' :: name, (Text.cutAtLast_eq_some h).1.symm⟩
  · exact List.nil_prefix

namespace Import

theorem climb_parts (dir s : List Char) : (climb dir s).1 <+: dir ∧ (climb dir s).2 <:+ s := by
  fun_induction climb dir s with
  | case1 dir r ih =>
    obtain ⟨hdir, hrest⟩ := ih
    refine ⟨hdir.trans (Path.parentChars_prefix dir), ?_⟩
    exact hrest.trans ((List.drop_suffix 1 r).trans (List.suffix_append ['.', '.'] r))
  | case2 dir s => exact ⟨List.prefix_rfl, List.suffix_rfl⟩

/-- A slash stands before the rest, so no word of the directory runs on into it. -/
theorem rooted_eq (dir rest : List Char) :
    ∃ lead, rooted dir rest = '.' :: (lead ++ '/' :: rest) ∧ ∀ c ∈ lead, c = '/' ∨ c ∈ dir := by
  cases dir with
  | nil => exact ⟨[], rfl, by simp⟩
  | cons d dir => exact ⟨'/' :: d :: dir, rfl, fun c hc => List.mem_cons.1 hc⟩

theorem mem_rooted_of_mem {dir : List Char} {c : Char} (hc : c ∈ dir) (rest : List Char) :
    c ∈ rooted dir rest := by
  cases dir with
  | nil => cases hc
  | cons d dir =>
    exact List.mem_cons_of_mem _ (List.mem_cons_of_mem _ (List.mem_append_left _ hc))

theorem resolveChars_eq_rooted (filename : List Char) {s : List Char} (hs : isRelative s = true) :
    ∃ dir rest, dir <+: Path.parentChars filename ∧ rest <:+ s ∧
      resolveChars filename s = rooted dir rest := by
  unfold resolveChars
  split
  next r =>
    obtain ⟨hdir, hrest⟩ := climb_parts (Path.parentChars filename) ('.' :: '.' :: r)
    exact ⟨_, _, hdir, hrest, rfl⟩
  next r _ =>
    exact ⟨_, _, List.prefix_rfl, (List.drop_suffix 1 r).trans (List.suffix_cons '.' r), rfl⟩
  next hno =>
    obtain ⟨r, rfl⟩ : ∃ r, s = '.' :: r := by
      cases s with
      | nil => cases hs
      | cons c r => exact ⟨r, by simpa [isRelative] using hs⟩
    exact absurd rfl (hno r)

theorem resolveChars_of_not_relative (filename : List Char) {s : List Char}
    (hs : isRelative s = false) : resolveChars filename s = s := by
  unfold resolveChars
  split
  · cases hs
  · cases hs
  · rfl

theorem isRelative_resolveChars (filename s : List Char) :
    isRelative (resolveChars filename s) = isRelative s := by
  cases hs : isRelative s with
  | false => rw [resolveChars_of_not_relative filename hs, hs]
  | true =>
    obtain ⟨dir, rest, -, -, h⟩ := resolveChars_eq_rooted filename hs
    rw [h]
    rfl

theorem EndsInFrom.of_suffix {x y : List Char} (h : EndsInFrom x) (hxy : x <:+ y) :
    EndsInFrom y := by
  obtain ⟨pre, w, hw, rfl⟩ := h
  obtain ⟨pre', rfl⟩ := hxy
  exact ⟨pre' ++ pre, w, hw, by simp⟩

theorem EndsInFrom.of_slash {lead rest : List Char} (h : EndsInFrom (lead ++ '/' :: rest)) :
    EndsInFrom rest := by
  obtain ⟨pre, w, hw, he⟩ := h
  have hslash : '/' ∉ w := fun hmem => absurd (hw.blank_or_mem hmem) (by decide)
  rcases List.append_eq_append_iff.1 he with ⟨a, -, hrest⟩ | ⟨a, -, rfl⟩
  · cases a with
    | nil =>
      obtain rfl : '/' :: rest = w := hrest
      exact absurd List.mem_cons_self hslash
    | cons c a =>
      obtain ⟨-, rfl⟩ := List.cons.inj hrest
      exact ⟨a, w, hw, rfl⟩
  · exact absurd (by simp) hslash

theorem isSpecifierChar_iff (c : Char) :
    isSpecifierChar c = true ↔ c ≠ '\'' ∧ c ≠ '"' ∧ c ≠ '\n' := by
  simp [isSpecifierChar, isQuote, and_assoc]

theorem respells_resolveChars {filename : List Char}
    (hdir : ∀ c ∈ Path.parentChars filename, isSpecifierChar c = true) (s : List Char)
    (hs : ∀ c ∈ s, isSpecifierChar c = true) : Respells s (resolveChars filename s) := by
  cases hrel : isRelative s with
  | false =>
    rw [resolveChars_of_not_relative filename hrel]
    exact respells_refl hs
  | true =>
    obtain ⟨dir, rest, hd, hr, h⟩ := resolveChars_eq_rooted filename hrel
    obtain ⟨lead, hrooted, hlead⟩ := rooted_eq dir rest
    rw [h, hrooted]
    constructor
    · intro c hc
      simp only [List.mem_cons, List.mem_append] at hc
      rcases hc with rfl | hc | rfl | hc
      · decide
      · rcases hlead c hc with rfl | hc
        · decide
        · exact hdir c (hd.subset hc)
      · decide
      · exact hs c (hr.subset hc)
    · intro hend
      have hend' : EndsInFrom (('.' :: lead) ++ '/' :: rest) := hend
      exact hend'.of_slash.of_suffix hr

end Import

end Playground
