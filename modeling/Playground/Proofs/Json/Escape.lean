import Mathlib.Tactic.SplitIfs
import Playground.Json.Writer
import Playground.Proofs.Text.Pair
import Playground.Text.Blank

namespace Playground

theorem Text.mem_hexDigits {width n : Nat} {c : Char} (h : c ∈ Text.hexDigits width n) :
    ∃ digit < 16, c = Text.hexDigit digit := by
  induction width generalizing n with
  | zero => cases h
  | succ width ih =>
    rw [Text.hexDigits, List.mem_append, List.mem_singleton] at h
    rcases h with h | h
    · exact ih h
    · exact ⟨n % 16, Nat.mod_lt n (by decide), h⟩

/-- A character below the halves of surrogate pairs is a code point as often as it is in a text. -/
theorem Text.count_points {c : Char} (hc : c.toNat < 0xD800) (s : List Char) :
    (points s).count c.toNat = s.count c := by
  have hpoint (d : Char) : pointOf d = c.toNat ↔ d = c := by
    rw [← Char.toNat_inj]
    unfold pointOf
    split
    · next hhalf =>
      simp only [isHalf, Bool.and_eq_true, decide_eq_true_eq] at hhalf
      simp only [halfDistance] at hhalf ⊢
      omega
    · rfl
  fun_induction points s with
  | case1 => rfl
  | case2 d => simp [List.count_singleton, hpoint]
  | case3 d e r hmark ih =>
    have hd : d ≠ c := by
      rintro rfl
      simp only [privateMark] at hmark
      omega
    rw [List.count_cons, ih, List.count_cons_of_ne hd, List.count_cons]
    simp [Char.toNat_inj]
  | case4 d e r hmark ih => simp [List.count_cons, ih, hpoint]

namespace Json

/-- What escapes are made of. -/
def escapeChars : List Char :=
  ['\\', '"', 'n', 'r', 't', 'b', 'f', 'u'] ++ (List.range 16).map Text.hexDigit

theorem mem_escapeChars_of_mem_short {c d : Char} (hd : d ∈ escapeChars) (h : c ∈ ['\\', d]) :
    c ∈ escapeChars := by
  simp only [List.mem_cons, List.not_mem_nil, or_false] at h
  rcases h with rfl | rfl
  · decide
  · exact hd

theorem mem_escapeChars_of_mem_unitEscape {c : Char} {n : Nat} (h : c ∈ unitEscape n) :
    c ∈ escapeChars := by
  rcases List.mem_cons.1 h with rfl | h
  · decide
  rcases List.mem_cons.1 h with rfl | h
  · decide
  obtain ⟨digit, hlt, rfl⟩ := Text.mem_hexDigits h
  exact List.mem_append_right _ (List.mem_map_of_mem (List.mem_range.2 hlt))

/-- What is no part of an escape stands for itself. -/
theorem mem_escapePoint_cases {c : Char} {n : Nat} (h : c ∈ escapePoint n) :
    c ∈ escapeChars ∨ (0x20 ≤ n ∧ n ≤ 0x7E) ∧ c.toNat = n := by
  unfold escapePoint at h
  split at h
  · next hmark =>
    rcases hmark with rfl | rfl <;> exact .inl (mem_escapeChars_of_mem_short (by decide) h)
  iterate 5
    split at h
    · exact .inl (mem_escapeChars_of_mem_short (by decide) h)
  split at h
  · next hplain =>
    rw [List.mem_singleton.1 h]
    exact .inr ⟨hplain, Text.toNat_ofNat (.inl (by omega))⟩
  split at h
  · exact .inl (mem_escapeChars_of_mem_unitEscape h)
  · exact .inl ((List.mem_append.1 h).elim mem_escapeChars_of_mem_unitEscape
      mem_escapeChars_of_mem_unitEscape)

theorem mem_escapePoint {c : Char} (hc : c ∉ escapeChars) {n : Nat} (h : c ∈ escapePoint n) :
    n = c.toNat :=
  ((mem_escapePoint_cases h).resolve_left hc).2.symm

theorem escapePoint_ne_nil (n : Nat) : escapePoint n ≠ [] := by
  unfold escapePoint unitEscape
  split_ifs <;> simp

theorem escapePoint_eq_singleton {c : Char} (hc : c ∉ escapeChars)
    (hplain : 0x20 ≤ c.toNat ∧ c.toNat ≤ 0x7E) : escapePoint c.toNat = [c] := by
  have hmarks : ¬ (c.toNat = 0x22 ∨ c.toNat = 0x5C) := by
    rintro (h | h)
    · exact hc (by rw [Char.toNat_inj.1 (h.trans (by decide : 0x22 = '"'.toNat))]; decide)
    · exact hc (by rw [Char.toNat_inj.1 (h.trans (by decide : 0x5C = '\\'.toNat))]; decide)
  rw [escapePoint, if_neg hmarks, if_neg (by omega), if_neg (by omega), if_neg (by omega),
    if_neg (by omega), if_neg (by omega), if_pos hplain, Char.ofNat_toNat]

/-- A printable character that is no part of an escape is in a literal as often as in the text. -/
theorem count_literalChars {c : Char} (hc : c ∉ escapeChars)
    (hplain : 0x20 ≤ c.toNat ∧ c.toNat ≤ 0x7E) (s : List Char) :
    (literalChars s).count c = s.count c := by
  have hmark : '"' ≠ c := by
    rintro rfl
    exact hc (by decide)
  have hpoint (n : Nat) : (escapePoint n).count c = if n = c.toNat then 1 else 0 := by
    split
    · next hn => rw [hn, escapePoint_eq_singleton hc hplain, List.count_singleton_self]
    · next hn => exact List.count_eq_zero_of_not_mem fun h => hn (mem_escapePoint hc h)
  have hpoints (ns : List Nat) : (ns.flatMap escapePoint).count c = ns.count c.toNat := by
    induction ns with
    | nil => rfl
    | cons n ns ih => simp [List.count_append, ih, hpoint, List.count_cons, Nat.add_comm]
  have hend : ['"'].count c = 0 := List.count_eq_zero_of_not_mem (by simpa using hmark.symm)
  rw [literalChars, List.cons_append, List.count_cons_of_ne hmark, List.count_append, hpoints,
    Text.count_points (by omega), hend, Nat.add_zero]

/-- No escape starts with the mark that a literal ends with. -/
theorem head?_flatMap_escapePoint_ne (ns : List Nat) :
    (ns.flatMap escapePoint).head? ≠ some '"' := by
  have hpoint (n : Nat) : (escapePoint n).head? ≠ some '"' := by
    intro h
    unfold escapePoint at h
    split at h
    · cases h
    iterate 5
      split at h
      · cases h
    split at h
    · next hmarks _ _ _ _ _ hplain =>
      have hn := congrArg Char.toNat (Option.some.inj h)
      rw [Text.toNat_ofNat (.inl (by omega))] at hn
      exact hmarks (.inl hn)
    split at h
    · cases h
    · cases h
  cases ns with
  | nil => exact nofun
  | cons n ns =>
    rw [List.flatMap_cons, List.head?_append_of_ne_nil _ (escapePoint_ne_nil n)]
    exact hpoint n

/-- In front of the marks in a text stand backslashes, so none comes right after a blank. -/
theorem noPair_blank_mark (ns : List Nat) : NoPair ' ' '"' (ns.flatMap escapePoint) := by
  induction ns with
  | nil => exact noPair_nil
  | cons n ns ih =>
    rw [List.flatMap_cons]
    by_cases hn : n = 0x20
    · subst hn
      have hblank : escapePoint 0x20 = [' '] := rfl
      rw [hblank, List.singleton_append, noPair_cons]
      exact ⟨fun h => head?_flatMap_escapePoint_ne ns h.2, ih⟩
    · have hblank : ' ' ∉ escapePoint n := fun h => hn (mem_escapePoint (by decide) h)
      rwa [noPair_append_of_not_mem hblank]

/-- The only blanks in a literal are spaces. -/
theorem eq_space_of_isBlank {c : Char} {n : Nat} (h : c ∈ escapePoint n)
    (hblank : Text.isBlank c = true) : c = ' ' := by
  have hescape : escapeChars.all (fun d => !Text.isBlank d) = true := by decide
  rcases mem_escapePoint_cases h with h | ⟨hplain, hc⟩
  · have hno := List.all_eq_true.1 hescape c h
    rw [hblank] at hno
    cases hno
  · rw [← Char.toNat_inj]
    simp only [Text.isBlank, Bool.or_eq_true, Bool.and_eq_true, decide_eq_true_eq, beq_iff_eq]
      at hblank
    change c.toNat = 0x20
    omega

/-- No mark in a text comes right after a blank. -/
theorem not_infix_blank_mark {c : Char} (hc : Text.isBlank c = true) (ns : List Nat) :
    ¬ [c, '"'] <:+: ns.flatMap escapePoint := by
  intro h
  obtain ⟨n, -, hn⟩ := List.mem_flatMap.1 (h.subset List.mem_cons_self)
  obtain rfl := eq_space_of_isBlank hn hc
  exact noPair_iff.1 (noPair_blank_mark ns) h

end Json

end Playground
