import Mathlib.Data.List.Chain
import Mathlib.Data.List.Infix
import Playground.Component.Blocks

namespace Playground

variable {α : Type} {a b c : α} {s t : List α}

/-- Nowhere does `b` come right after `a`. -/
def NoPair (a b : α) (s : List α) : Prop := s.IsChain fun x y => ¬(x = a ∧ y = b)

@[simp] theorem noPair_nil : NoPair a b [] := .nil

theorem noPair_cons : NoPair a b (c :: s) ↔ ¬(c = a ∧ s.head? = some b) ∧ NoPair a b s := by
  refine List.isChain_cons.trans (and_congr_left fun _ => ⟨?_, ?_⟩)
  · exact fun h hpair => h b hpair.2 ⟨hpair.1, rfl⟩
  · rintro h d hd ⟨hc, rfl⟩
    exact h ⟨hc, hd⟩

theorem noPair_cons_of_ne (hc : c ≠ a) : NoPair a b (c :: s) ↔ NoPair a b s :=
  noPair_cons.trans (and_iff_right fun h => hc h.1)

/-- A pair lies on one side of what belongs to no pair. -/
theorem noPair_append_cons (ha : c ≠ a) (hb : c ≠ b) :
    NoPair a b (s ++ c :: t) ↔ NoPair a b s ∧ NoPair a b t := by
  have hbefore : NoPair a b (s ++ [c]) ↔ NoPair a b s := by
    refine List.isChain_append.trans ⟨And.left, fun hs => ⟨hs, .singleton c, ?_⟩⟩
    rintro x - y hy ⟨-, rfl⟩
    exact hb (Option.some.inj hy)
  have hsplit : NoPair a b (s ++ c :: t) ↔ NoPair a b (s ++ [c]) ∧ NoPair a b (c :: t) :=
    List.isChain_split
  rw [hsplit, hbefore, noPair_cons_of_ne ha]

theorem noPair_append_of_not_mem (ha : a ∉ s) : NoPair a b (s ++ t) ↔ NoPair a b t := by
  induction s with
  | nil => rfl
  | cons c s ih =>
    obtain ⟨hne, hrest⟩ := not_or.1 (mt List.mem_cons.2 ha)
    rw [List.cons_append, noPair_cons_of_ne (Ne.symm hne), ih hrest]

theorem noPair_iff : NoPair a b s ↔ ¬ [a, b] <:+: s := by
  induction s with
  | nil => simp
  | cons c s ih =>
    rw [noPair_cons, ih, List.infix_cons_iff, not_or, List.cons_prefix_cons]
    refine and_congr_left fun _ => ?_
    cases s with
    | nil => simp
    | cons d s => simp [List.cons_prefix_cons, eq_comm]

theorem noPair_intercalate {d : α} (ha : c ≠ a) (hb : c ≠ b) (hd : d ≠ a) {ls : List (List α)} :
    NoPair a b ([c, d].intercalate ls) ↔ ∀ l ∈ ls, NoPair a b l := by
  induction ls with
  | nil => simp [List.intercalate]
  | cons l ls ih =>
    cases ls with
    | nil => simp [List.intercalate]
    | cons l' ls =>
      rw [List.intercalate_cons_cons, List.append_assoc, List.cons_append,
        noPair_append_cons ha hb, List.singleton_append, noPair_cons_of_ne hd, ih,
        List.forall_mem_cons (l := l' :: ls)]

/-- A text is cut where a pair was put if there is none before it. -/
theorem cutAtWord_pair {a b : Char} (hab : a ≠ b) (s rest : List Char) :
    cutAtWord [a, b] (s ++ a :: b :: rest) = some (s, rest) ↔ NoPair a b s := by
  induction s with
  | nil => simp [cutAtWord]
  | cons c s ih =>
    have hstart : [a, b].isPrefixOf (c :: (s ++ a :: b :: rest)) = true ↔
        c = a ∧ s.head? = some b := by
      cases s with
      | nil => simp [hab.symm]
      | cons d s => simp [@eq_comm _ a c, @eq_comm _ b d]
    rw [List.cons_append, cutAtWord, noPair_cons, ← ih]
    by_cases hpair : c = a ∧ s.head? = some b
    · rw [if_pos (hstart.2 hpair)]
      refine ⟨fun h => ?_, fun h => (h.1 hpair).elim⟩
      cases h
    · rw [if_neg (mt hstart.1 hpair), Option.map_eq_some_iff]
      constructor
      · rintro ⟨⟨s', rest'⟩, hcut, hend⟩
        cases hend
        exact ⟨hpair, hcut⟩
      · rintro ⟨-, hcut⟩
        exact ⟨_, hcut, rfl⟩

end Playground
