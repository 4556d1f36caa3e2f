import Playground.Proofs.Import.Grammar

namespace Playground.Import

/-- A closing quote behind such a text could be read as the opening quote of a clause. -/
def EndsInFrom (x : List Char) : Prop := ∃ pre w, IsFromPhrase w ∧ x = pre ++ w

/-- The specifier `q` can stand for `p`: it stays between its quotes, and it lends its closing quote
to another clause only if `p` does so too. -/
def Respells (p q : List Char) : Prop :=
  (∀ c ∈ q, isSpecifierChar c = true) ∧ (EndsInFrom q → EndsInFrom p)

/-- The second text is the first with some of the quoted specifiers respelled. -/
inductive Respelled : List Char → List Char → Prop
  | nil : Respelled [] []
  | keep (c : Char) {s t : List Char} (h : Respelled s t) : Respelled (c :: s) (c :: t)
  | respell {mark close : Char} {p q s t : List Char} (hm : isQuote mark = true)
      (hc : isQuote close = true) (hp : ∀ c ∈ p, isSpecifierChar c = true) (hq : Respells p q)
      (h : Respelled s t) : Respelled (mark :: (p ++ close :: s)) (mark :: (q ++ close :: t))

theorem not_newline_of_isQuote {c : Char} (h : isQuote c = true) : c ≠ '\n' := by
  rintro rfl
  exact absurd h (by decide)

theorem newline_not_mem_of_isSpecifierChar {x : List Char}
    (hx : ∀ c ∈ x, isSpecifierChar c = true) : '\n' ∉ x := fun h =>
  absurd (hx _ h) (by decide)

theorem respells_refl {p : List Char} (hp : ∀ c ∈ p, isSpecifierChar c = true) : Respells p p :=
  ⟨hp, id⟩

/-- Of two cuts of one text before a quote, with no quote in front of either, there is one. -/
theorem eq_of_append_quote_eq {x y r u : List Char} {c d : Char}
    (hx : ∀ e ∈ x, isQuote e = false) (hy : ∀ e ∈ y, isQuote e = false)
    (hc : isQuote c = true) (hd : isQuote d = true) (h : x ++ c :: r = y ++ d :: u) :
    x = y ∧ c = d ∧ r = u := by
  refine eq_of_append_stop_eq (p := fun e => !isQuote e) ?_ ?_ ?_ ?_ h
  · exact fun e he => by rw [hx e he]; rfl
  · exact fun e he => by rw [hy e he]; rfl
  · rw [hc]; rfl
  · rw [hd]; rfl

namespace Respelled

variable {s t : List Char}

theorem append (h : Respelled s t) (l : List Char) : Respelled (l ++ s) (l ++ t) := by
  induction l with
  | nil => exact h
  | cons c l ih => exact .keep c ih

/-- What stands before the first quote is kept. -/
theorem split {l u : List Char} (h : Respelled s (l ++ u)) (hl : ∀ c ∈ l, isQuote c = false) :
    ∃ v, s = l ++ v ∧ Respelled v u := by
  induction l generalizing s with
  | nil => exact ⟨s, rfl, h⟩
  | cons c l ih =>
    generalize ht : c :: l ++ u = t at h
    cases h with
    | nil => cases ht
    | keep d h =>
      obtain ⟨rfl, rfl⟩ := List.cons.inj ht
      obtain ⟨v, rfl, hv⟩ := ih h fun d hd => hl d (List.mem_cons_of_mem _ hd)
      exact ⟨v, rfl, hv⟩
    | respell hm =>
      obtain ⟨rfl, -⟩ := List.cons.inj ht
      rw [hl c (by simp)] at hm
      cases hm

theorem head {c : Char} {u : List Char} (h : Respelled s (c :: u)) : ∃ v, s = c :: v := by
  generalize ht : c :: u = t at h
  cases h with
  | nil => cases ht
  | keep d h =>
    obtain ⟨rfl, -⟩ := List.cons.inj ht
    exact ⟨_, rfl⟩
  | respell =>
    obtain ⟨rfl, -⟩ := List.cons.inj ht
    exact ⟨_, rfl⟩

theorem startsQuoted (h : Respelled s t) (ht : StartsQuoted t) : StartsQuoted s := by
  obtain ⟨mark, x, close, rest, hm, hx, hc, rfl⟩ := ht
  generalize hu : mark :: (x ++ close :: rest) = u at h
  cases h with
  | nil => cases hu
  | keep c h =>
    obtain ⟨rfl, rfl⟩ := List.cons.inj hu
    obtain ⟨v, rfl, hv⟩ := h.split fun d hd => isQuote_eq_false_of_isSpecifierChar (hx d hd)
    obtain ⟨rest', rfl⟩ := hv.head
    exact ⟨mark, x, close, rest', hm, hx, hc, rfl⟩
  | respell hm' hc' hp => exact ⟨_, _, _, _, hm', hp, hc', rfl⟩

theorem startsEnding (h : Respelled s t) (ht : StartsEnding t) : StartsEnding s := by
  obtain ⟨w, r, hw, hr, rfl⟩ := ht
  obtain ⟨v, rfl, hv⟩ := h.split hw.isQuote_eq_false
  exact ⟨w, v, hw, hv.startsQuoted hr, rfl⟩

/-- A clause may end in the middle of a specifier and take its closing quote for an opening one.
The old spelling then ends in the keyword as well, and the same quote opens there. -/
theorem startsEnding_of_cut {p q a : List Char} {close : Char} (hc : isQuote close = true)
    (hq : Respells p q) (h : Respelled s t) (ha : a <:+ q) (hend : StartsEnding (a ++ close :: t)) :
    ∃ pre w, p = pre ++ w ∧ StartsEnding (w ++ close :: s) := by
  obtain ⟨w, r, hw, ⟨mark, x, close', rest, hm, hx, hc', rfl⟩, he⟩ := hend
  obtain ⟨pre, rfl⟩ := ha
  have hquote : ∀ e ∈ a, isQuote e = false := fun e hea =>
    isQuote_eq_false_of_isSpecifierChar (hq.1 e (List.mem_append_right _ hea))
  obtain ⟨rfl, rfl, rfl⟩ := eq_of_append_quote_eq hquote hw.isQuote_eq_false hc hm he
  obtain ⟨pre', w', hw', rfl⟩ := hq.2 ⟨pre, a, hw, rfl⟩
  have hquoted : StartsQuoted (close :: s) :=
    (h.keep close).startsQuoted ⟨close, x, close', rest, hm, hx, hc', rfl⟩
  exact ⟨pre', w', rfl, w', _, hw', hquoted, rfl⟩

theorem startsNames (h : Respelled s t) (ht : StartsNames t) : StartsNames s := by
  obtain ⟨m, u, hm, hu, ht⟩ := ht
  induction h generalizing m with
  | nil => exact absurd (List.append_eq_nil_iff.1 ht.symm).2 hu.ne_nil
  | keep c h ih =>
    cases m with
    | nil => exact ⟨[], _, by simp, (h.keep c).startsEnding (ht ▸ hu), rfl⟩
    | cons d m =>
      obtain ⟨rfl, rfl⟩ := List.cons.inj ht
      obtain ⟨m', v, hm', hv, rfl⟩ := ih m (fun hmem => hm (List.mem_cons_of_mem _ hmem)) rfl
      refine ⟨c :: m', v, ?_, hv, rfl⟩
      simp only [List.mem_cons, not_or] at hm ⊢
      exact ⟨hm.1, hm'⟩
  | @respell mark close p q s t hmark hclose hp hq h ih =>
    cases m with
    | nil => exact ⟨[], _, by simp, (h.respell hmark hclose hp hq).startsEnding (ht ▸ hu), rfl⟩
    | cons d m =>
      obtain ⟨rfl, htail⟩ := List.cons.inj ht
      have hnl : '\n' ∉ mark :: p := by
        simp only [List.mem_cons, not_or]
        exact ⟨(not_newline_of_isQuote hmark).symm, newline_not_mem_of_isSpecifierChar hp⟩
      have hcut {a : List Char} (ha : a <:+ q) (hend : StartsEnding (a ++ close :: t)) :
          StartsNames (mark :: (p ++ close :: s)) := by
        obtain ⟨pre, w, rfl, hw⟩ := startsEnding_of_cut hclose hq h ha hend
        refine ⟨mark :: pre, _, fun hmem => hnl ?_, hw, by simp⟩
        rw [← List.cons_append]
        exact List.mem_append_left _ hmem
      -- The names run past the specifier, up to its closing quote, or into it.
      rcases List.append_eq_append_iff.1 htail with ⟨a, rfl, hu'⟩ | ⟨a, rfl, rfl⟩
      · cases a with
        | nil => exact hcut (List.nil_suffix) (hu' ▸ hu)
        | cons c a =>
          obtain ⟨rfl, rfl⟩ := List.cons.inj hu'
          have ha : '\n' ∉ a := fun hmem => hm (by simp [hmem])
          obtain ⟨m', v, hm', hv, rfl⟩ := ih a ha rfl
          refine ⟨mark :: (p ++ close :: m'), v, ?_, hv, by simp⟩
          have hcl := (not_newline_of_isQuote hclose).symm
          simp only [List.mem_cons, List.mem_append, not_or] at hnl ⊢
          exact ⟨hnl.1, hnl.2, hcl, hm'⟩
      · exact hcut (List.suffix_append m a) hu

theorem startsOpening (h : Respelled s t) (ht : StartsOpening t) : StartsOpening s := by
  obtain ⟨b, r, hb, hr, rfl⟩ := ht
  obtain ⟨v, rfl, hv⟩ := h.split fun c hc => isQuote_eq_false_of_isBlank (hb.2 c hc)
  exact ⟨b, v, hb, hv.startsNames hr, rfl⟩

theorem startsClause (h : Respelled s t) (ht : StartsClause t) : StartsClause s := by
  obtain ⟨r, hr, rfl⟩ := ht
  obtain ⟨v, rfl, hv⟩ := h.split (by simp [isQuote])
  exact ⟨v, hv.startsOpening hr, rfl⟩

end Respelled

end Playground.Import
