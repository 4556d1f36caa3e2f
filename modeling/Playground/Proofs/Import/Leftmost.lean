import Playground.Proofs.Import.Occurrence
import Playground.Proofs.Import.Rescan

namespace Playground.Import

/-- The clauses among the pieces of a source, each with its place; `start` is the place of the first
piece. -/
def clausesAt (start : Nat) : List Piece → List (Nat × Clause)
  | [] => []
  | .plain _ :: ps => clausesAt (start + 1) ps
  | .clause c :: ps => (start, c) :: clausesAt (start + c.text.length) ps

/-- The clauses at which a source is cut, relative or not. -/
def clauses (code : String) : List (Nat × Clause) := clausesAt 0 (scan code.toList)

/-- Where the specifier of a clause lies, as start, end and text. -/
def Clause.span (place : Nat) (c : Clause) : Nat × Nat × String :=
  (place + c.lead.length, place + c.lead.length + c.specifier.length, String.ofList c.specifier)

theorem relativeSpans_eq (start : Nat) (ps : List Piece) :
    (relativeSpans start ps).map (fun (start, stop, s) => (start, stop, String.ofList s)) =
      ((clausesAt start ps).filter fun c => isRelative c.2.specifier).map
        fun c => c.2.span c.1 := by
  induction ps generalizing start with
  | nil => rfl
  | cons p ps ih =>
    cases p with
    | plain c => exact ih (start + 1)
    | clause c =>
      simp only [relativeSpans, clausesAt, List.filter_cons]
      split
      · rw [List.map_cons, List.map_cons, ← ih]
        rfl
      · exact ih _

theorem findRelative_eq (code : String) :
    findRelative code =
      ((clauses code).filter fun c => isRelative c.2.specifier).map fun c => c.2.span c.1 :=
  relativeSpans_eq 0 (scan code.toList)

/-- The occurrences that a search from `start` takes: each is the first in the text that is left,
both by its place and among those at its place, and the search goes on behind it until no occurrence
is left. -/
inductive Leftmost (code : List Char) : Nat → List (Nat × Occurrence) → Prop
  | done {start : Nat} (hnone : ∀ i, start ≤ i → ∀ o : Occurrence, ¬ o.text <+: code.drop i) :
      Leftmost code start []
  | next {start place : Nat} {o : Occurrence} {later : List (Nat × Occurrence)}
      (hle : start ≤ place) (hat : o.text <+: code.drop place)
      (hbefore : ∀ i, start ≤ i → i < place → ∀ o' : Occurrence, ¬ o'.text <+: code.drop i)
      (hfirst : ∀ o' : Occurrence, o'.text <+: code.drop place → o.Precedes o')
      (hlater : Leftmost code (place + o.text.length) later) :
      Leftmost code start ((place, o) :: later)

namespace Leftmost

variable {code : List Char} {start : Nat} {ms : List (Nat × Occurrence)}

theorem of_succ (hno : ∀ o : Occurrence, ¬ o.text <+: code.drop start)
    (h : Leftmost code (start + 1) ms) : Leftmost code start ms := by
  have extend {i : Nat} (hi : start ≤ i) : i = start ∨ start + 1 ≤ i := by omega
  cases h with
  | done hnone =>
    refine .done fun i hi => ?_
    rcases extend hi with rfl | hi
    · exact hno
    · exact hnone i hi
  | next hle hat hbefore hfirst hlater =>
    refine .next (by omega) hat (fun i hi hlt => ?_) hfirst hlater
    rcases extend hi with rfl | hi
    · exact hno
    · exact hbefore i hi hlt

/-- A search has no choice. -/
theorem unique {ms' : List (Nat × Occurrence)} (h : Leftmost code start ms)
    (h' : Leftmost code start ms') : ms' = ms := by
  induction h generalizing ms' with
  | done hnone =>
    cases h' with
    | done => rfl
    | next hle hat => exact absurd hat (hnone _ hle _)
  | @next start place o later hle hat hbefore hfirst hlater ih =>
    cases h' with
    | done hnone => exact absurd hat (hnone _ hle _)
    | @next _ place' o' later' hle' hat' hbefore' hfirst' hlater' =>
      obtain hlt | rfl | hgt := Nat.lt_trichotomy place place'
      · exact absurd hat (hbefore' place hle hlt o)
      · obtain rfl := Occurrence.eq_of_precedes hat hat' (hfirst o' hat') (hfirst' o hat)
        rw [ih hlater']
      · exact absurd hat' (hbefore place' hle' hgt o')

theorem le_of_mem (h : Leftmost code start ms) {m : Nat × Occurrence} (hm : m ∈ ms) :
    start ≤ m.1 := by
  induction h with
  | done => cases hm
  | next hle hat hbefore hfirst hlater ih =>
    rcases List.mem_cons.1 hm with rfl | hm
    · exact hle
    · have := ih hm
      omega

/-- A search passes no occurrence by: the one it takes there or before runs over its place. -/
theorem exists_covering (h : Leftmost code start ms) {place : Nat} (hstart : start ≤ place)
    {o : Occurrence} (ho : o.text <+: code.drop place) :
    ∃ m ∈ ms, m.1 ≤ place ∧ place < m.1 + m.2.text.length := by
  induction h with
  | done hnone => exact absurd ho (hnone place hstart o)
  | @next start first o' later hle hat hbefore hfirst hlater ih =>
    by_cases hin : first + o'.text.length ≤ place
    · obtain ⟨m, hm, hcovers⟩ := ih hin
      exact ⟨m, List.mem_cons_of_mem _ hm, hcovers⟩
    · refine ⟨(first, o'), List.mem_cons_self, ?_, Nat.lt_of_not_le hin⟩
      exact Nat.le_of_not_lt fun hlt => hbefore place hstart hlt o ho

theorem first_of_mem (h : Leftmost code start ms) {m : Nat × Occurrence} (hm : m ∈ ms) :
    ∀ o : Occurrence, o.text <+: code.drop m.1 → m.2.Precedes o := by
  induction h with
  | done => cases hm
  | next hle hat hbefore hfirst hlater ih =>
    rcases List.mem_cons.1 hm with rfl | hm
    · exact hfirst
    · exact ih hm

theorem stands_of_mem (h : Leftmost code start ms) {m : Nat × Occurrence} (hm : m ∈ ms) :
    m.2.text <+: code.drop m.1 := by
  induction h with
  | done => cases hm
  | next hle hat hbefore hfirst hlater ih =>
    rcases List.mem_cons.1 hm with rfl | hm
    · exact hat
    · exact ih hm

theorem pairwise (h : Leftmost code start ms) :
    ms.Pairwise fun m m' => m.1 + m.2.text.length ≤ m'.1 := by
  induction h with
  | done => exact .nil
  | next hle hat hbefore hfirst hlater ih =>
    exact List.pairwise_cons.2 ⟨fun m' hm' => hlater.le_of_mem hm', ih⟩

end Leftmost

/-- Cutting a source into pieces takes the occurrences that a search takes. -/
theorem exists_leftmost (code : List Char) (start : Nat) :
    ∃ ms, Leftmost code start ms ∧
      clausesAt start (scan (code.drop start)) = ms.map fun m => (m.1, m.2.clause) := by
  generalize hs : code.drop start = s
  fun_induction scan s generalizing start with
  | case1 s found h _ ih =>
    obtain ⟨o, ho, hfirst⟩ := clause?_first h
    have htext : s = o.text ++ found.2 := by rw [Occurrence.text, ← ho, ← clause?_text h]
    have hrest : code.drop (start + o.text.length) = found.2 := by
      rw [← List.drop_drop, hs, htext, List.drop_left' rfl]
    obtain ⟨ms, hms, hclauses⟩ := ih _ hrest
    refine ⟨(start, o) :: ms, ?_, ?_⟩
    · refine .next (Nat.le_refl start) ?_ (fun i hi hlt => by omega) ?_ hms
      · exact ⟨found.2, by rw [hs, htext]⟩
      · rwa [hs]
    · simp only [clausesAt, List.map_cons, ho]
      exact congrArg _ hclauses
  | case2 =>
    refine ⟨[], .done fun i hi o hat => ?_, rfl⟩
    have hnil : code.drop i = [] := List.drop_eq_nil_iff.2 ((List.drop_eq_nil_iff.1 hs).trans hi)
    rw [hnil, List.prefix_nil] at hat
    exact o.text_ne_nil hat
  | case3 c r h ih =>
    have hrest : code.drop (start + 1) = r := by
      rw [← List.drop_drop, hs]
      rfl
    obtain ⟨ms, hms, hclauses⟩ := ih _ hrest
    refine ⟨ms, .of_succ ?_ hms, hclauses⟩
    rw [hs]
    exact (clause?_eq_none_iff _).1 h

/-- The span of an occurrence lies in its text. -/
theorem Occurrence.span_inside {o : Occurrence} {code : List Char} {place : Nat}
    (h : o.text <+: code.drop place) :
    (o.clause.span place).2.1 < place + o.text.length ∧
      (o.clause.span place).2.1 ≤ code.length ∧
      (code.take (o.clause.span place).2.1).drop (o.clause.span place).1 = o.specifier := by
  obtain ⟨rest, htext⟩ := h
  have hlength : o.text.length = o.clause.lead.length + o.specifier.length + 1 := by
    simp [Occurrence.text, Clause.text, Occurrence.clause, Ending.within]
    omega
  have hcode : o.text.length ≤ code.length - place := by
    rw [← List.length_drop, ← htext, List.length_append]
    omega
  have hlead : code.drop (place + o.clause.lead.length) =
      o.specifier ++ o.close :: rest := by
    rw [← List.drop_drop, ← htext]
    simp [Occurrence.text, Clause.text, Occurrence.clause, Ending.within]
  have hspecifier : o.clause.specifier = o.specifier := rfl
  refine ⟨?_, ?_, ?_⟩
  · simp only [Clause.span, hspecifier]
    omega
  · simp only [Clause.span, hspecifier]
    omega
  · simp only [Clause.span, hspecifier]
    rw [List.drop_take, hlead, Nat.add_sub_cancel_left, List.take_left' rfl]

/-- What a search through a whole source takes are its clauses, and the relative imports are read
off them. -/
theorem exists_search (code : String) :
    ∃ ms, Leftmost code.toList 0 ms ∧ clauses code = ms.map (fun m => (m.1, m.2.clause)) ∧
      findRelative code =
        (ms.filter fun m => isRelative m.2.specifier).map fun m => m.2.clause.span m.1 := by
  obtain ⟨ms, hms, hclauses⟩ := exists_leftmost code.toList 0
  rw [List.drop_zero] at hclauses
  refine ⟨ms, hms, hclauses, ?_⟩
  rw [findRelative_eq, clauses, hclauses, List.filter_map, List.map_map]
  rfl

/-- The relative imports of a source are those of its occurrences, found from left to right, that
have a relative specifier. The search is determined by the grammar, and the spans are where the
source holds the specifiers. -/
theorem findRelative_leftmost (code : String) :
    ∃ ms : List (Nat × Occurrence),
      (∀ ms', Leftmost code.toList 0 ms' ↔ ms' = ms) ∧
      clauses code = ms.map (fun m => (m.1, m.2.clause)) ∧
      findRelative code =
        (ms.filter fun m => isRelative m.2.specifier).map (fun m => m.2.clause.span m.1) ∧
      ((findRelative code).Pairwise fun a b => a.2.1 < b.1) ∧
      ∀ span ∈ findRelative code, span.1 ≤ span.2.1 ∧ span.2.1 ≤ code.toList.length ∧
        (code.toList.take span.2.1).drop span.1 = span.2.2.toList := by
  obtain ⟨ms, hms, hclauses, hspans⟩ := exists_search code
  refine ⟨ms, fun ms' => ⟨hms.unique, fun h => h ▸ hms⟩, hclauses, hspans, ?_, ?_⟩
  · rw [hspans, List.pairwise_map]
    refine (hms.pairwise.filter _).imp_of_mem fun {m m'} hm _ hle => ?_
    have hstop := (Occurrence.span_inside (hms.stands_of_mem (List.mem_filter.1 hm).1)).1
    have hstart : m'.1 ≤ (m'.2.clause.span m'.1).1 := Nat.le_add_right _ _
    omega
  · intro span hspan
    rw [hspans] at hspan
    obtain ⟨m, hm, rfl⟩ := List.mem_map.1 hspan
    have hin := Occurrence.span_inside (hms.stands_of_mem (List.mem_filter.1 hm).1)
    refine ⟨Nat.le_add_right _ _, hin.2.1, ?_⟩
    rw [hin.2.2]
    exact (String.toList_ofList).symm

end Playground.Import
