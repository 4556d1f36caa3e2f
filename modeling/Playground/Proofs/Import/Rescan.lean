import Playground.Import.Anchor
import Playground.Proofs.Import.Respelled

namespace Playground.Import

def Clause.respell (c : Clause) (specifier : List Char) : Clause := { c with specifier }

theorem Clause.respell_after (lead q t : List Char) (inner : Clause × List Char) :
    ((Clause.after lead inner).1.respell q).text ++ t =
      lead ++ ((inner.1.respell q).text ++ t) := by
  simp [Clause.respell, Clause.after, Clause.text]

theorem Respelled.clause {c : Clause} (hc : c.IsQuoted) {q rest t : List Char}
    (hq : Respells c.specifier q) (h : Respelled rest t) :
    Respelled (c.text ++ rest) ((c.respell q).text ++ t) := by
  obtain ⟨⟨lead, mark, hm, hlead⟩, hx, hclose⟩ := hc
  simpa [Clause.text, Clause.respell, hlead] using (h.respell hm hclose hx hq).append lead

/-- A reader that finds a clause finds it again, respelled, in the text where it and the clauses
after it are respelled. -/
def Rereads (next : List Char → Option (Clause × List Char)) : Prop :=
  ∀ (s : List Char) (found : Clause × List Char), next s = some found →
    ∀ (q t : List Char), Respells found.1.specifier q → Respelled found.2 t →
      next ((found.1.respell q).text ++ t) = some (found.1.respell q, t)

theorem rereads_quoted? : Rereads quoted? := by
  intro s found hf q t hq _
  obtain ⟨⟨mark, hm, hlead⟩, -, hc⟩ := quoted?_eq_some hf
  have hnew := quoted?_append hm hq.1 hc t
  simpa [Clause.text, Clause.respell, hlead] using hnew

theorem Rereads.word? {next : List Char → Option (Clause × List Char)} (h : Rereads next)
    (word : List Char) : Rereads (word? word next) := by
  intro s found hf q t hq ht
  unfold Import.word? at hf
  split at hf
  · obtain ⟨inner, hi, rfl⟩ := Option.map_eq_some_iff.1 hf
    rw [Clause.respell_after, word?_append, h _ inner hi q t hq ht]
    rfl
  · cases hf

theorem Rereads.blanks? {next : List Char → Option (Clause × List Char)} (h : Rereads next)
    (hnext : StopsBlanks next) : Rereads (blanks? next) := by
  intro s found hf q t hq ht
  unfold Import.blanks? at hf
  split at hf
  · cases hf
  next hne =>
    obtain ⟨inner, hi, rfl⟩ := Option.map_eq_some_iff.1 hf
    have hnew := h _ inner hi q t hq ht
    have hb : IsBlankRun (s.takeWhile Text.isBlank) := ⟨hne, fun c hc => List.mem_takeWhile_imp hc⟩
    rw [Clause.respell_after, blanks?_append hnext hb (by rw [hnew]; rfl), hnew]
    rfl

theorem rereads_ending : Rereads (blanks? from?) :=
  ((rereads_quoted?.blanks? stopsBlanks_quoted?).word? _).blanks? stopsBlanks_from?

theorem names?_of_ending {s : List Char} {found : Clause × List Char}
    (h : blanks? from? s = some found) : names? s = some found := by
  cases s with
  | nil => simp [blanks?] at h
  | cons c r => rw [names?.eq_2, h, Option.some_or]

theorem rereads_names? : Rereads names? := by
  intro s
  induction s with
  | nil =>
    intro found hf
    simp [names?.eq_1] at hf
  | cons c r ih =>
    intro found hf q t hq ht
    rw [names?.eq_2] at hf
    rcases Option.or_eq_some_iff.1 hf with hend | ⟨hno, hlater⟩
    · exact names?_of_ending (rereads_ending _ found hend q t hq ht)
    · split at hlater
      · cases hlater
      next hc =>
        obtain ⟨inner, hi, rfl⟩ := Option.map_eq_some_iff.1 hlater
        have hr : Respelled (c :: r) (c :: ((inner.1.respell q).text ++ t)) := by
          refine .keep c ?_
          rw [names?_text hi]
          exact .clause (findsQuoted_names? r inner hi) hq ht
        have hno' : blanks? from? (c :: ((inner.1.respell q).text ++ t)) = none := by
          rw [← Option.not_isSome_iff_eq_none, ending_isSome_iff] at hno ⊢
          exact fun h => hno (hr.startsEnding h)
        rw [Clause.respell_after, List.singleton_append, names?.eq_2, hno', Option.none_or,
          if_neg hc, ih inner hi q t hq ht]
        rfl

theorem rereads_opening? : Rereads opening? := by
  intro s
  induction s with
  | nil =>
    intro found hf
    simp [opening?] at hf
  | cons c r ih =>
    intro found hf q t hq ht
    rw [opening?] at hf
    split at hf
    next hc =>
      obtain ⟨inner, hi, rfl⟩ := Option.map_eq_some_iff.1 hf
      rw [Clause.respell_after, List.singleton_append, opening?, if_pos hc]
      rcases Option.or_eq_some_iff.1 hi with hlonger | ⟨hno, hnames⟩
      · rw [ih inner hlonger q t hq ht]
        rfl
      · have hr : Respelled r ((inner.1.respell q).text ++ t) := by
          rw [names?_text hnames]
          exact .clause (findsQuoted_names? r inner hnames) hq ht
        have hno' : opening? ((inner.1.respell q).text ++ t) = none := by
          rw [← Option.not_isSome_iff_eq_none, opening?_isSome_iff] at hno ⊢
          exact fun h => hno (hr.startsOpening h)
        rw [hno', Option.none_or, rereads_names? r inner hnames q t hq ht]
        rfl
    · cases hf

theorem rereads_clause? : Rereads clause? := rereads_opening?.word? _

theorem scan_nil : scan [] = [] := by
  rw [scan]
  split
  next found h => simp [clause?, word?] at h
  · rfl

theorem scan_of_some {s : List Char} {found : Clause × List Char} (h : clause? s = some found) :
    scan s = .clause found.1 :: scan found.2 := by
  rw [scan]
  split
  next found' h' =>
    rw [h] at h'
    cases h'
    rfl
  next h' =>
    rw [h] at h'
    cases h'

theorem scan_of_none {c : Char} {r : List Char} (h : clause? (c :: r) = none) :
    scan (c :: r) = .plain c :: scan r := by
  rw [scan]
  split
  next h' =>
    rw [h] at h'
    cases h'
  · rfl

/-- A way to respell the clauses of a source. -/
def Piece.respell (f : List Char → List Char) : Piece → Piece
  | .plain c => .plain c
  | .clause c => .clause (c.respell (f c.specifier))

variable {f : List Char → List Char}

theorem respelled_scan (hf : ∀ p, (∀ c ∈ p, isSpecifierChar c = true) → Respells p (f p))
    (s : List Char) : Respelled s ((scan s).flatMap fun p => (p.respell f).text) := by
  fun_induction scan s with
  | case1 s found h _ ih =>
    have hc := findsQuoted_clause? s found h
    rw [List.flatMap_cons]
    have hr := ih.clause hc (hf _ hc.inside)
    rwa [← clause?_text h] at hr
  | case2 => exact .nil
  | case3 c r _ ih => exact ih.keep c

/-- Scanning is stable: in a source respelled at its clauses the same clauses are found again,
with no clause gained, lost or moved. -/
theorem scan_respell (hf : ∀ p, (∀ c ∈ p, isSpecifierChar c = true) → Respells p (f p))
    (s : List Char) :
    scan ((scan s).flatMap fun p => (p.respell f).text) = (scan s).map (Piece.respell f) := by
  fun_induction scan s with
  | case1 s found h _ ih =>
    have hq := hf _ (findsQuoted_clause? s found h).inside
    have hnew := rereads_clause? s found h _ _ hq (respelled_scan hf found.2)
    rw [List.flatMap_cons, List.map_cons, ← ih]
    exact scan_of_some hnew
  | case2 => exact scan_nil
  | case3 c r h ih =>
    have hr : Respelled (c :: r) (c :: (scan r).flatMap fun p => (p.respell f).text) :=
      (respelled_scan hf r).keep c
    have hno : clause? (c :: (scan r).flatMap fun p => (p.respell f).text) = none := by
      rw [← Option.not_isSome_iff_eq_none, clause?_isSome_iff] at h ⊢
      exact fun hclause => h (hr.startsClause hclause)
    rw [List.flatMap_cons, List.map_cons, ← ih]
    exact scan_of_none hno

end Playground.Import
