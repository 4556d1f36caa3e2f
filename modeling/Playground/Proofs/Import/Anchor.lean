import Playground.Proofs.Import.Rescan
import Playground.Proofs.Import.Specifier

namespace Playground.Import

theorem anchor_eq_respell (filename : List Char) :
    Piece.anchor filename = Piece.respell (resolveChars filename) := by
  funext p
  cases p with
  | plain c => rfl
  | clause c =>
    simp only [Piece.anchor, Piece.respell]
    split
    · rfl
    next h =>
      rw [resolveChars_of_not_relative filename (by simpa using h)]
      rfl

/-- The parts of a text outside its spans, the part before the first and the part after the last
one included. -/
def outside {α : Type} (s : List Char) (cursor : Nat) : List (Nat × Nat × α) → List (List Char)
  | [] => [s.drop cursor]
  | (start, stop, _) :: spans => (s.take start).drop cursor :: outside s stop spans

theorem outside_map {α β : Type} (f : α → β) (s : List Char) (cursor : Nat)
    (spans : List (Nat × Nat × α)) :
    outside s cursor (spans.map fun (start, stop, a) => (start, stop, f a)) =
      outside s cursor spans := by
  induction spans generalizing cursor with
  | nil => rfl
  | cons span spans ih => simp only [List.map_cons, outside, ih]

/-- What `outside` gives for the relative specifiers, read off the pieces of the source. -/
def gaps (start : List Char) : List Piece → List (List Char)
  | [] => [start]
  | .plain c :: ps => gaps (start ++ [c]) ps
  | .clause c :: ps =>
    if isRelative c.specifier then (start ++ c.lead) :: gaps [c.close] ps
    else gaps (start ++ c.text) ps

theorem outside_relativeSpans (before start : List Char) (ps : List Piece) :
    outside (before ++ (start ++ ps.flatMap Piece.text)) before.length
      (relativeSpans (before.length + start.length) ps) = gaps start ps := by
  induction ps generalizing before start with
  | nil => simp [relativeSpans, outside, gaps]
  | cons p ps ih =>
    cases p with
    | plain c =>
      have hi := ih before (start ++ [c])
      simpa [relativeSpans, gaps, Piece.text, Nat.add_assoc] using hi
    | clause c =>
      simp only [relativeSpans, gaps]
      split
      · have htake : ((before ++ (start ++ c.lead)) ++
            (c.specifier ++ c.close :: ps.flatMap Piece.text)).take
              (before.length + start.length + c.lead.length) = before ++ (start ++ c.lead) :=
          List.take_left' (by simp [Nat.add_assoc])
        have hi := ih (before ++ (start ++ (c.lead ++ c.specifier))) [c.close]
        have htext : before ++ (start ++ (Piece.clause c :: ps).flatMap Piece.text) =
            before ++ (start ++ c.lead) ++ (c.specifier ++ c.close :: ps.flatMap Piece.text) := by
          simp [Piece.text, Clause.text]
        rw [htext, outside, htake, List.drop_left' rfl, ← hi]
        simp [Piece.text, Clause.text, Nat.add_assoc]
      · have hi := ih before (start ++ c.text)
        simpa [Piece.text, Nat.add_assoc] using hi

theorem gaps_respell (filename start : List Char) (ps : List Piece) :
    gaps start (ps.map (Piece.respell (resolveChars filename))) = gaps start ps := by
  induction ps generalizing start with
  | nil => rfl
  | cons p ps ih =>
    cases p with
    | plain c => exact ih _
    | clause c =>
      cases hrel : isRelative c.specifier with
      | true =>
        simp only [List.map_cons, Piece.respell, gaps, Clause.respell, isRelative_resolveChars,
          hrel, if_true, ih]
      | false =>
        simp only [List.map_cons, Piece.respell, gaps, Clause.respell,
          resolveChars_of_not_relative filename hrel, hrel, Bool.false_eq_true, if_false, ih]

def Piece.relative? : Piece → Option (List Char)
  | .plain _ => none
  | .clause c => if isRelative c.specifier then some c.specifier else none

theorem relativeSpans_specifiers (start : Nat) (ps : List Piece) :
    ((relativeSpans start ps).map fun span => span.2.2) = ps.filterMap Piece.relative? := by
  induction ps generalizing start with
  | nil => rfl
  | cons p ps ih =>
    cases p with
    | plain c => exact ih _
    | clause c =>
      simp only [relativeSpans, List.filterMap_cons, Piece.relative?]
      split
      · rw [List.map_cons, ih]
      · exact ih _

theorem relative?_respell (filename : List Char) (p : Piece) :
    (p.respell (resolveChars filename)).relative? = p.relative?.map (resolveChars filename) := by
  cases p with
  | plain c => rfl
  | clause c =>
    simp only [Piece.respell, Piece.relative?, Clause.respell, isRelative_resolveChars]
    split <;> rfl

theorem isQuoted_of_mem_scan {s : List Char} {c : Clause} (hc : .clause c ∈ scan s) :
    c.IsQuoted := by
  fun_induction scan s with
  | case1 s found h _ ih =>
    rcases List.mem_cons.1 hc with he | hc
    · cases he
      exact findsQuoted_clause? s found h
    · exact ih hc
  | case2 => cases hc
  | case3 c r h ih =>
    rcases List.mem_cons.1 hc with he | hc
    · cases he
    · exact ih hc

theorem findRelative_specifiers (code : String) :
    ((findRelative code).map fun span => span.2.2) =
      ((scan code.toList).filterMap Piece.relative?).map String.ofList := by
  rw [← relativeSpans_specifiers 0, findRelative, List.map_map, List.map_map]
  rfl

theorem outside_findRelative (code : String) :
    outside code.toList 0 (findRelative code) = gaps [] (scan code.toList) := by
  have h := outside_relativeSpans [] [] (scan code.toList)
  rw [scan_text] at h
  exact (outside_map String.ofList code.toList 0 _).trans h

theorem isSpecifierChar_of_mem_findRelative {code : String} {span : Nat × Nat × String}
    (h : span ∈ findRelative code) : ∀ c ∈ span.2.2.toList, isSpecifierChar c = true := by
  have hmem := List.mem_map_of_mem (f := fun span : Nat × Nat × String => span.2.2) h
  rw [findRelative_specifiers] at hmem
  obtain ⟨x, hx, he⟩ := List.mem_map.1 hmem
  obtain ⟨p, hp, hrel⟩ := List.mem_filterMap.1 hx
  rw [← he, String.toList_ofList]
  cases p with
  | plain c => cases hrel
  | clause c =>
    simp only [Piece.relative?] at hrel
    split at hrel
    · cases hrel
      exact (isQuoted_of_mem_scan hp).inside
    · cases hrel

theorem toList_anchor {filename : String} (hslash : '/' ∈ filename.toList) (code : String) :
    (anchor filename code).toList =
      (scan code.toList).flatMap fun p => (p.respell (resolveChars filename.toList)).text := by
  rw [anchor, if_pos (by simpa using hslash), String.toList_ofList, anchor_eq_respell]

/-- The relative imports of the anchored source are those of the source, each resolved, and the
rest of the source is as it was. -/
structure Rescans (filename code : String) : Prop where
  specifiers : ((findRelative (anchor filename code)).map fun span => span.2.2) =
    (findRelative code).map fun span => resolve filename span.2.2
  outside : outside (anchor filename code).toList 0 (findRelative (anchor filename code)) =
    outside code.toList 0 (findRelative code)

/-- In an anchored source the clauses of the source are found again, respelled. -/
theorem scan_anchor {filename : String} (hslash : '/' ∈ filename.toList)
    (hdir : ∀ c ∈ Path.parentChars filename.toList, isSpecifierChar c = true) (code : String) :
    scan (anchor filename code).toList =
      (scan code.toList).map (Piece.respell (resolveChars filename.toList)) := by
  rw [toList_anchor hslash]
  exact scan_respell (respells_resolveChars hdir) code.toList

theorem rescans_of_quotable {filename : String} (hslash : '/' ∈ filename.toList)
    (hdir : ∀ c ∈ Path.parentChars filename.toList, isSpecifierChar c = true) (code : String) :
    Rescans filename code := by
  have hscan := scan_anchor hslash hdir code
  constructor
  · have hresolve : (fun span : Nat × Nat × String => resolve filename span.2.2) =
        resolve filename ∘ fun span => span.2.2 := rfl
    rw [hresolve, ← List.map_map, findRelative_specifiers, findRelative_specifiers, hscan,
      List.filterMap_map, List.map_map]
    have hcomp : Piece.relative? ∘ Piece.respell (resolveChars filename.toList) =
        fun p => p.relative?.map (resolveChars filename.toList) :=
      funext (relative?_respell filename.toList)
    rw [hcomp, ← List.map_filterMap, List.map_map]
    refine List.map_congr_left fun s _ => ?_
    simp [resolve]
  · rw [outside_findRelative, outside_findRelative, hscan, gaps_respell]

/-- A source with one relative import, whose specifier is resolved to a path with the whole
directory in it. -/
def probe : String := "import a from './x'"

theorem findRelative_probe : findRelative probe = [(15, 18, "./x")] := by
  have h : clause? probe.toList = some (⟨"import a from '".toList, "./x".toList, '\''⟩, []) := by
    decide
  rw [findRelative, scan_of_some h, scan_nil]
  rfl

/-- Anchored sources can be read again exactly when the directory of the file can stand between
quotes. -/
theorem rescans_iff (filename : String) (hslash : '/' ∈ filename.toList) :
    (∀ c ∈ (Path.parent filename).toList, c ≠ '\'' ∧ c ≠ '"' ∧ c ≠ '\n') ↔
      ∀ code : String, Rescans filename code := by
  rw [Path.parent, String.toList_ofList]
  constructor
  · intro hdir
    exact rescans_of_quotable hslash fun c hc => (isSpecifierChar_iff c).2 (hdir c hc)
  · intro h c hc
    have hspec := (h probe).specifiers
    rw [findRelative_probe, List.map_singleton] at hspec
    have hmem : resolve filename "./x" ∈
        (findRelative (anchor filename probe)).map fun span => span.2.2 := by
      rw [hspec]
      exact List.mem_singleton_self _
    obtain ⟨span, hspan, he⟩ := List.mem_map.1 hmem
    have hchars := isSpecifierChar_of_mem_findRelative hspan
    rw [he, resolve, String.toList_ofList] at hchars
    have hc' : c ∈ resolveChars filename.toList "./x".toList := mem_rooted_of_mem hc ['x']
    exact (isSpecifierChar_iff c).1 (hchars c hc')

theorem rescans_iff_quotedDirectory :
    (∀ code, Rescans "forms/input.vue" code) ∧ ¬ ∀ code, Rescans "it's/input.vue" code := by
  have hplain : (Path.parent "forms/input.vue").toList = ['f', 'o', 'r', 'm', 's'] := by decide
  have hquote : (Path.parent "it's/input.vue").toList = ['i', 't', '\'', 's'] := by decide
  constructor
  · apply (rescans_iff "forms/input.vue" (by decide)).1
    rw [hplain]
    simp
  · rw [← rescans_iff "it's/input.vue" (by decide), hquote]
    simp

end Playground.Import
