import Playground.Import.Clause
import Playground.Import.Specifier

namespace Playground.Import

/-- A source is a sequence of plain characters and import clauses. -/
inductive Piece
  | plain (c : Char)
  | clause (c : Clause)
  deriving DecidableEq, Repr

def Piece.text : Piece → List Char
  | .plain c => [c]
  | .clause c => c.text

/-- Cuts a source at its import clauses, from left to right. -/
def scan (s : List Char) : List Piece :=
  match h : clause? s with
  | some found =>
    have := length_lt_of_clause? h
    .clause found.1 :: scan found.2
  | none =>
    match s with
    | [] => []
    | c :: r => .plain c :: scan r
termination_by s.length

def isRelative (specifier : List Char) : Bool := specifier.head? = some '.'

/-- Where the relative specifiers lie, as start, end and text; `start` is the place of the first
piece. -/
def relativeSpans (start : Nat) : List Piece → List (Nat × Nat × List Char)
  | [] => []
  | p :: ps =>
    let later := relativeSpans (start + p.text.length) ps
    match p with
    | .plain _ => later
    | .clause c =>
      if isRelative c.specifier then
        let from_ := start + c.lead.length
        (from_, from_ + c.specifier.length, c.specifier) :: later
      else later

def findRelative (code : String) : List (Nat × Nat × String) :=
  (relativeSpans 0 (scan code.toList)).map fun (start, stop, s) => (start, stop, String.ofList s)

def Piece.anchor (filename : List Char) : Piece → Piece
  | .plain c => .plain c
  | .clause c =>
    if isRelative c.specifier then
      .clause { c with specifier := resolveChars filename c.specifier }
    else .clause c

/-- Reads every relative import of `code` from the virtual root. A file at the root stays as it
is, since its relative imports already start there. -/
def anchor (filename code : String) : String :=
  if filename.toList.contains '/' then
    String.ofList ((scan code.toList).flatMap fun p => (p.anchor filename.toList).text)
  else code

theorem scan_text (s : List Char) : (scan s).flatMap Piece.text = s := by
  fun_induction scan s with
  | case1 s found h _ ih =>
    rw [List.flatMap_cons, ih]
    exact (clause?_text h).symm
  | case2 => rfl
  | case3 c r _ ih => simp [ih, Piece.text]

end Playground.Import
