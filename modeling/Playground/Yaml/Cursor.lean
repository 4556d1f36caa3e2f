/-! The modules on YAML stand in for the library that loads the settings of a project. They state
what is assumed of it: the safe loading of version 1.1, with one document in a text. Here is the
place in the text that its scanner moves along. -/

namespace Playground.Yaml

/-- Why a text is no value. Numbers and dates that are marked as such but cannot be read have
causes of their own, and so have very deep trees. -/
inductive ReadError
  | malformed
  | tooDeep
  | badCodePoint
  | hugeCodePoint
  | emptyNumber
  | badWhole (base : Nat) (text : String)
  | tooManyDigits (count : Nat)
  | badReal (text : String)
  | hugeReal
  | badTruth (text : String)
  | dateInMapping
  | notDate
  | badDate (reason : String)
  deriving DecidableEq, Repr

abbrev Reading := Except ReadError

def malformed {α : Type} : Reading α := .error .malformed

def isBreak (c : Char) : Bool :=
  c == '\n' || c == '\r' || c == '\u0085' || c == '\u2028' || c == '\u2029'

def isSpaceTab (c : Char) : Bool := c == ' ' || c == '\t'

/-- Whether a character that may be missing at the end of the text is a line break or that end. -/
def endsLine : Option Char → Bool
  | none => true
  | some c => isBreak c

def endsWord : Option Char → Bool
  | none => true
  | some c => isBreak c || isSpaceTab c

/-- Like `endsWord`, but a tab does not count. -/
def endsField (c : Option Char) : Bool := endsLine c || c == some ' '

/-- A place in a text: what follows, and how far it is from the start of the text and of the
line. -/
structure Cursor where
  rest : List Char
  index : Nat := 0
  line : Nat := 0
  column : Nat := 0
  deriving Repr

namespace Cursor

def peek (c : Cursor) : Option Char := c.rest.head?

def peekAt (n : Nat) (c : Cursor) : Option Char := c.rest[n]?

/-- Past one character. A carriage return ends the line only when no line feed follows, and a byte
order mark takes no column. -/
def next (c : Cursor) : Cursor :=
  match c.rest with
  | [] => c
  | a :: r =>
    if isBreak a && !(a == '\r' && r.head? == some '\n') then ⟨r, c.index + 1, c.line + 1, 0⟩
    else ⟨r, c.index + 1, c.line, if a == '\uFEFF' then c.column else c.column + 1⟩

def skip : Nat → Cursor → Cursor
  | 0, c => c
  | n + 1, c => skip n c.next

def taken (p : Char → Bool) (c : Cursor) : List Char := c.rest.takeWhile p

def skipWhile (p : Char → Bool) (c : Cursor) : Cursor := c.skip (c.taken p).length

/-- The line break here, if there is one, and the place after it. All breaks but the separators of
lines and paragraphs read as a line feed. -/
def lineBreak? (c : Cursor) : Option (Char × Cursor) :=
  match c.rest with
  | '\r' :: '\n' :: _ => some ('\n', c.skip 2)
  | a :: _ =>
    if isBreak a then some (if a == '\u2028' || a == '\u2029' then a else '\n', c.next) else none
  | [] => none

def pastBreak (c : Cursor) : Cursor := (c.lineBreak?.map (·.2)).getD c

def skipSpaces (c : Cursor) : Cursor := c.skipWhile (· == ' ')

/-- Past a comment, if one starts here. -/
def skipComment (c : Cursor) : Cursor :=
  if c.peek == some '#' then c.skipWhile (fun a => !isBreak a) else c

/-- A line that starts with three dashes or three dots starts or ends a document. -/
def isMarker (mark : List Char) (c : Cursor) : Bool :=
  mark.isPrefixOf c.rest && endsWord (c.peekAt 3)

def isSeparator (c : Cursor) : Bool :=
  c.isMarker ['-', '-', '-'] || c.isMarker ['.', '.', '.']

/-- Past what may stand at the end of a line: spaces and a comment. -/
def endLine (c : Cursor) : Reading Cursor :=
  let c := c.skipSpaces.skipComment
  if endsLine c.peek then .ok c.pastBreak else malformed

end Cursor

end Playground.Yaml
