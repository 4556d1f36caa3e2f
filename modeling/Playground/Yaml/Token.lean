import Playground.Yaml.BlockText
import Playground.Yaml.PlainText
import Playground.Yaml.QuotedText

/-! The tokens of a text, with simple keys and indents as the scanner of the library is assumed to
find them. -/

namespace Playground.Yaml

/-- A text; `plain` tells that it has no quotes and is no block, so that it may stand
for something else than a text. -/
structure WrittenText where
  chars : List Char
  plain : Bool
  deriving DecidableEq, Repr

inductive Token
  | directive (d : Directive)
  | documentStart
  | documentEnd
  | blockSequenceStart
  | blockMappingStart
  | blockEnd
  | flowSequenceStart
  | flowSequenceEnd
  | flowMappingStart
  | flowMappingEnd
  | blockEntry
  | flowEntry
  | key
  | value
  | alias (name : List Char)
  | anchor (name : List Char)
  | tag (written : WrittenTag)
  | text (written : WrittenText)
  deriving DecidableEq, Repr

/-- A token that a colon may turn into the key of a mapping later: how many tokens come before it,
and where it stands. It is required when nothing else can stand at its column. -/
structure KeyPlace where
  before : Nat
  required : Bool
  index : Nat
  line : Nat
  column : Nat
  deriving DecidableEq, Repr

/-- The state of the reading: the tokens so far, the latest first, the columns of the blocks around,
the innermost first, and for each bracket around a key that is still possible. -/
structure Layout where
  cursor : Cursor
  tokens : List Token := []
  indent : Int := -1
  outerIndents : List Int := []
  keyPlace : Option KeyPlace := none
  outerKeys : List (Option KeyPlace) := []
  keyAllowed : Bool := true
  deriving Repr

namespace Layout

def inFlow (s : Layout) : Bool := !s.outerKeys.isEmpty

def emit (t : Token) (s : Layout) : Layout := { s with tokens := t :: s.tokens }

def allow (allowed : Bool) (s : Layout) : Layout := { s with keyAllowed := allowed }

def moveTo (c : Cursor) (s : Layout) : Layout := { s with cursor := c }

def advance (n : Nat) (s : Layout) : Layout := s.moveTo (s.cursor.skip n)

/-- A key ends on its line and within 1024 characters. -/
def longestKey : Nat := 1024

def KeyPlace.isStale (k : KeyPlace) (c : Cursor) : Bool :=
  k.line != c.line || longestKey + k.index < c.index

def dropStaleKey (c : Cursor) : Option KeyPlace → Reading (Option KeyPlace)
  | none => .ok none
  | some k =>
    if !KeyPlace.isStale k c then .ok (some k)
    else if k.required then malformed
    else .ok none

def dropStale (s : Layout) : Reading Layout := do
  return { s with
    keyPlace := ← dropStaleKey s.cursor s.keyPlace
    outerKeys := ← s.outerKeys.mapM (dropStaleKey s.cursor) }

def dropKey (s : Layout) : Reading Layout :=
  if s.keyPlace.any (·.required) then malformed else .ok { s with keyPlace := none }

def saveKey (s : Layout) : Reading Layout :=
  if !s.keyAllowed then .ok s
  else do
    let s ← s.dropKey
    let c := s.cursor
    let required := !s.inFlow && s.indent == c.column
    return { s with keyPlace := some ⟨s.tokens.length, required, c.index, c.line, c.column⟩ }

/-- Closes the blocks that are deeper than a column. -/
def unwind (column : Int) (s : Layout) : Layout :=
  if s.inFlow then s
  else
    let deeper := (s.indent :: s.outerIndents).takeWhile fun i => decide (column < i)
    match (s.indent :: s.outerIndents).drop deeper.length with
    | i :: outer =>
      { s with
        indent := i
        outerIndents := outer
        tokens := List.replicate deeper.length .blockEnd ++ s.tokens }
    | [] => s

/-- Text with more blocks or brackets open than this is not read on. -/
def deepestLayout : Nat := 1600

def indentTo (column : Nat) (s : Layout) : Reading Layout :=
  if deepestLayout ≤ s.outerIndents.length then .error .tooDeep
  else .ok { s with indent := column, outerIndents := s.indent :: s.outerIndents }

/-- Starts a block of the column if it is deeper than the one around. -/
def openBlock (start : Token) (s : Layout) : Reading Layout :=
  if s.inFlow then .ok s
  else if !s.keyAllowed then malformed
  else if s.indent < s.cursor.column then (s.indentTo s.cursor.column).map (·.emit start)
  else .ok s

def insertAt (place : Nat) (new : List Token) (s : Layout) : Layout :=
  let newer := s.tokens.take (s.tokens.length - place)
  { s with tokens := newer ++ new ++ s.tokens.drop newer.length }

def markDocument (t : Token) (s : Layout) : Reading Layout := do
  return ((← (s.unwind (-1)).dropKey).allow false).advance 3 |>.emit t

def readDirective (s : Layout) : Reading Layout := do
  let s ← (s.unwind (-1)).dropKey
  let (d, c) ← directive s.cursor
  return ((s.allow false).moveTo c).emit (.directive d)

def openFlow (t : Token) (s : Layout) : Reading Layout := do
  if deepestLayout ≤ s.outerKeys.length then throw .tooDeep
  let s ← s.saveKey
  return (({ s with outerKeys := s.keyPlace :: s.outerKeys, keyPlace := none }.allow true).advance 1
    |>.emit t)

def closeFlow (t : Token) (s : Layout) : Reading Layout := do
  let s ← s.dropKey
  match s.outerKeys with
  | [] => malformed
  | k :: outer =>
    return ({ s with keyPlace := k, outerKeys := outer }.allow false).advance 1 |>.emit t

def separateFlow (s : Layout) : Reading Layout := do
  return ((← (s.allow true).dropKey).advance 1).emit .flowEntry

def startEntry (s : Layout) : Reading Layout := do
  let s ← s.openBlock .blockSequenceStart
  return ((← (s.allow true).dropKey).advance 1).emit .blockEntry

def startKey (s : Layout) : Reading Layout := do
  let s ← s.openBlock .blockMappingStart
  return ((← (s.allow !s.inFlow).dropKey).advance 1).emit .key

/-- A colon makes the possible key before it a key, else it stands for an empty one. -/
def startValue (s : Layout) : Reading Layout := do
  match s.keyPlace with
  | some k =>
    let s := { s with keyPlace := none }
    let s ← if !s.inFlow && decide (s.indent < (k.column : Int)) then
        (s.indentTo k.column).map (·.insertAt k.before [.key, .blockMappingStart])
      else pure (s.insertAt k.before [.key])
    return ((s.allow false).advance 1).emit .value
  | none => do
    let s ← s.openBlock .blockMappingStart
    return ((← (s.allow !s.inFlow).dropKey).advance 1).emit .value

/-- A token that can be a key, by the function that reads it. -/
def readKeyed {α : Type} (read : Cursor → Reading (α × Cursor)) (token : α → Token) (s : Layout) :
    Reading Layout := do
  let s ← s.saveKey
  let (a, c) ← read s.cursor
  return ((s.allow false).moveTo c).emit (token a)

def readPlain (s : Layout) : Reading Layout := do
  let s ← s.saveKey
  let (chars, broken, c) := PlainText.read s.inFlow (s.indent + 1) s.cursor
  return ((s.allow broken).moveTo c).emit (.text ⟨chars, true⟩)

def readBlock (folded : Bool) (s : Layout) : Reading Layout := do
  let s ← (s.allow true).dropKey
  let (chars, c) ← BlockText.read folded s.indent s.cursor
  return (s.moveTo c).emit (.text ⟨chars, false⟩)

/-- Past spaces, comments and line breaks. Outside of brackets a new line may start with a key. -/
def toNextToken : Nat → Layout → Layout
  | 0, s => s
  | fuel + 1, s =>
    let c := s.cursor.skipSpaces.skipComment
    match c.lineBreak? with
    | some (_, c) => toNextToken fuel ((s.moveTo c).allow (!s.inFlow || s.keyAllowed))
    | none => s.moveTo c

def skipMark (s : Layout) : Layout :=
  if s.cursor.index == 0 && s.cursor.peek == some '\uFEFF' then s.advance 1 else s

def readToken (a : Char) (s : Layout) : Reading Layout :=
  let c := s.cursor
  let lone := s.inFlow || endsWord (c.peekAt 1)
  if a == '%' && c.column == 0 then s.readDirective
  else if c.column == 0 && c.isMarker ['-', '-', '-'] then s.markDocument .documentStart
  else if c.column == 0 && c.isMarker ['.', '.', '.'] then s.markDocument .documentEnd
  else if a == '[' then s.openFlow .flowSequenceStart
  else if a == '\x7b' then s.openFlow .flowMappingStart
  else if a == ']' then s.closeFlow .flowSequenceEnd
  else if a == '\x7d' then s.closeFlow .flowMappingEnd
  else if a == ',' then s.separateFlow
  else if a == '-' && endsWord (c.peekAt 1) then s.startEntry
  else if a == '?' && lone then s.startKey
  else if a == ':' && lone then s.startValue
  else if a == '*' then s.readKeyed anchorName .alias
  else if a == '&' then s.readKeyed anchorName .anchor
  else if a == '!' then s.readKeyed tag .tag
  else if a == '|' && !s.inFlow then s.readBlock false
  else if a == '>' && !s.inFlow then s.readBlock true
  else if a == '\'' || a == '"' then s.readKeyed QuotedText.read fun chars => .text ⟨chars, false⟩
  else if PlainText.startsAt s.inFlow c then s.readPlain
  else malformed

def run : Nat → Layout → Reading (List Token)
  | 0, _ => malformed
  | fuel + 1, s => do
    let s := s.skipMark
    let s ← (toNextToken (s.cursor.rest.length + 1) s).dropStale
    let s := s.unwind s.cursor.column
    match s.cursor.peek with
    | none => return (← (s.unwind (-1)).dropKey).tokens.reverse
    | some a => run fuel (← s.readToken a)

end Layout

/-- The tokens of a text. Indentation shows as starts and ends of blocks. -/
def tokens (s : List Char) : Reading (List Token) :=
  Layout.run (s.length + 2) { cursor := ⟨s, 0, 0, 0⟩ }

end Playground.Yaml
