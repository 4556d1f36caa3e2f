import Playground.Text.Utf8
import Playground.Yaml.Cursor

/-! Tags, anchors, aliases and directives, as the scanner of the library is assumed to take them. -/

namespace Playground.Yaml

/-- A tag as it is written: verbatim, or with a handle that stands for the start of it. -/
inductive WrittenTag
  | verbatim (text : List Char)
  | short (handle text : List Char)
  deriving DecidableEq, Repr

inductive Directive
  | version (major : Nat)
  | tag (handle start : List Char)
  | other
  deriving DecidableEq, Repr

def isDigit (c : Char) : Bool := '0' ≤ c && c ≤ '9'

def isNameChar (c : Char) : Bool :=
  isDigit c || ('A' ≤ c && c ≤ 'Z') || ('a' ≤ c && c ≤ 'z') || c == '-' || c == '_'

def isUriChar (c : Char) : Bool := isNameChar c || ";/?:@&=+$,.!~*'()[]%".toList.contains c

def hexValue? (c : Char) : Option Nat :=
  if '0' ≤ c ∧ c ≤ '9' then some (c.toNat - 48)
  else if 'a' ≤ c ∧ c ≤ 'f' then some (c.toNat - 87)
  else if 'A' ≤ c ∧ c ≤ 'F' then some (c.toNat - 55)
  else none

/-- The number that the next `n` hexadecimal digits make. -/
def hexNumber? (n : Nat) (s : List Char) : Option Nat :=
  if s.length < n then none
  else (s.take n).foldlM (fun sum c => (hexValue? c).map (sum * 16 + ·)) 0

/-- The name after the mark of an anchor or alias. -/
def anchorName (c : Cursor) : Reading (List Char × Cursor) :=
  let c := c.next
  let name := c.taken isNameChar
  let after := c.skip name.length
  if name.isEmpty then malformed
  else match after.peek with
    | some a =>
      if endsWord (some a) || "?:,]\x7d%@`".toList.contains a then .ok (name, after) else malformed
    | none => .ok (name, after)

/-- The bytes of a run of percent escapes. -/
def uriBytes : Nat → List Char → Option (List Nat × List Char)
  | 0, s => some ([], s)
  | fuel + 1, s =>
    match s with
    | '%' :: r =>
      match hexNumber? 2 r with
      | none => none
      | some n => (uriBytes fuel (r.drop 2)).map fun p => (n :: p.1, p.2)
    | s => some ([], s)

def uriChars : Nat → List Char → Option (List Char)
  | 0, _ => some []
  | fuel + 1, s =>
    match s with
    | [] => some []
    | '%' :: r => do
      let (bytes, rest) ← uriBytes (r.length + 1) ('%' :: r)
      let chars ← (Text.decodeUtf8 bytes).toOption
      return chars ++ (← uriChars fuel rest)
    | a :: r => (uriChars fuel r).map (a :: ·)

/-- The rest of a tag: address characters, escapes among them read as bytes of a text. -/
def uri (c : Cursor) : Reading (List Char × Cursor) :=
  let written := c.taken isUriChar
  match uriChars (written.length + 1) written with
  | some chars => if written.isEmpty then malformed else .ok (chars, c.skip written.length)
  | none => malformed

/-- A handle: one exclamation mark, or a name between two. -/
def tagHandle (c : Cursor) : Reading (List Char × Cursor) :=
  if c.peek != some '!' then malformed
  else if c.peekAt 1 == some ' ' then .ok (['!'], c.next)
  else
    let name := c.next.taken isNameChar
    if c.peekAt (name.length + 1) == some '!' then
      .ok ('!' :: name ++ ['!'], c.skip (name.length + 2))
    else malformed

/-- Whether a second exclamation mark comes before the end of the word. -/
def hasHandle (c : Cursor) : Bool := (c.next.taken fun a => !endsField (some a)).contains '!'

def tag (c : Cursor) : Reading (WrittenTag × Cursor) := do
  let (written, after) ←
    if c.peekAt 1 == some '<' then do
      let (text, after) ← uri (c.skip 2)
      if after.peek == some '>' then pure (WrittenTag.verbatim text, after.next) else malformed
    else if endsWord (c.peekAt 1) then pure (WrittenTag.verbatim ['!'], c.next)
    else do
      let (handle, after) ← if hasHandle c then tagHandle c else pure (['!'], c.next)
      let (text, after) ← uri after
      pure (WrittenTag.short handle text, after)
  if endsField after.peek then return (written, after) else malformed

def number (c : Cursor) : Reading (Nat × Cursor) :=
  let digits := c.taken isDigit
  if digits.isEmpty then malformed
  else .ok (digits.foldl (fun n d => n * 10 + (d.toNat - 48)) 0, c.skip digits.length)

def versionDirective (c : Cursor) : Reading (Directive × Cursor) := do
  let (major, c) ← number c.skipSpaces
  if c.peek != some '.' then malformed
  let (_, c) ← number c.next
  if endsField c.peek then return (.version major, c) else malformed

def tagDirective (c : Cursor) : Reading (Directive × Cursor) := do
  let (handle, c) ← tagHandle c.skipSpaces
  if c.peek != some ' ' then malformed
  let (start, c) ← uri c.skipSpaces
  if endsField c.peek then return (.tag handle start, c) else malformed

/-- A directive with its line. Those of other names are skipped. -/
def directive (c : Cursor) : Reading (Directive × Cursor) := do
  let c := c.next
  let name := c.taken isNameChar
  let after := c.skip name.length
  if name.isEmpty || !endsField after.peek then malformed
  let (d, after) ←
    if name = "YAML".toList then versionDirective after
    else if name = "TAG".toList then tagDirective after
    else pure (.other, after.skipWhile fun a => !isBreak a)
  return (d, ← after.endLine)

end Playground.Yaml
