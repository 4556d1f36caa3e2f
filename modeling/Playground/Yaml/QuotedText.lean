import Playground.Yaml.Label

/-! Texts in quotes, with the escapes that the scanner of the library is assumed to know. -/

namespace Playground.Yaml.QuotedText

def isPlain (c : Char) : Bool :=
  !(c == '\'' || c == '"' || c == '\\' || isSpaceTab c || isBreak c)

def shortEscape? : Char → Option Nat
  | '0' => some 0
  | 'a' => some 7
  | 'b' => some 8
  | 't' => some 9
  | '\t' => some 9
  | 'n' => some 10
  | 'v' => some 11
  | 'f' => some 12
  | 'r' => some 13
  | 'e' => some 27
  | ' ' => some 0x20
  | '"' => some 0x22
  | '\\' => some 0x5C
  | '/' => some 0x2F
  | 'N' => some 0x85
  | '_' => some 0xA0
  | 'L' => some 0x2028
  | 'P' => some 0x2029
  | _ => none

/-- How many digits an escape of a code point has. -/
def escapeWidth? : Char → Option Nat
  | 'x' => some 2
  | 'u' => some 4
  | 'U' => some 8
  | _ => none

def codePoint (n : Nat) : Reading Nat :=
  if n < 0x110000 then .ok n
  else if n < 0x80000000 then .error .badCodePoint
  else .error .hugeCodePoint

/-- The breaks of blank lines. A document cannot end inside a text. -/
def breaks : Nat → Cursor → Reading (List Char × Cursor)
  | 0, _ => malformed
  | fuel + 1, c =>
    if c.isSeparator then malformed
    else
      let c := c.skipWhile isSpaceTab
      match c.lineBreak? with
      | none => .ok ([], c)
      | some (b, c) => do
        let (more, c) ← breaks fuel c
        return (b :: more, c)

/-- Blanks between words. One line break alone folds to a space, and before further ones it is
dropped. -/
def blanks (c : Cursor) : Reading (List Char × Cursor) :=
  let written := c.taken isSpaceTab
  let after := c.skip written.length
  match after.peek with
  | none => malformed
  | some _ =>
    match after.lineBreak? with
    | none => .ok (written, after)
    | some (b, c) => do
      let (more, c) ← breaks (c.rest.length + 1) c
      return ((if b != '\n' then [b] else if more.isEmpty then [' '] else []) ++ more, c)

/-- What a backslash stands for, from the character after it on. -/
def escape (c : Cursor) : Reading (List Char × Cursor) :=
  match c.peek with
  | none => malformed
  | some e =>
    match shortEscape? e, escapeWidth? e with
    | some n, _ => .ok (Text.ofPoint n, c.next)
    | none, some width =>
      match hexNumber? width c.next.rest with
      | none => malformed
      | some n => do return (Text.ofPoint (← codePoint n), c.next.skip width)
    | none, none =>
      match c.lineBreak? with
      | none => malformed
      | some (_, c) => breaks (c.rest.length + 1) c

/-- Reads up to the closing quote; what was read before comes with the latest first. In double quotes
a backslash escapes, in single quotes a quote is written twice. -/
def body (double : Bool) : Nat → Cursor → List Char → Reading (List Char × Cursor)
  | 0, _, _ => malformed
  | fuel + 1, c, before =>
    let word := c.taken isPlain
    let c := c.skip word.length
    let before := word.reverse ++ before
    match c.peek with
    | none => malformed
    | some a =>
      if a == '\'' && !double then
        if c.peekAt 1 == some '\'' then body double fuel (c.skip 2) ('\'' :: before)
        else .ok (before.reverse, c.next)
      else if a == '"' && double then .ok (before.reverse, c.next)
      else if a == '\\' && double then do
        let (more, c) ← escape c.next
        body double fuel c (more.reverse ++ before)
      else if isSpaceTab a || isBreak a then do
        let (more, c) ← blanks c
        body double fuel c (more.reverse ++ before)
      else body double fuel c.next (a :: before)

/-- The quoted text that starts here. -/
def read (c : Cursor) : Reading (List Char × Cursor) :=
  body (c.peek == some '"') (c.rest.length + 1) c.next []

end Playground.Yaml.QuotedText
