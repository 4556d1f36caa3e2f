import Playground.Yaml.Label

/-! Literal and folded blocks, with the indents and the line breaks at their ends as the scanner of
the library is assumed to keep them. -/

namespace Playground.Yaml.BlockText

/-- What becomes of the line breaks at the end of a block: by default one is kept. -/
inductive Chomping
  | clip
  | strip
  | keep
  deriving DecidableEq, Repr

structure Header where
  chomping : Chomping := .clip
  increment : Option Nat := none
  deriving DecidableEq, Repr

def chomping? (c : Cursor) : Option Chomping :=
  if c.peek == some '+' then some .keep else if c.peek == some '-' then some .strip else none

/-- How many columns the block is deeper than what is around it. -/
def increment? (c : Cursor) : Reading (Option Nat × Cursor) :=
  match c.peek with
  | some d =>
    if !isDigit d then .ok (none, c)
    else if d == '0' then malformed
    else .ok (some (d.toNat - 48), c.next)
  | none => .ok (none, c)

/-- The two marks may come in either order. -/
def header (c : Cursor) : Reading (Header × Cursor) := do
  let (h, c) ← match chomping? c with
    | some chomping => do
      let (increment, c) ← increment? c.next
      pure ((⟨chomping, increment⟩ : Header), c)
    | none => do
      let (increment, after) ← increment? c
      match increment, chomping? after with
      | some _, some chomping => pure (⟨chomping, increment⟩, after.next)
      | _, _ => pure (⟨.clip, increment⟩, after)
  if endsField c.peek then return (h, ← c.endLine) else malformed

/-- Blank lines before the block, and the deepest column in them or of the first line. -/
def leading : Nat → Cursor → Nat → List Char × Nat × Cursor
  | 0, c, deepest => ([], deepest, c)
  | fuel + 1, c, deepest =>
    match c.lineBreak? with
    | some (b, c) =>
      let (more, deepest, c) := leading fuel c deepest
      (b :: more, deepest, c)
    | none =>
      if c.peek == some ' ' then leading fuel c.next (max deepest c.next.column)
      else ([], deepest, c)

def skipIndent (indent : Nat) (c : Cursor) : Cursor :=
  c.skip (min (indent - c.column) (c.taken (· == ' ')).length)

/-- The breaks of blank lines inside of a block. -/
def breaks (indent : Nat) : Nat → Cursor → List Char × Cursor
  | 0, c => ([], c)
  | fuel + 1, c =>
    let c := skipIndent indent c
    match c.lineBreak? with
    | some (b, c) =>
      let (more, c) := breaks indent fuel c
      (b :: more, c)
    | none => ([], c)

def isLineOf (indent : Nat) (c : Cursor) : Bool := c.column == indent && c.peek.isSome

def isIndented (c : Cursor) : Bool := c.peek.any isSpaceTab

/-- What stands between two lines. Folding makes the break between two lines that are not indented
further a space, or nothing when blank lines follow it. -/
def between (folded : Bool) (line : Cursor) (lineBreak : List Char) (blankLines : List Char)
    (next : Cursor) : List Char :=
  if folded && lineBreak == ['\n'] && !isIndented line && !isIndented next then
    if blankLines.isEmpty then [' '] else []
  else lineBreak

/-- The lines of a block, with the break of the last one and the blank lines after it apart. -/
def body (folded : Bool) (indent : Nat) :
    Nat → Cursor → List Char → List Char × List Char × List Char × Cursor
  | 0, c, before => ([], [], before, c)
  | fuel + 1, c, before =>
    let text := c.taken fun a => !isBreak a
    let ended := c.skip text.length
    let (lineBreak, after) := match ended.lineBreak? with
      | some (b, after) => ([b], after)
      | none => ([], ended)
    let (blankLines, next) := breaks indent (after.rest.length + 1) after
    if isLineOf indent next then
      let (more, last) := body folded indent fuel next blankLines
      (before ++ text ++ between folded c lineBreak blankLines next ++ more, last)
    else (before ++ text, lineBreak, blankLines, next)

/-- The text of the block that starts here, inside of a block of a certain indentation. -/
def read (folded : Bool) (around : Int) (c : Cursor) : Reading (List Char × Cursor) := do
  let (h, c) ← header c.next
  let least := (around + 1).toNat.max 1
  let (blankLines, indent, c) := match h.increment with
    | some n =>
      let indent := least + n - 1
      let (blankLines, c) := breaks indent (c.rest.length + 1) c
      (blankLines, indent, c)
    | none =>
      let (blankLines, deepest, c) := leading (c.rest.length + 1) c 0
      (blankLines, max least deepest, c)
  let (text, lineBreak, blankLines, c) :=
    if isLineOf indent c then body folded indent (c.rest.length + 1) c blankLines
    else ([], [], blankLines, c)
  let ending := match h.chomping with
    | .strip => []
    | .clip => lineBreak
    | .keep => lineBreak ++ blankLines
  return (text ++ ending, c)

end Playground.Yaml.BlockText
