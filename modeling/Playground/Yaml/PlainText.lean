import Playground.Yaml.Cursor

/-! Texts without quotes, folded over lines as the scanner of the library is assumed to do it. -/

namespace Playground.Yaml.PlainText

def isIndicator (c : Char) : Bool := "-?:,[]\x7b\x7d#&*!|>'\"%@`".toList.contains c

def isFlowMark (c : Char) : Bool := ",[]\x7b\x7d".toList.contains c

/-- Whether a text without quotes may start here. A dash, and outside of brackets a question mark or
a colon, starts one when a word follows at once. -/
def startsAt (inFlow : Bool) (c : Cursor) : Bool :=
  match c.peek with
  | none => false
  | some a =>
    !(endsWord (some a) || isIndicator a) ||
      (!endsWord (c.peekAt 1) && (a == '-' || (!inFlow && (a == '?' || a == ':'))))

/-- Whether a word ends before `a`: at blanks, at a colon before blanks, and inside of brackets also
at their marks. -/
def endsBefore (inFlow : Bool) (a : Char) (following : Option Char) : Bool :=
  endsWord (some a) ||
    (a == ':' && (endsWord following || (inFlow && following.any isFlowMark))) ||
    (inFlow && (isFlowMark a || a == '?'))

def word (inFlow : Bool) : List Char → List Char
  | [] => []
  | a :: r => if endsBefore inFlow a r.head? then [] else a :: word inFlow r

/-- The breaks of blank lines before the next word, or none when a document ends here. -/
def breaks : Nat → Cursor → Option (List Char) × Cursor
  | 0, c => (none, c)
  | fuel + 1, c =>
    if c.isSeparator then (none, c)
    else
      let c := c.skipSpaces
      match c.lineBreak? with
      | none => (some [], c)
      | some (b, c) =>
        let (more, c) := breaks fuel c
        (more.map (b :: ·), c)

/-- Blanks after a word and whether they hold a line break; no blanks when nothing can follow. -/
def blanks (c : Cursor) : List Char × Bool × Cursor :=
  let written := c.taken (· == ' ')
  let after := c.skip written.length
  match after.lineBreak? with
  | none => (written, false, after)
  | some (b, c) =>
    match breaks (c.rest.length + 1) c with
    | (none, c) => ([], true, c)
    | (some more, c) =>
      ((if b != '\n' then [b] else if more.isEmpty then [' '] else []) ++ more, true, c)

/-- Words and the blanks between them, from the first word on. Lines that continue the text are
indented deeper than the block around it. -/
def words (inFlow : Bool) (indent : Int) :
    Nat → Cursor → List Char → Bool → List Char × Bool × Cursor
  | 0, c, _, broken => ([], broken, c)
  | fuel + 1, c, before, broken =>
    let w := word inFlow c.rest
    if c.peek == some '#' || w.isEmpty then ([], broken, c)
    else
      let (after, newLine, next) := blanks (c.skip w.length)
      if after.isEmpty || next.peek == some '#' || (!inFlow && (next.column : Int) < indent) then
        (before ++ w, newLine, next)
      else
        let (more, broken, last) := words inFlow indent fuel next after newLine
        (before ++ w ++ more, broken, last)

/-- The text that starts here, whether a line break follows its last word, and the place after
that. -/
def read (inFlow : Bool) (indent : Int) (c : Cursor) : List Char × Bool × Cursor :=
  words inFlow indent (c.rest.length + 1) c [] false

end Playground.Yaml.PlainText
