import Playground.Text.Blank
import Playground.Text.Lines
import Playground.Text.Quoted

namespace Playground

/-- Where a failure about the form of a source was found: a file and the number of a line, the line
itself, and its columns at fault, counted from one. -/
structure SourcePlace where
  file : Option String := none
  line : Option String := none
  source : Option String := none
  start : Option Int := none
  stop : Option Int := none
  deriving DecidableEq, Repr

namespace SourcePlace

/-- The column behind the last one at fault. Without one that says something it is the next. -/
def stopAfter (p : SourcePlace) (start : Int) : Int :=
  match p.stop with
  | none => start + 1
  | some stop => if stop = 0 ∨ stop = -1 ∨ stop = start then start + 1 else stop

/-- The line at fault from its first character on that is no blank, and marks under its columns.
Blanks other than spaces stay before the marks, so that these stand right. -/
def excerpt (p : SourcePlace) (source : String) : String :=
  let line := (source.toList.reverse.dropWhile (· = '\n')).reverse
  let shown := line.dropWhile fun c => c = ' ' ∨ c = '\n' ∨ c = '\x0c'
  let indent : Int := line.length - shown.length
  let marks := match p.start with
    | none => ""
    | some start =>
      let first := start - 1 - indent
      let count := (p.stopAfter start - start).toNat
      if 0 ≤ first then
        let before := (shown.take first.toNat).map fun c => if Text.isBlank c then c else ' '
        "    " ++ String.ofList (before ++ List.replicate count '^') ++ "\n"
      else ""
  "    " ++ String.ofList shown ++ "\n" ++ marks

/-- The lines that show the place. -/
def shown (p : SourcePlace) : String :=
  let file := p.file.getD ""
  let named := match p.line with
    | some line =>
      "  File \"" ++ (if file.isEmpty then "<string>" else file) ++ "\", line " ++ line ++ "\n"
    | none => ""
  named ++ (p.source.map p.excerpt).getD ""

/-- Without the number of a line the file is named behind the headline. -/
def remark (p : SourcePlace) : String :=
  match p.line, p.file with
  | none, some file => " (" ++ file ++ ")"
  | _, _ => ""

/-- The place behind what a failure says: the last name of the file's path, and the line. -/
def reference (p : SourcePlace) : String :=
  let base := p.file.map fun file =>
    String.ofList (file.toList.reverse.takeWhile (· ≠ '/')).reverse
  match base, p.line with
  | none, none => ""
  | some file, none => " (" ++ file ++ ")"
  | none, some line => " (line " ++ line ++ ")"
  | some file, some line => " (" ++ file ++ ", line " ++ line ++ ")"

end SourcePlace

/-- What a service raises: a kind, an argument if it was given one, and the lines of its call stack.
A kind may be made from others. What it says is its argument, unless it has a saying of its own.
Those who only wait for the service have another call stack when they see the failure. -/
structure Failure where
  kind : String
  argument : Option String := none
  stack : String := ""
  ancestors : List String := []
  saying : Option String := none
  place : SourcePlace := {}
  notes : List String := []
  waiting : String := ""
  deriving DecidableEq, Repr

namespace Failure

/-- The failure is of this kind or of one that is made from it. -/
def isA (kind : String) (f : Failure) : Bool := f.kind = kind || f.ancestors.contains kind

/-- The kinds of failures that are about the form of a source. -/
def isSyntax (f : Failure) : Bool :=
  ["SyntaxError", "IndentationError", "TabError"].any fun kind => f.isA kind

/-- What a failure says. A syntax failure says where it was found, and a lookup failure shows the
key it was given in quotes. -/
def text (f : Failure) : String :=
  match f.saying with
  | some saying => saying
  | none =>
    if f.isSyntax then f.argument.getD "None" ++ f.place.reference
    else
      match f.argument with
      | none => ""
      | some a => if f.isA "KeyError" then Text.quote a else a

/-- What a syntax failure is about. -/
def detail (f : Failure) : String :=
  let detail := f.argument.getD ""
  if detail.isEmpty then "<no detail available>" else detail

def headline (f : Failure) : String :=
  if f.isSyntax then f.kind ++ ": " ++ f.detail ++ f.place.remark
  else if f.text.isEmpty then f.kind
  else f.kind ++ ": " ++ f.text

/-- The lines before the call stack. A syntax failure shows its place first, and notes come last. -/
def head (f : Failure) : String :=
  (if f.isSyntax then f.place.shown else "") ++ f.headline ++ "\n" ++
    String.join (f.notes.map (· ++ "\n"))

/-- How many of some lines a limit keeps. A negative one counts the lines left out at the end. -/
def keptLines (limit : Int) (count : Nat) : Nat :=
  if limit < 0 then count - limit.natAbs else limit.toNat

/-- The head and the call stack, cut to a number of lines. -/
def traceTo (limit : Int) (f : Failure) : String :=
  let all := Text.lines (f.head ++ f.stack).toList
  String.ofList (Text.joinLines (all.take (keptLines limit all.length)))

def maxTraceLines : Nat := 12

def trace (f : Failure) : String := f.traceTo maxTraceLines

/-- What a failure is to those who wait for the service. The end of an iteration, of whatever kind,
would end the wait itself, so it is told by another failure. -/
def awaited (f : Failure) : Failure :=
  if f.isA "StopIteration" then
    { kind := "RuntimeError", argument := some "coroutine raised StopIteration"
      stack := f.waiting }
  else f

end Failure

/-- An error that a service reports instead of raising it: a text, something it could have raised,
or a report with a text of its own and perhaps a message. Errors that raise when their text is asked
for are left out. -/
inductive Diagnostic
  | plain (text : String)
  | raised (failure : Failure)
  | report (message : Option String) (text : String)
  deriving DecidableEq, Repr

def Diagnostic.text : Diagnostic → String
  | .plain text => text
  | .raised failure => failure.text
  | .report (some message) _ => message
  | .report none text => text

end Playground
