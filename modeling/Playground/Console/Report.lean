import Playground.Assoc
import Playground.Compile.File
import Playground.Console.Event
import Playground.Text.Lines
import Playground.Value.Basic

namespace Playground.Console

def info (message : String) : Printing Unit :=
  print (.markup (Tone.info.mark "ℹ" ++ " " ++ message))

def success (message : String) : Printing Unit :=
  print (.markup (Tone.success.mark "✓" ++ " " ++ message))

def warning (message : String) (t : Terminal := .standard) : Printing Unit :=
  print (.markup (Tone.warning.mark "⚠" ++ " " ++ message)) t

def error (message : String) (t : Terminal := .standard) : Printing Unit :=
  print (.markup (Tone.error.mark "✗" ++ " " ++ message)) t

def bar (n : Nat) : String := String.ofList (List.replicate n '━')

def headline (title : String) (subtitle : Option String) : TonedText :=
  let start := (({} : TonedText).append (bar 3 ++ " ") .muted).append title .highlight
  let named := match subtitle with
    | some s => if s.isEmpty then start else start.append (" • " ++ s) .muted
    | none => start
  named.append (" " ++ bar 40) .muted

/-- A headline between blank lines. Its title and subtitle are shown as they are. -/
def header (title : String) (subtitle : Option String := none) : Printing Unit := do
  print .blank
  print (.text (headline title subtitle))
  print .blank

def subheader (text : String) : Printing Unit :=
  print (.markup (Tone.muted.mark "──" ++ " " ++ Tone.highlight.mark text))

def keyValueTable (pairs : List (String × Value)) : Table :=
  { showsHeader := false
    columns := [⟨"Key", some .muted, false⟩, ⟨"Value", some .metric, false⟩]
    rows := (Assoc.ofPairs pairs).map fun p => [p.1 ++ ":", p.2.shown] }

/-- Pairs as a table; of pairs with one key the first gives the place and the last the value. -/
def keyValue (pairs : List (String × Value)) (title : Option String := none) : Printing Unit := do
  match title with
  | some t => if t.isEmpty then pure () else subheader t
  | none => pure ()
  print (.table (keyValueTable pairs))

def code (source : String) (language : String := "javascript") (title : Option String := none) :
    Printing Unit :=
  print (.panel title .muted (.code source language))

def outcomeTone : Outcome → Tone
  | .compiled => .success
  | .skipped => .muted
  | .aborted => .error

def resultRow (r : Report) : List String :=
  [r.filename, (outcomeTone r.outcome).mark r.outcome.label, toString r.errors.length,
    toString r.warnings.length]

def resultTable (reports : List Report) : Table :=
  { title := some "Compile results"
    columns := [⟨"File", some .path, false⟩, ⟨"Outcome", none, false⟩, ⟨"Errors", none, true⟩,
      ⟨"SSR warnings", none, true⟩]
    rows := reports.map resultRow }

def fileMark (r : Report) (t : Terminal := .standard) : String :=
  Tone.path.mark (t.escape r.filename)

def problem (r : Report) (message : String) (t : Terminal := .standard) : Printing Unit := do
  error (fileMark r t) t
  print (.panel none .error (.text (String.ofList (withoutControls message.toList)))) t

/-- A warning is cut to its first line, and one without a text has none. -/
def firstLineOf (message : String) (t : Terminal := .standard) : String :=
  if message.isEmpty then "" else t.escape (String.ofList (Text.firstLine message.toList))

def degraded (r : Report) (message : String) (t : Terminal := .standard) : Printing Unit :=
  warning (fileMark r t ++ " SSR: " ++ firstLineOf message t) t

def problems (r : Report) (t : Terminal := .standard) : Printing Unit := do
  r.errors.forM fun message => problem r message t
  r.warnings.forM fun message => degraded r message t

/-- The outcome of every file in a table, then the errors and warnings of each. -/
def compileResults (reports : List Report) (t : Terminal := .standard) : Printing Unit := do
  print (.table (resultTable reports)) t
  reports.forM fun r => problems r t

end Playground.Console
