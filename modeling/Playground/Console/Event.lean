import Playground.Console.Markup

namespace Playground.Console

/-- What text on the console is about; each has colours of its own. -/
inductive Tone
  | info
  | success
  | warning
  | error
  | highlight
  | muted
  | metric
  | path
  deriving DecidableEq, Repr

def Tone.name : Tone → String
  | .info => "info"
  | .success => "success"
  | .warning => "warning"
  | .error => "error"
  | .highlight => "highlight"
  | .muted => "muted"
  | .metric => "metric"
  | .path => "path"

/-- Text that is set in a tone, in markup. -/
def Tone.mark (t : Tone) (text : String) : String :=
  "[" ++ t.name ++ "]" ++ text ++ "[/" ++ t.name ++ "]"

structure Column where
  header : String
  tone : Option Tone := none
  alignRight : Bool := false
  deriving DecidableEq, Repr

/-- A table; its cells and its title are markup. -/
structure Table where
  title : Option String := none
  showsHeader : Bool := true
  columns : List Column := []
  rows : List (List String) := []
  deriving DecidableEq, Repr

structure Span where
  start : Nat
  stop : Nat
  tone : Tone
  deriving DecidableEq, Repr

/-- Text with tones on parts of it. It is no markup. -/
structure TonedText where
  plain : List Char := []
  spans : List Span := []
  deriving DecidableEq, Repr

inductive PanelBody
  | code (source language : String)
  | text (plain : String)
  deriving DecidableEq, Repr

inductive Event
  | blank
  | markup (s : String)
  | text (toned : TonedText)
  | table (t : Table)
  | panel (title : Option String) (border : Tone) (body : PanelBody)
  deriving DecidableEq, Repr

/-- Control characters that move the cursor of a terminal; text leaves them out. -/
def isControl (c : Char) : Bool :=
  let n := c.toNat
  n == 7 || n == 8 || n == 11 || n == 12 || n == 13

def withoutControls (s : List Char) : List Char := s.filter fun c => !isControl c

/-- Adds a part in a tone. An empty part has no span. -/
def TonedText.append (part : String) (tone : Tone) (t : TonedText) : TonedText :=
  if part.isEmpty then t
  else
    let shown := withoutControls part.toList
    let stop := t.plain.length + shown.length
    ⟨t.plain ++ shown, t.spans ++ [⟨t.plain.length, stop, tone⟩]⟩

/-- The cells of a table, column by column. -/
def Table.cells (t : Table) : List String :=
  (List.range t.columns.length).flatMap fun i => t.rows.filterMap fun row => row[i]?

/-- The texts whose width is measured before anything is shown. -/
def Event.measured : Event → List String
  | .table t => t.cells
  | _ => []

/-- The texts of an event that are shown as markup, in order. -/
def Event.markups : Event → List String
  | .markup s => [s]
  | .table t => if t.columns.isEmpty then [] else t.title.toList ++ t.rows.flatten
  | .panel title _ _ => title.toList
  | _ => []

def Event.check (e : Event) : Except MarkupError Unit := do
  e.measured.forM fun markup => (stylesOf markup).map fun _ => ()
  e.markups.forM checkShown

/-- What events are printed on: how it makes a text safe to stand in markup, and why it cannot show
an event. -/
structure Terminal where
  escape : String → String
  check : Event → Except MarkupError Unit

def Terminal.standard : Terminal := ⟨Console.escape, Event.check⟩

/-- A run that prints events. What was printed before a fault stays. -/
abbrev Printing := ExceptT MarkupError (StateM (List Event))

def print (e : Event) (t : Terminal := .standard) : Printing Unit := fun events =>
  match t.check e with
  | .ok () => (.ok (), events ++ [e])
  | .error fault => (.error fault, events)

end Playground.Console
