import Playground.Console.Event
import Playground.Text.Lines

/-! What the standard terminal shows, in lines of plain text. The library that draws on a console
would replace the names of emoji as well. -/

namespace Playground.Console

/-- What a markup text shows. Tags are left out, two backslashes before a tag show as one, and one
left over makes the tag a text. Before any other bracket a backslash is not shown. -/
def plainOf (s : List Char) : List Char :=
  match s with
  | [] => []
  | c :: r =>
    match tagHere? (c :: r) with
    | some t =>
      List.replicate (t.slashes / 2) '\\' ++ (if t.slashes % 2 = 1 then t.shown else []) ++
        plainOf (r.drop (t.length - 1))
    | none => if c = '\\' ∧ r.head? = some '[' then plainOf r else c :: plainOf r
termination_by s.length
decreasing_by all_goals simp only [List.length_drop, List.length_cons]; omega

/-- The text that is shown. Names of emoji between colons stay as they are written. -/
def plain (markup : String) : String := String.ofList (withoutControls (plainOf markup.toList))

def spaces (n : Nat) : String := String.ofList (List.replicate n ' ')

def Column.place (c : Column) (width : Nat) (cell : String) : String :=
  let gap := spaces (width - cell.length)
  if c.alignRight then gap ++ cell else cell ++ gap

namespace Table

/-- The rows of a table as they are shown, under the names of its columns. -/
def shownRows (t : Table) : List (List String) :=
  (if t.showsHeader then [t.columns.map (·.header)] else []) ++ t.rows.map (·.map plain)

def width (t : Table) (i : Nat) : Nat :=
  t.shownRows.foldl (fun n row => max n (row.getD i "").length) 0

def rowLine (t : Table) (row : List String) : String :=
  "  ".intercalate <| t.columns.zipIdx.map fun (c, i) => c.place (t.width i) (row.getD i "")

def lines (t : Table) : List String := (t.title.map plain).toList ++ t.shownRows.map t.rowLine

end Table

def PanelBody.source : PanelBody → String
  | .code source _ => source
  | .text plain => plain

/-- An event as lines of plain text. The text of a panel is set off by a bar. -/
def Event.lines : Event → List String
  | .blank => [""]
  | .markup s => [plain s]
  | .text t => [String.ofList t.plain]
  | .table t => t.lines
  | .panel title _ body =>
    (title.map plain).toList ++
      (Text.lines body.source.toList).map fun line => "│ " ++ String.ofList line

end Playground.Console
