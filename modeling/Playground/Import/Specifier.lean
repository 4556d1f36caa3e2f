import Playground.Path.Virtual

namespace Playground.Import

/-- Leaves one directory for each `..` in front of a specifier. The character after a `..` goes
with it, whatever it is. -/
def climb (dir : List Char) : List Char → List Char × List Char
  | '.' :: '.' :: r => climb (Path.parentChars dir) (r.drop 1)
  | rest => (dir, rest)
termination_by s => s.length
decreasing_by simp only [List.length_drop, List.length_cons]; omega

/-- A specifier read from the virtual root: the directory, then the rest. -/
def rooted (dir rest : List Char) : List Char :=
  '.' :: '/' :: if dir.isEmpty then rest else dir ++ '/' :: rest

/-- A relative specifier of the file `filename`, read from the virtual root instead. -/
def resolveChars (filename specifier : List Char) : List Char :=
  let dir := Path.parentChars filename
  match specifier with
  | '.' :: '.' :: _ =>
    let (top, rest) := climb dir specifier
    rooted top rest
  | '.' :: r => rooted dir (r.drop 1)
  | _ => specifier

def resolve (filename specifier : String) : String :=
  String.ofList (resolveChars filename.toList specifier.toList)

end Playground.Import
