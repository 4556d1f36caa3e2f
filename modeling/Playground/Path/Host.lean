import Playground.Path.Virtual

namespace Playground

/-- A path on the host: a mark where it starts, empty for a relative path, and the names that it
passes. Two slashes at the start are a mark of their own, more of them count as one. -/
structure HostPath where
  start : String
  parts : List String
  deriving DecidableEq, Repr

namespace HostPath

/-- Names that lead somewhere; an empty name and a single dot stay where they are. -/
def moves (name : List Char) : Bool := !(name = [] || name = ['.'])

def startOf (path : List Char) : String :=
  match (path.takeWhile (· = '/')).length with
  | 0 => ""
  | 2 => "//"
  | _ => "/"

def ofText (path : String) : HostPath :=
  ⟨startOf path.toList, ((Path.segments path).filter moves).map String.ofList⟩

def text (p : HostPath) : String :=
  if p.start.isEmpty && p.parts.isEmpty then "." else p.start ++ "/".intercalate p.parts

def isAbsolute (p : HostPath) : Bool := !p.start.isEmpty

/-- A path seen from another one. An absolute path is the same from everywhere. -/
def join (p q : HostPath) : HostPath := if q.isAbsolute then q else ⟨p.start, p.parts ++ q.parts⟩

def parent (p : HostPath) : HostPath := ⟨p.start, p.parts.dropLast⟩

def name (p : HostPath) : String := p.parts.getLast?.getD ""

/-- The text from the last dot of a name on, unless the name starts or ends with that dot. -/
def nameSuffix (name : List Char) : List Char :=
  match Text.cutAtLast '.' name with
  | some (stem, ext) => if stem.isEmpty || ext.isEmpty then [] else '.' :: ext
  | none => []

def suffix (p : HostPath) : String := String.ofList (nameSuffix p.name.toList)

/-- Both notions of a suffix agree on names that do not end in a dot. -/
theorem nameSuffix_eq {name : List Char} (h : name.getLast? ≠ some '.') :
    nameSuffix name = Path.nameSuffix name := by
  unfold nameSuffix Path.nameSuffix
  cases hc : Text.cutAtLast '.' name with
  | none => rfl
  | some p =>
    obtain ⟨stem, ext⟩ := p
    have he : ext.isEmpty = false := by
      cases ext with
      | nil => exact absurd (by simp [(Text.cutAtLast_eq_some hc).1]) h
      | cons c r => rfl
    simp [he]

end HostPath

end Playground
