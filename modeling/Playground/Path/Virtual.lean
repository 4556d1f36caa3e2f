import Playground.Text.Quoted
import Playground.Text.Search

namespace Playground.Path

/-- The path without its last segment; a path of one segment has no parent. -/
def parentChars (path : List Char) : List Char :=
  match Text.cutAtLast '/' path with
  | some (dir, _) => dir
  | none => []

def lastSegment (path : List Char) : List Char :=
  match Text.cutAtLast '/' path with
  | some (_, name) => name
  | none => path

def parent (path : String) : String := String.ofList (parentChars path.toList)

/-- The text from the last dot of a name on, unless the name starts with that dot. -/
def nameSuffix (name : List Char) : List Char :=
  match Text.cutAtLast '.' name with
  | some (stem, ext) => if stem.isEmpty then [] else '.' :: ext
  | none => []

def suffix (path : String) : String := String.ofList (nameSuffix (lastSegment path.toList))

def segments (path : String) : List (List Char) := Text.splitOn '/' path.toList

/-- Why a text is no path below the virtual root. -/
inductive VirtualFault
  | empty
  | notRelative (path : String)
  | badSegment (path : String)
  deriving DecidableEq, Repr

def VirtualFault.message : VirtualFault → String
  | .empty => "Validation failed: virtual path is empty"
  | .notRelative path =>
    "Validation failed: " ++ Text.quote path ++ " is not a relative virtual path. " ++
      "Fix: use forward slashes and no leading '/'."
  | .badSegment path =>
    "Validation failed: " ++ Text.quote path ++ " has an empty or relative segment. " ++
      "Fix: spell the path out from the virtual root."

def isStepSegment (segment : List Char) : Bool :=
  segment = [] || segment = ['.'] || segment = ['.', '.']

def checkVirtual (path : String) : Except VirtualFault String :=
  if path.toList.isEmpty then .error .empty
  else if path.toList.head? = some '/' || path.toList.contains '\\' then .error (.notRelative path)
  else if (segments path).any isStepSegment then .error (.badSegment path)
  else .ok path

/-- Names of files: segments that name something, joined by slashes, no backslash in them. -/
def IsVirtual (path : String) : Prop := checkVirtual path = .ok path

end Playground.Path
