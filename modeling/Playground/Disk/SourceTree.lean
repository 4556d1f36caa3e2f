import Playground.Disk.Basic

namespace Playground.SourceTree

/-- The suffixes of files that can be compiled. -/
def suffixes : List (List Char) := [".vue".toList, ".js".toList, ".ts".toList, ".css".toList]

def isSource (place : List String) : Bool :=
  suffixes.contains (HostPath.nameSuffix (place.getLast?.getD "").toList)

/-- The sources below a folder, by the names that lead to them from there. -/
def sourcesBelow (d : Disk) (folder : List String) : List (List String × List Nat) :=
  d.files.filterMap fun f =>
    if folder.isPrefixOf f.1 && isSource f.1 then some (f.1.drop folder.length, f.2) else none

/-- Lists are compared by their first difference; one that goes on comes later. -/
def lexBefore {α : Type} [DecidableEq α] (before : α → α → Bool) : List α → List α → Bool
  | [], _ => true
  | _ :: _, [] => false
  | a :: as, b :: bs => if a = b then lexBefore before as bs else before a b

def nameBefore (a b : String) : Bool :=
  lexBefore (fun c d : Char => decide (c.toNat < d.toNat)) a.toList b.toList

/-- Places are compared name by name, so what lies in a folder stays together. -/
def placeBefore (a b : List String) : Bool := lexBefore nameBefore a b

/-- Sources are read in the order of their places. -/
def sorted (sources : List (List String × List Nat)) : List (List String × List Nat) :=
  sources.mergeSort fun a b => placeBefore a.1 b.1

def virtualPath (place : List String) : String := "/".intercalate place

def readAll : List (List String × List Nat) → Except DiskError (List (String × String))
  | [] => .ok []
  | (place, bytes) :: rest =>
    match Disk.decode bytes with
    | .error e => .error e
    | .ok text => (readAll rest).map ((virtualPath place, text) :: ·)

inductive TreeError
  | notFolder (root : HostPath)
  | disk (error : DiskError)
  deriving DecidableEq, Repr

def TreeError.message : TreeError → String
  | .notFolder root => "Project root is not a directory: " ++ root.text
  | .disk error => error.message

/-- The texts of all sources below a folder, by their virtual paths. -/
def read (d : Disk) (root : HostPath) : Except TreeError (List (String × String)) :=
  match d.folderAt root with
  | .error e => .error (.disk e)
  | .ok none => .error (.notFolder root)
  | .ok (some folder) => (readAll (sorted (sourcesBelow d folder))).mapError .disk

theorem sorted_perm (sources : List (List String × List Nat)) : (sorted sources).Perm sources :=
  List.mergeSort_perm sources _

end Playground.SourceTree
