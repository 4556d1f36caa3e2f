import Playground.Assoc
import Playground.Path.Host
import Playground.Text.Utf8

namespace Playground

/-- What a disk holds: files with their bytes and folders, each by the names that lead to it from
the root. Whatever lies above a file or a folder is a folder too. -/
structure Disk where
  files : List (List String × List Nat) := []
  folders : List (List String) := []
  current : List String := []
  deriving Repr

inductive DiskFault
  | missing
  | notFolder
  | isFolder
  | nameTooLong
  deriving DecidableEq, Repr

/-- Why a text cannot be read from a disk. -/
inductive DiskError
  | denied (fault : DiskFault) (path : HostPath)
  | zeroInPath
  | notText (error : Text.Utf8Error)
  deriving DecidableEq, Repr

def DiskFault.message : DiskFault → String
  | .missing => "[Errno 2] No such file or directory"
  | .notFolder => "[Errno 20] Not a directory"
  | .isFolder => "[Errno 21] Is a directory"
  | .nameTooLong => "[Errno 36] File name too long"

def decodeMessage (e : Text.Utf8Error) : String :=
  "'utf-8' codec can't decode " ++
    (if e.stop = e.start + 1 then
      "byte 0x" ++ String.ofList (Text.hexDigits 2 e.byte) ++ " in position " ++ toString e.start
    else "bytes in position " ++ toString e.start ++ "-" ++ toString (e.stop - 1)) ++
    ": " ++ e.fault.message

def DiskError.message : DiskError → String
  | .denied fault path => fault.message ++ ": " ++ Text.quote path.text
  | .zeroInPath => "embedded null byte"
  | .notText error => decodeMessage error

namespace Disk

def longestName : Nat := 255

def longestPath : Nat := 4096

/-- A place is a folder when it is the root, is listed as one, or something lies below it. -/
def isFolder (d : Disk) (place : List String) : Bool :=
  place.isEmpty || d.folders.any place.isPrefixOf ||
    d.files.any fun f => place.isPrefixOf f.1 && f.1 ≠ place

def file? (d : Disk) (place : List String) : Option (List Nat) := Assoc.get? place d.files

def holds (d : Disk) (place : List String) : Bool := d.isFolder place || (d.file? place).isSome

/-- One step of a walk. Two dots go back up, and the root is above itself. -/
def step (d : Disk) (place : List String) (name : String) : Except DiskFault (List String) :=
  if !d.isFolder place then .error .notFolder
  else if name = ".." then .ok place.dropLast
  else if longestName < name.utf8ByteSize then .error .nameTooLong
  else if d.holds (place ++ [name]) then .ok (place ++ [name])
  else .error .missing

def walk (d : Disk) (place : List String) : List String → Except DiskFault (List String)
  | [] => .ok place
  | name :: names =>
    match d.step place name with
    | .ok next => d.walk next names
    | .error fault => .error fault

/-- Where a path leads, if it leads anywhere. -/
def locate (d : Disk) (path : HostPath) : Except DiskFault (List String) :=
  if longestPath ≤ path.text.utf8ByteSize then .error .nameTooLong
  else d.walk (if path.isAbsolute then [] else d.current) path.parts

def bytesAt (d : Disk) (place : List String) : Except DiskFault (List Nat) :=
  if d.isFolder place then .error .isFolder
  else match d.file? place with
    | some bytes => .ok bytes
    | none => .error .missing

/-- The text of a byte sequence, with every line end a line feed. -/
def decode (bytes : List Nat) : Except DiskError String :=
  match Text.decodeUtf8 bytes with
  | .ok chars => .ok (String.ofList (Text.normalizeLineEnds chars))
  | .error e => .error (.notText e)

def readText (d : Disk) (path : HostPath) : Except DiskError String :=
  if path.text.toList.contains '\x00' then .error .zeroInPath
  else match d.locate path with
    | .error fault => .error (.denied fault path)
    | .ok place =>
      match d.bytesAt place with
      | .error fault => .error (.denied fault path)
      | .ok bytes => decode bytes

/-- The folder that a path leads to. A name that is too long to look up is an error of its own; one
that no disk can hold leads nowhere. -/
def folderAt (d : Disk) (path : HostPath) : Except DiskError (Option (List String)) :=
  if path.text.toList.contains '\x00' ∨ Text.hasHalf path.text then .ok none
  else match d.locate path with
    | .ok place => .ok (if d.isFolder place then some place else none)
    | .error .nameTooLong => .error (.denied .nameTooLong path)
    | .error _ => .ok none

end Disk

end Playground
