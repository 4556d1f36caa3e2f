import Playground.Command.Run
import Playground.Console.Plain
import Playground.Toolchain.Miniature

namespace Playground

/-- The services that a manifest can name here. -/
def services : Registry where
  modules := [("miniature", [("toolchain", .toolchain ({} : Miniature).toolchain)])]

/-- The places that a walk comes by. -/
def placesAlong (place : List String) : List String → List (List String)
  | [] => []
  | name :: names =>
    let next := if name = ".." then place.dropLast else place ++ [name]
    next :: placesAlong next names

/-- Notes what the host has at a place. A folder opens like a file and fails when it is read. -/
def look (d : Disk) (place : List String) : IO Disk := do
  if d.holds place then return d
  match ← (IO.FS.readBinFile (Text.plain ("/" ++ "/".intercalate place))).toBaseIO with
  | .ok bytes => return { d with files := (place, bytes.toList.map (·.toNat)) :: d.files }
  | .error (.inappropriateType none ..) => return { d with folders := place :: d.folders }
  | .error _ => return d

def lookAlong (d : Disk) (path : HostPath) : IO Disk :=
  (placesAlong (if path.isAbsolute then [] else d.current) path.parts).foldlM look d

partial def readLines (input : IO.FS.Stream) (lines : List String) : IO (List String) := do
  let line ← input.getLine
  if line.isEmpty then return lines.reverse else readLines input (line :: lines)

def lineText (line : String) : String :=
  Text.ofPlain <| String.ofList ((Text.splitOn '\n' line.toList).headD [])

/-- A manifest with a root takes the names of the sources below it from the input, one a line. -/
def lookBelow (d : Disk) (root : HostPath) : IO Disk := do
  let names ← readLines (← IO.getStdin) []
  names.foldlM (fun d line => lookAlong d (root.join (.ofText (lineText line)))) d

/-- Reads as much of the host as a call needs. -/
def environmentOf (call : Command.Call) : IO Command.Environment := do
  let current := (HostPath.ofText (toString (← IO.currentDir))).parts
  let here : Disk := { folders := [current], current }
  match call with
  | .compile manifest _ _ =>
    let path := HostPath.ofText manifest
    let disk ← lookAlong here path
    match Manifest.described disk path with
    | .ok { root := some root, .. } =>
      let root := path.parent.join root
      return { disk := ← lookBelow (← lookAlong disk root) root }
    | _ => return { disk }
  | .imports _ (some source) => return { disk := ← lookAlong here (.ofText source) }
  | .imports _ none =>
    return { input := Text.ofPlain (String.join (← readLines (← IO.getStdin) [])) }
  | .none => return {}

end Playground

open Playground in
def main (args : List String) : IO UInt32 := do
  let args := args.map Text.ofPlain
  let environment ← match Command.Call.ofArguments args with
    | .ok call => environmentOf call
    | .error _ => pure {}
  let ending := Command.run services environment args
  IO.print (Text.plain ending.output)
  if ending.stop = some .usage then IO.eprint Command.helpText
  for event in ending.events do
    for line in event.lines do IO.println (Text.plain line)
  return ending.code.toUInt32
