import Playground.Command.Request
import Playground.Console.Report
import Playground.Import.Anchor
import Playground.Project.Services
import Playground.Store

namespace Playground.Command

open Console (Printing)

/-- Why a command fails after its arguments were read. -/
inductive RunError
  | request (error : RequestError)
  | services (error : ServicesError)
  | store (error : StoreError)
  | markup (error : Console.MarkupError)
  deriving DecidableEq, Repr

def RunError.message : RunError → String
  | .request error => error.message
  | .services error => error.message
  | .store error => error.message
  | .markup error => error.message

/-- A run that prints events and may fail. -/
abbrev Running := ExceptT RunError (StateM (List Console.Event))

def printing (p : Printing Unit) : Running Unit := p.adapt .markup

def check {α ε : Type} (wrap : ε → RunError) (r : Except ε α) : Running α :=
  ExceptT.mk (pure (r.mapError wrap))

/-- A store with the files of a project. -/
def openProject (toolchain : Toolchain) (p : Project) : Store :=
  p.files.foldl (fun s f => s.add f.1 f.2) (Store.empty ⟨toolchain, p.options⟩ p.main)

def printSlot (title source language : String) : Printing Unit :=
  if source.isEmpty then pure () else Console.code source language (some title)

/-- The parts of an artifact that there are, each under its name. -/
def printArtifact (name : String) (a : Artifact) : Printing Unit := do
  Console.subheader (Console.escape name)
  printSlot "client" a.js "javascript"
  printSlot "ssr" a.ssr "javascript"
  printSlot "css" a.css "css"

def printArtifacts (s : Store) (only : Option String) : Printing Unit :=
  (s.files.filter fun f => only.all (· = f.1)).forM fun f => printArtifact f.1 f.2.compiled

def introduction (p : Project) : Printing Unit := do
  let name := p.name.getD ""
  Console.header "Compile" (some (if name.isEmpty then p.main else name))
  Console.keyValue [("main", .text p.main), ("files", .int p.files.length),
    ("services", Value.ofOption .text p.services)]

/-- One for a run in which a file has errors, else none. -/
def conclusion (reports : List Report) : Printing Nat := do
  let failed := (reports.filter fun r => !r.ok).length
  if failed = 0 then
    Console.success ("Compiled " ++ toString reports.length ++ " files")
    return 0
  else
    Console.error (toString failed ++ " of " ++ toString reports.length ++ " files have errors")
    return 1

/-- Compiles every file of a project and reports on all of them. -/
def compile (registry : Registry) (p : Project) (file : Option String) (printsCode : Bool) :
    Running Nat := do
  printing (introduction p)
  let toolchain ← check .services (registry.load p.services)
  let (result, store) := (openProject toolchain p).compileAll
  let reports ← check .store result
  printing (Console.compileResults reports)
  if printsCode || file.isSome then printing (printArtifacts store file)
  (conclusion reports).adapt .markup

/-- How a run of the command ends: its exit code, the text and the events that it puts out, and
whether it stopped while it read its arguments. -/
structure Ending where
  code : Nat
  stop : Option Stop := none
  output : String := ""
  events : List Console.Event := []
  deriving Repr

def Ending.ofError (e : RunError) (events : List Console.Event) : Ending :=
  let (_, events) := (Console.error ("Error: " ++ Console.escape e.message)).run.run events
  { code := 1, events }

def runRequest (registry : Registry) : Request → Ending
  | .imports filename source => { code := 0, output := Import.anchor filename source }
  | .compile project file printsCode =>
    match (compile registry project file printsCode).run.run [] with
    | (.ok code, events) => { code, events }
    | (.error e, events) => .ofError e events

def versionText : String := "playpen 0.1.0\n"

def helpText : String :=
  "usage: playpen [-h] [--version] COMMAND\n\n" ++
    "playpen compile [--file FILE] [--print-code] MANIFEST\n" ++
    "  Compile every file of a project manifest and report the results.\n\n" ++
    "playpen imports FILENAME [SOURCE]\n" ++
    "  Anchor the relative imports of a source as if it lived at FILENAME.\n"

def Stop.output : Stop → String
  | .help => helpText
  | .version => versionText
  | .usage => ""

/-- Runs the command line. -/
def run (registry : Registry) (e : Environment) (args : List String) : Ending :=
  match Call.ofArguments args with
  | .error stop => { code := stop.exitCode, stop := some stop, output := stop.output }
  | .ok call =>
    match Request.ofCall e call with
    | .error error => .ofError (.request error) []
    | .ok request => runRequest registry request

end Playground.Command
