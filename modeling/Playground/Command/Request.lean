import Playground.Command.Arguments
import Playground.Project.Manifest

namespace Playground.Command

/-- What the command line asks for: compile a project and perhaps print its artifacts, or anchor the
imports of a source that is taken to lie at some virtual path. -/
inductive Request
  | compile (project : Project) (file : Option String) (printsCode : Bool)
  | imports (filename source : String)
  deriving Repr

inductive RequestError
  | noCommand
  | manifest (error : ManifestError)
  | unknownFile (name : String) (known : List String)
  | disk (error : DiskError)
  deriving DecidableEq, Repr

def RequestError.message : RequestError → String
  | .noCommand => "No command given. Fix: run `playpen compile MANIFEST`."
  | .manifest error => error.message
  | .unknownFile name known =>
    Text.quote name ++ " is not a file of the project. Known files: " ++
      (if known.isEmpty then "(none)" else ", ".intercalate known) ++ "."
  | .disk error => error.message

/-- What a command reads beside its arguments. -/
structure Environment where
  disk : Disk := {}
  input : String := ""

def helpSwitch : Switch := ⟨["-h", "--help"], "help", .stop .help⟩

def mainGrammar : Grammar :=
  ⟨[helpSwitch, ⟨["--version"], "version", .stop .version⟩], [.rest]⟩

def compileGrammar : Grammar :=
  ⟨[helpSwitch, ⟨["--file"], "file", .keep⟩, ⟨["--print-code"], "print", .note⟩],
    [.one "manifest"]⟩

def importsGrammar : Grammar := ⟨[helpSwitch], [.one "filename", .optional "source"]⟩

/-- A command by its name with its arguments, as far as they can be read without a disk. -/
inductive Call
  | compile (manifest : String) (file : Option String) (printsCode : Bool)
  | imports (filename : String) (source : Option String)
  | none
  deriving DecidableEq, Repr

def compileCall (t : Taken) : Call :=
  .compile ((Assoc.get? "manifest" t.values).getD "") (Assoc.get? "file" t.values)
    (t.noted.contains "print")

def importsCall (t : Taken) : Call :=
  .imports ((Assoc.get? "filename" t.values).getD "") (Assoc.get? "source" t.values)

def subcommand (name : String) (args : List String) : Except Stop (Taken × Call) :=
  if name = "compile" then (compileGrammar.parse args).map fun t => (t, compileCall t)
  else if name = "imports" then (importsGrammar.parse args).map fun t => (t, importsCall t)
  else .error .usage

/-- Reads the arguments of the command line. Those that nothing knows are refused after all others
were read. -/
def Call.ofArguments (args : List String) : Except Stop Call := do
  let t ← mainGrammar.parse args
  let (unknown, call) ← match t.rest with
    | some (name :: args) => do
      let (sub, call) ← subcommand name args
      pure (t.unknown ++ sub.unknown, call)
    | _ => pure (t.unknown, Call.none)
  if unknown.isEmpty then return call else throw .usage

def checkFile (p : Project) (file : Option String) : Except RequestError Unit :=
  match file with
  | some name =>
    if Assoc.has name p.files then .ok () else .error (.unknownFile name (Assoc.keys p.files))
  | none => .ok ()

def readSource (e : Environment) : Option String → Except RequestError String
  | some path => (e.disk.readText (.ofText path)).mapError .disk
  | none => .ok (String.ofList (Text.normalizeLineEnds e.input.toList))

/-- Reads what a call names. -/
def Request.ofCall (e : Environment) : Call → Except RequestError Request
  | .compile manifest file printsCode => do
    let project ← (Manifest.load e.disk (.ofText manifest)).mapError .manifest
    checkFile project file
    return .compile project file printsCode
  | .imports filename source => do return .imports filename (← readSource e source)
  | .none => .error .noCommand

end Playground.Command
