import Playground.Assoc
import Playground.Compile.Compiler

namespace Playground

/-- The virtual files of a session in the order they came, and the errors of the latest compile of
each. The history holds what the services were asked. -/
structure Store where
  compiler : Compiler
  mainFile : String
  active : String
  files : List (String × VirtualFile) := []
  errors : List (String × List String) := []
  history : List Call := []

inductive StoreError
  | unknown (name : String)
  | isMain (name : String)
  | taken (old new : String)
  | raised (failure : Failure)
  deriving DecidableEq, Repr

def StoreError.message : StoreError → String
  | .unknown name => "No such file: " ++ Text.quote name
  | .isMain name =>
    "Cannot delete " ++ Text.quote name ++ ": it is the main file. " ++
      "Fix: choose another main file first."
  | .taken old new =>
    "Cannot rename " ++ Text.quote old ++ ": " ++ Text.quote new ++ " already exists."
  | .raised failure => failure.text

namespace Store

def defaultMain : String := "App.vue"

def empty (compiler : Compiler) (mainFile : String := defaultMain) : Store :=
  { compiler, mainFile, active := mainFile }

def find? (s : Store) (name : String) : Option VirtualFile := Assoc.get? name s.files

def get (s : Store) (name : String) : Except StoreError VirtualFile :=
  match s.find? name with
  | some file => .ok file
  | none => .error (.unknown name)

def activeFile (s : Store) : Option VirtualFile := s.find? s.active

def errorsFor (s : Store) (name : String) : List String := (Assoc.get? name s.errors).getD []

def activeErrors (s : Store) : List String := s.errorsFor s.active

/-- A file that is there gets the new source and keeps its artifact. -/
def add (s : Store) (name code : String) : Store :=
  let file := match s.find? name with
    | some file => { file with code }
    | none => { filename := name, code }
  { s with files := Assoc.put name file s.files, active := name }

def setActive (s : Store) (name : String) : Except StoreError Store := do
  let file ← s.get name
  return { s with active := file.filename }

/-- Forgets a file and its errors. -/
def delete (s : Store) (name : String) : Except StoreError Store := do
  if name = s.mainFile then throw (.isMain name)
  let _ ← s.get name
  return { s with
    files := Assoc.erase name s.files
    errors := Assoc.erase name s.errors
    active := if s.active = name then s.mainFile else s.active }

/-- Compiles one file and records its errors, which replace those of its last compile. -/
def compile (s : Store) (name : String) : Except StoreError Report × Store :=
  match s.get name with
  | .error e => (.error e, s)
  | .ok file =>
    let (result, history) := (s.compiler.compileFile file).run s.history
    match result with
    | .error f => (.error (.raised f), { s with history })
    | .ok (report, file) =>
      (.ok report, { s with
        files := Assoc.put name file s.files
        errors := Assoc.put name report.errors s.errors
        history })

/-- The store with one file under a new name, in its old place. -/
def renamed (s : Store) (old new : String) (file : VirtualFile) : Store :=
  { s with
    files := s.files.map fun p => if p.1 = old then (new, { file with filename := new }) else p
    errors := Assoc.erase old s.errors
    mainFile := if s.mainFile = old then new else s.mainFile
    active := if s.active = old then new else s.active }

/-- Renames a file and compiles it again, since its scope id follows its name. -/
def rename (s : Store) (old new : String) : Except StoreError Report × Store :=
  if Assoc.has new s.files then (.error (.taken old new), s)
  else match s.get old with
    | .error e => (.error e, s)
    | .ok file => (s.renamed old new file).compile new

def compileEach (s : Store) : List String → Except StoreError (List Report) × Store
  | [] => (.ok [], s)
  | name :: names =>
    match s.compile name with
    | (.error e, s) => (.error e, s)
    | (.ok report, s) =>
      let (reports, s) := s.compileEach names
      (reports.map (report :: ·), s)

/-- Compiles every file in the order of the store. -/
def compileAll (s : Store) : Except StoreError (List Report) × Store :=
  s.compileEach (Assoc.keys s.files)

end Store

end Playground
