import Playground.Disk.SourceTree
import Playground.Json.Reader
import Playground.Project.Basic
import Playground.Yaml.Reader

namespace Playground

/-- How a manifest is written. -/
inductive ManifestFormat
  | json
  | yaml
  deriving DecidableEq, Repr

/-- Why a manifest gives no project. -/
inductive ManifestError
  | disk (error : DiskError)
  | unsupported (suffix : String)
  | json (error : Json.ReadError)
  | yaml (error : Yaml.ReadError)
  | empty
  | notMap (kind : String)
  | invalid (problems : List Problem)
  | tree (error : SourceTree.TreeError)
  deriving DecidableEq, Repr

/-- Problems are counted in one line; their list follows it. -/
def invalidMessage (problems : List Problem) : String :=
  toString problems.length ++ " validation error" ++ (if problems.length = 1 then "" else "s") ++
    " for Project"

def ManifestError.message : ManifestError → String
  | .disk error => error.message
  | .unsupported suffix => "Unsupported format '" ++ suffix ++ "'"
  | .json error => error.message
  | .yaml error => error.message
  | .empty => "Project payload is empty."
  | .notMap kind => "Project payload must be a dict, got <class '" ++ kind ++ "'>"
  | .invalid problems => invalidMessage problems
  | .tree error => error.message

namespace Manifest

def formatOf? (suffix : String) : Option ManifestFormat :=
  if suffix = ".json" then some .json
  else if suffix = ".yml" ∨ suffix = ".yaml" then some .yaml
  else none

def parse (format : ManifestFormat) (text : String) : Except ManifestError Value :=
  match format with
  | .json => (Json.read text.toList).mapError .json
  | .yaml => (Yaml.read text.toList).mapError .yaml

def project (v : Value) : Except ManifestError Project :=
  match v with
  | .null => .error .empty
  | .map _ => (Project.ofValue v).mapError .invalid
  | v => .error (.notMap v.kind)

/-- The project with the sources below its root, which a manifest in some folder names from there.
Files of the manifest win over those of the same name. -/
def withSources (d : Disk) (folder : HostPath) (p : Project) : Except ManifestError Project :=
  match p.root with
  | none => .ok p
  | some root =>
    let root := folder.join root
    match SourceTree.read d root with
    | .error e => .error (.tree e)
    | .ok sources => .ok { p with root := some root, files := Assoc.putAll sources p.files }

/-- The project that a manifest describes, without the sources below its root. The text is read
before the suffix is looked at. -/
def described (d : Disk) (path : HostPath) : Except ManifestError Project := do
  let text ← (d.readText path).mapError .disk
  let suffix := String.ofList (Text.lower path.suffix.toList)
  match formatOf? suffix with
  | none => throw (.unsupported suffix)
  | some format => project (← parse format text)

/-- Reads the project of a manifest. -/
def load (d : Disk) (path : HostPath) : Except ManifestError Project := do
  withSources d path.parent (← described d path)

end Manifest

end Playground
