import Playground.ScopeId
import Playground.Text.Search
import Playground.Toolchain.Basic

namespace Playground

/-- A failure raised for every text that holds a mark. -/
structure RaiseOn where
  failure : Failure
  mark : String := ""
  deriving DecidableEq, Repr

def RaiseOn.failure? (r : Option RaiseOn) (text : String) : Option Failure :=
  match r with
  | some r => if Text.contains r.mark text then some r.failure else none
  | none => none

/-- A service from text to text: it may raise, else it replaces one word and appends a tail. -/
structure TextService where
  raises : Option RaiseOn := none
  replacing : Option (String × String) := none
  appending : String := ""
  deriving DecidableEq, Repr

def TextService.run (s : TextService) (code : String) : Except Failure String :=
  match RaiseOn.failure? s.raises code with
  | some f => .error f
  | none =>
    let code := match s.replacing with
      | some (old, new) => Text.replace old new code
      | none => code
    .ok (code ++ s.appending)

/-- How scope ids are made: by the digest or one for all, unless a name is refused. -/
structure ScopeIds where
  fixed : Option String := none
  raises : Option RaiseOn := none
  deriving DecidableEq, Repr

def ScopeIds.run (s : ScopeIds) (filename : String) : Except Failure String :=
  match RaiseOn.failure? s.raises filename with
  | some f => .error f
  | none =>
    match s.fixed, halvesFault? filename with
    | some id, _ => .ok id
    | none, some message => .error { kind := "UnicodeEncodeError", argument := some message }
    | none, none => .ok (scopeId filename)

/-- A parse answer; the descriptor takes the file's name unless it has its own. -/
structure ParseScript where
  filename : Option String := none
  descriptor : Descriptor
  errors : List Diagnostic := []
  deriving DecidableEq, Repr

/-- Services that follow a script: each answer is given beforehand. -/
structure ToolchainScript where
  parse : Except Failure ParseScript
  script : Bool → Except Failure CompiledScript
  template : Bool → Except Failure CompiledBlock
  styles : List (Except Failure CompiledBlock) := []
  bindDefault : Option TextService := none
  strip : TextService := {}
  refs : Option (String × TextService) := none
  ids : ScopeIds := {}

def Fields.isOn (name : String) (fields : Fields) : Bool :=
  match Fields.get? name fields with
  | some v => !v.isEmpty
  | none => false

def Fields.textOf (name : String) (fields : Fields) : String :=
  match Fields.get? name fields with
  | some (.text s) => s
  | _ => ""

def Fields.mapOf (name : String) (fields : Fields) : Fields :=
  match Fields.get? name fields with
  | some (.map m) => m
  | _ => []

def Call.isStyle : Call → Bool
  | .compileStyle _ => true
  | _ => false

def replaceDefault (code name : String) : String :=
  Text.replace "export default" ("const " ++ name ++ " =") code

namespace ToolchainScript

def parseAnswer (s : ToolchainScript) (source filename : String) : Except Failure Parsed :=
  s.parse.map fun p =>
    ⟨{ p.descriptor with filename := p.filename.getD filename, source }, p.errors⟩

/-- Style answers are used up one by one; after the last a style comes back as it is. -/
def styleAnswer (s : ToolchainScript) (history : List Call) (options : Fields) :
    Except Failure CompiledBlock :=
  match s.styles[(history.filter Call.isStyle).length]? with
  | some answer => answer
  | none => .ok { code := Fields.textOf "source" options }

def respond (s : ToolchainScript) (history : List Call) : (c : Call) → Except Failure c.Answer
  | .scopeId filename => s.ids.run filename
  | .parse source filename _ => s.parseAnswer source filename
  | .compileScript _ options =>
    s.script (Fields.isOn "ssr" (Fields.mapOf "template_options" options))
  | .compileTemplate options => s.template (Fields.isOn "ssr" options)
  | .compileStyle options => (s.styleAnswer history options).mapError (·.awaited)
  | .bindDefault code name _ =>
    match s.bindDefault with
    | some service => service.run code
    | none => .ok (replaceDefault code name)
  | .stripTypes code => (s.strip.run code).mapError (·.awaited)
  | .shouldTransform code =>
    .ok (match s.refs with
      | some (mark, _) => Text.contains mark code
      | none => false)
  | .transform code _ =>
    match s.refs with
    | some (_, service) => service.run code
    | none => .ok code

def toolchain (s : ToolchainScript) : Toolchain := ⟨s.refs.isSome, s.respond⟩

end ToolchainScript

end Playground
