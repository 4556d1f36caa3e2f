import Playground.Compile.File
import Playground.Compile.Script
import Playground.Compile.Style
import Playground.Compile.Template
import Playground.Compile.Variant
import Playground.Import.Anchor
import Playground.ScopeId

namespace Playground

structure Compiler where
  toolchain : Toolchain
  options : CompileOptions := {}

/-- A component run stops with the errors that abort the compile, or a failure leaves it. -/
abbrev Pipeline := ExceptT (Halt (List String)) Session

namespace Pipeline

variable {α : Type}

/-- Asks a service; what it raises leaves the run. -/
def demand (t : Toolchain) (c : Call) : Pipeline c.Answer := (t.demand c).adapt .raised

def ofStage (stage : Stage α) : Pipeline α := stage.adapt (Halt.map StageErrors.toList)

/-- What a stage comes to, be it errors. Only a failure that leaves it goes on. -/
def outcome (stage : Stage α) : Pipeline (Except StageErrors α) :=
  ExceptT.mk do
    return match ← stage.run with
      | .ok a => .ok (.ok a)
      | .error (.reported errors) => .ok (.error errors)
      | .error (.raised failure) => .error (.raised failure)

end Pipeline

/-- The builds of a component so far, and what went wrong with the SSR build. -/
structure Builds where
  client : Variant := {}
  ssr : Variant := {}
  warnings : List String := []
  deriving DecidableEq, Repr

namespace Builds

def addClient (code : String) (b : Builds) : Builds := { b with client := b.client.append code }

def addSsr (code : String) (b : Builds) : Builds := { b with ssr := b.ssr.append code }

def addBoth (code : String) (b : Builds) : Builds := (b.addClient code).addSsr code

/-- An SSR stage that fails degrades the SSR build and nothing else. -/
def addSsrResult (result : Except StageErrors String) (b : Builds) : Builds :=
  match result with
  | .ok code => b.addSsr code
  | .error e =>
    { b with ssr := b.ssr.degrade e.first, warnings := b.warnings ++ [e.first] }

end Builds

namespace Compiler

/-- A setup script has the render function inlined, unless the options say otherwise. -/
def needsTemplate (c : Compiler) (d : Descriptor) : Bool :=
  d.template.isSome && (d.scriptSetup.isNone || c.options.script.inlineTemplate = some false)

def parse (c : Compiler) (filename code : String) : Pipeline Descriptor := do
  let answer : Except Failure Parsed ← c.toolchain.ask (.parse code filename true)
  match answer with
  | .error f => throw (.reported [f.trace])
  | .ok parsed =>
    if parsed.errors.isEmpty then return parsed.descriptor
    else throw (.reported (parsed.errors.map (·.text)))

def checkLanguages (d : Descriptor) : Pipeline Unit :=
  match d.languageFault with
  | some fault => throw (.reported [fault.message])
  | none => return ()

/-- The script part of both builds, and the bindings of the client script. -/
def scriptPart (c : Compiler) (d : Descriptor) (id : String) :
    Pipeline (Builds × Option Bindings) := do
  let script ← Pipeline.ofStage (compileScript c.toolchain c.options d id .client d.isTyped)
  let builds := Builds.addClient script.code {}
  if d.scriptSetup.isSome then
    let ssr ← Pipeline.outcome (compileScript c.toolchain c.options d id .ssr d.isTyped)
    return (builds.addSsrResult (ssr.map (·.code)), script.bindings)
  else return (builds.addSsr script.code, script.bindings)

def templatePart (c : Compiler) (d : Descriptor) (id : String) (bindings : Option Bindings)
    (builds : Builds) : Pipeline Builds := do
  if !c.needsTemplate d then return builds
  let stage (target : Target) : Stage String :=
    templateStage c.toolchain c.options d id bindings target d.isTyped
  let client ← Pipeline.ofStage (stage .client)
  let ssr ← Pipeline.outcome (stage .ssr)
  return (builds.addClient client).addSsrResult ssr

def scopeLine (id : String) : String :=
  "\n" ++ componentName ++ ".__scopeId = " ++ Json.literal (scopeAttribute id)

def exportTail (filename : String) : String :=
  "\n" ++ componentName ++ ".__file = " ++ Json.literal filename ++ "\nexport default " ++
    componentName

/-- The modules of both builds. Without any code the old ones stay. -/
def assemble (filename : String) (builds : Builds) (old : Artifact) : Artifact :=
  if builds.client.hasCode || builds.ssr.hasCode then
    let final := builds.addBoth (exportTail filename)
    { old with
      js := Import.anchor filename (Text.stripStart final.client.code)
      ssr := Text.stripStart final.ssr.code }
  else old

/-- Runs the stages of a component. None of them sees the old artifact. -/
def stages (c : Compiler) (id filename code : String) : Pipeline (Builds × StyleSheet) := do
  let d ← c.parse filename code
  checkLanguages d
  let (builds, bindings) ← c.scriptPart d id
  let builds ← c.templatePart d id bindings builds
  let builds := if d.hasScopedStyle then builds.addBoth (scopeLine id) else builds
  let sheet ← (compileStyles c.toolchain c.options d id).adapt
    (Halt.map fun _ => [styleModuleMessage])
  return (builds, sheet)

/-- Compiles a component: its new artifact, the errors of its styles and the warnings. Its scope id
is asked for before anything is guarded. -/
def component (c : Compiler) (file : VirtualFile) :
    Pipeline (Artifact × List String × List String) := do
  let id ← Pipeline.demand c.toolchain (.scopeId file.filename)
  let (builds, sheet) ← c.stages id file.filename file.code
  let artifact := assemble file.filename builds file.compiled
  return ({ artifact with css := sheet.css }, sheet.errors, builds.warnings)

end Compiler

end Playground
