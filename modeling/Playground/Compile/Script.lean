import Playground.Compile.Stage
import Playground.Json.Writer

namespace Playground

structure ScriptCode where
  code : String
  bindings : Option Bindings := none
  deriving DecidableEq, Repr

namespace ScriptCode

/-- A component without a script is an empty object. -/
def empty : ScriptCode := { code := "\nconst " ++ componentName ++ " = \x7b\x7d" }

def bindingsNote (bindings : Option Bindings) : String :=
  match bindings with
  | none => ""
  | some b => if b.isEmpty then "" else "\n/* Analyzed bindings: " ++ Json.renderTexts b ++ " */"

end ScriptCode

/-- What the script service is asked to do. The caller's settings come first, so what follows from
the component itself stands whatever they name. -/
def scriptRequest (o : CompileOptions) (d : Descriptor) (id : String) (target : Target)
    (typed : Bool) : Fields :=
  let nested := Fields.put "expression_plugins" (pluginsValue typed) o.template.compilerOptions
  let template := Assoc.erase (.text "compiler_options") o.template.fields
    |> Fields.put "ssr" (.bool target.isSsr)
    |> Fields.put "ssr_css_vars" (Value.texts d.cssVars)
    |> Fields.put "compiler_options" (.map nested)
  Assoc.putAll [(.text "inline_template", .bool true)] o.script.fields
    |> Fields.put "id" (.text id)
    |> Fields.put "template_options" (.map template)

/-- Compiles the scripts of a component for one build. -/
def compileScript (t : Toolchain) (o : CompileOptions) (d : Descriptor) (id : String)
    (target : Target) (typed : Bool) : Stage ScriptCode := do
  match d.primaryScript with
  | none => return .empty
  | some script =>
    let compiled ← Stage.ask t (.compileScript d (scriptRequest o d id target typed))
    let body ← Stage.ask t (.bindDefault compiled.content componentName (plugins typed))
    let code := ScriptCode.bindingsNote compiled.bindings ++ "\n" ++ body
    let code ← if script.lang = some "ts" then Stage.ask t (.stripTypes code) else pure code
    return ⟨code, compiled.bindings⟩

end Playground
