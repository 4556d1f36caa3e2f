import Playground.Component.Blocks
import Playground.Text.Blank
import Playground.Toolchain.Scripted

namespace Playground

/-- A service of the miniature toolchain that raises instead of answering. -/
inductive Broken
  | parse
  | template
  | style
  | bindDefault
  deriving DecidableEq, Repr

/-- A small toolchain that is enough to run components: it cuts a source at its section tags and
answers every stage with a fixed shape of code. Faults can be built in. -/
structure Miniature where
  parseErrors : List Diagnostic := []
  scriptError : Option Failure := none
  ssrScriptError : Option Failure := none
  templateErrors : List Diagnostic := []
  ssrTemplateErrors : List Diagnostic := []
  bindings : Option Bindings := none
  broken : Option Broken := none
  stripMark : Option String := none
  transformsRefs : Bool := true
  ids : ScopeIds := {}
  deriving DecidableEq, Repr

namespace Miniature

def parsed (m : Miniature) (source filename : String) : Except Failure Parsed :=
  if m.broken = some .parse then
    .error { kind := "RuntimeError", argument := some "parser crashed" }
  else .ok ⟨Descriptor.ofSource source filename, m.parseErrors⟩

def scriptBody (d : Descriptor) (ssr : Bool) : String :=
  let block := d.scriptSetup.or d.script
  let body := Text.strip ((block.map (·.content)).getD "")
  if d.scriptSetup.isSome then
    body ++ "\nexport default \x7b setup() \x7b return " ++ (if ssr then "ssrRender" else "render") ++
      " \x7d \x7d"
  else body

def script (m : Miniature) (d : Descriptor) (options : Fields) : Except Failure CompiledScript :=
  let ssr := Fields.isOn "ssr" (Fields.mapOf "template_options" options)
  match if ssr then m.ssrScriptError else m.scriptError with
  | some f => .error f
  | none => .ok ⟨scriptBody d ssr, m.bindings⟩

def renderCode (ssr : Bool) : String :=
  if ssr then
    "import \x7b ssrInterpolate \x7d from 'vue/server-renderer'\n" ++
      "export function ssrRender(_ctx, _push) \x7b _push('<div>') \x7d"
  else
    "import \x7b openBlock \x7d from 'vue'\n" ++
      "export function render(_ctx) \x7b return openBlock() \x7d"

def template (m : Miniature) (options : Fields) : Except Failure CompiledBlock :=
  if m.broken = some .template then
    .error { kind := "TypeError", argument := some "template compiler crashed" }
  else
    let ssr := Fields.isOn "ssr" options
    let errors := if ssr then m.ssrTemplateErrors else m.templateErrors
    .ok (if errors.isEmpty then ⟨renderCode ssr, []⟩ else ⟨"", errors⟩)

def crashesOn (m : Miniature) (source : String) : Bool :=
  m.broken = some .style && source.startsWith "explode"

def style (m : Miniature) (options : Fields) : Except Failure CompiledBlock :=
  let source := Text.strip (Fields.textOf "source" options)
  if m.crashesOn source then
    .error { kind := "RuntimeError", argument := some "style compiler crashed" }
  else if source.startsWith "broken" then
    .ok ⟨"", [.raised { kind := "ValueError", argument := some "Unexpected token" }]⟩
  else if source.startsWith "url" then .ok ⟨"", [.plain "pathToFileURL is not a function"]⟩
  else if Fields.isOn "scoped" options then
    let mark := "[" ++ scopeAttribute (Fields.textOf "id" options) ++ "] \x7b"
    .ok ⟨String.ofList (Text.replaceFirst ['\x7b'] mark.toList source.toList), []⟩
  else .ok ⟨source, []⟩

def bindDefault (m : Miniature) (code name : String) : Except Failure String :=
  if m.broken = some .bindDefault then
    .error { kind := "SyntaxError", argument := some "Unexpected token (1:7)" }
  else .ok (replaceDefault code name)

/-- Removes the annotations `: string` and `: number`, each where it first stands from the left. -/
def withoutTypes : List Char → List Char
  | [] => []
  | c :: r =>
    if ": string".toList.isPrefixOf (c :: r) then withoutTypes (r.drop 7)
    else if ": number".toList.isPrefixOf (c :: r) then withoutTypes (r.drop 7)
    else c :: withoutTypes r
termination_by s => s.length
decreasing_by all_goals simp only [List.length_drop, List.length_cons]; omega

def strip (m : Miniature) (code : String) : Except Failure String :=
  match m.stripMark with
  | some mark =>
    if Text.contains mark code then
      .error { kind := "SyntaxError", argument := some "sucrase: Unexpected token" }
    else .ok (String.ofList (withoutTypes code.toList))
  | none => .ok (String.ofList (withoutTypes code.toList))

def respond (m : Miniature) : (c : Call) → Except Failure c.Answer
  | .scopeId filename => m.ids.run filename
  | .parse source filename _ => m.parsed source filename
  | .compileScript d options => m.script d options
  | .compileTemplate options => m.template options
  | .compileStyle options => m.style options
  | .bindDefault code name _ => m.bindDefault code name
  | .stripTypes code => m.strip code
  | .shouldTransform code => .ok (Text.contains "$ref(" code)
  | .transform code _ => .ok (Text.replace "$ref(" "ref(" code)

def toolchain (m : Miniature) : Toolchain := ⟨m.transformsRefs, fun _ c => m.respond c⟩

/-- The stage calls that reach the toolchain itself; a broken service raises before that. -/
structure StageCalls where
  script : List Fields
  template : List Fields
  style : List Fields

def stageCalls (m : Miniature) (history : List Call) : StageCalls where
  script := history.filterMap fun
    | .compileScript _ options => some options
    | _ => none
  template := history.filterMap fun
    | .compileTemplate options => if m.broken = some .template then none else some options
    | _ => none
  style := history.filterMap fun
    | .compileStyle options =>
      if m.crashesOn (Text.strip (Fields.textOf "source" options)) then none else some options
    | _ => none

theorem toolchain_isPure (m : Miniature) : m.toolchain.IsPure := fun _ _ _ => rfl

end Miniature

end Playground
