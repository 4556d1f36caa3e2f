import Playground.Compile.Stage

namespace Playground

/-- The export of a generated module that a render function starts with: the word after `export`,
and the text after the function's name. -/
def renderExport? (s : List Char) : Option (List Char × List Char) :=
  let declared (word : List Char) : Option (List Char × List Char) :=
    let start := "\nexport ".toList ++ word ++ [' ']
    if start.isPrefixOf s then
      let rest := s.drop start.length
      if "render".toList.isPrefixOf rest then some (word, rest.drop 6)
      else if "ssrRender".toList.isPrefixOf rest then some (word, rest.drop 9)
      else none
    else none
  (declared "function".toList).or (declared "const".toList)

/-- The first exported render function becomes a plain one with the given name. -/
def inlineRender (name : List Char) : List Char → List Char
  | [] => []
  | c :: r =>
    match renderExport? (c :: r) with
    | some (word, rest) => '\n' :: word ++ ' ' :: name ++ rest
    | none => c :: inlineRender name r

def attachRender (target : Target) (code : String) : String :=
  let name := target.renderName
  "\n" ++ String.ofList (inlineRender name.toList code.toList) ++ "\n" ++ componentName ++ "." ++
    name ++ " = " ++ name

def templateRequest (o : CompileOptions) (d : Descriptor) (template : Block) (id : String)
    (bindings : Option Bindings) (target : Target) (typed : Bool) : Fields :=
  let nested := o.template.compilerOptions
    |> Fields.put "binding_metadata" (bindingsValue bindings)
    |> Fields.put "expression_plugins" (pluginsValue typed)
  Assoc.erase (.text "compiler_options") o.template.fields
    |> Fields.put "source" (.text template.content)
    |> Fields.put "filename" (.text d.filename)
    |> Fields.put "id" (.text id)
    |> Fields.put "scoped" (.bool d.hasScopedStyle)
    |> Fields.put "slotted" (.bool d.slotted)
    |> Fields.put "ssr" (.bool target.isSsr)
    |> Fields.put "ssr_css_vars" (Value.texts d.cssVars)
    |> Fields.put "is_prod" (.bool false)
    |> Fields.put "compiler_options" (.map nested)

/-- Compiles a template for one build and attaches the render function to the component. -/
def compileTemplate (t : Toolchain) (o : CompileOptions) (d : Descriptor) (template : Block)
    (id : String) (bindings : Option Bindings) (target : Target) (typed : Bool) :
    Stage String := do
  let compiled ←
    Stage.ask t (.compileTemplate (templateRequest o d template id bindings target typed))
  match compiled.errors with
  | e :: es => throw (.reported ⟨e.text, es.map (·.text)⟩)
  | [] =>
    let code := attachRender target compiled.code
    if d.hasTypedPrimary then Stage.ask t (.stripTypes code) else return code

def missingTemplate (d : Descriptor) : Failure :=
  { kind := "ValueError", argument := some (d.filename ++ ": component has no <template>.") }

/-- Compiles the template of a component for one build. The settings cannot be made without one, and
that is not guarded. -/
def templateStage (t : Toolchain) (o : CompileOptions) (d : Descriptor) (id : String)
    (bindings : Option Bindings) (target : Target) (typed : Bool) : Stage String :=
  match d.template with
  | none => throw (.raised (missingTemplate d))
  | some template => compileTemplate t o d template id bindings target typed

end Playground
