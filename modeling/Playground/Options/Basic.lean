import Playground.Options.Setting
import Playground.Value.Merge

namespace Playground

/-- Settings of the script stage. `inlineTemplate` puts the render function into the setup script;
`extra` goes to the service as it is. -/
structure ScriptOptions where
  inlineTemplate : Option Bool := none
  extra : Fields := []
  deriving Repr

structure TemplateOptions where
  compilerOptions : Fields := []
  extra : Fields := []
  deriving Repr

structure StyleOptions where
  extra : Fields := []
  deriving Repr

structure CompileOptions where
  script : ScriptOptions := {}
  template : TemplateOptions := {}
  style : StyleOptions := {}
  deriving Repr

def dropNulls (fields : Fields) : Fields := fields.filter fun p => !p.2.isNull

/-- A record that keeps the settings it does not know has no half of a pair in any key. -/
def openRecord (name : String) (v : Value) : Checked Fields := do
  let fields ← Setting.record name v
  if fields.any (fun p => match p.1 with
    | .text s => Text.hasHalf s
    | _ => false) then Checked.fail .notUnicode
  else return fields

/-- The settings a record does not know; their keys are texts. -/
def extraFields (known : List String) (fields : Fields) : Checked Fields :=
  let others := fields.filter fun p => !known.any fun name => p.1 = .text name
  Checked.each (fun p => match p.1 with
    | .text _ => .ok p
    | k => Checked.under k (Checked.fail .keyNotText)) others

def ScriptOptions.fields (o : ScriptOptions) : Fields :=
  (match o.inlineTemplate with
    | some b => [(.text "inline_template", .bool b)]
    | none => []) ++ dropNulls o.extra

def TemplateOptions.fields (o : TemplateOptions) : Fields :=
  (.text "compiler_options", .map o.compilerOptions) :: dropNulls o.extra

def StyleOptions.fields (o : StyleOptions) : Fields := dropNulls o.extra

def CompileOptions.fields (o : CompileOptions) : Fields :=
  [(.text "script", .map o.script.fields), (.text "template", .map o.template.fields),
    (.text "style", .map o.style.fields)]

def ScriptOptions.ofValue (v : Value) : Checked ScriptOptions := do
  let fields ← openRecord "ScriptOptions" v
  let (inline, extra) ← Checked.both
    (Setting.field "inline_template" none (Setting.optional Setting.truth) fields)
    (extraFields ["inline_template"] fields)
  return ⟨inline, extra⟩

def TemplateOptions.ofValue (v : Value) : Checked TemplateOptions := do
  let fields ← openRecord "TemplateOptions" v
  let (options, extra) ← Checked.both
    (Setting.field "compiler_options" []
      (fun v => (Setting.entries Setting.text .ok v).map fun m =>
        (Assoc.ofPairs m).map fun p => (.text p.1, p.2))
      fields)
    (extraFields ["compiler_options"] fields)
  return ⟨options, extra⟩

def StyleOptions.ofValue (v : Value) : Checked StyleOptions := do
  let fields ← openRecord "StyleOptions" v
  return ⟨← extraFields [] fields⟩

/-- Unknown settings beside the stages are dropped, those of a stage are kept. -/
def CompileOptions.ofValue (v : Value) : Checked CompileOptions := do
  let fields ← Setting.record "CompileOptions" v
  let (script, template, style) ← Checked.both
    (Setting.field "script" {} ScriptOptions.ofValue fields)
    (Checked.both (Setting.field "template" {} TemplateOptions.ofValue fields)
      (Setting.field "style" {} StyleOptions.ofValue fields))
  return ⟨script, template, style⟩

/-- Why overrides cannot be merged in. -/
inductive OverrideError
  | notMap
  | invalid (problems : List Problem)
  deriving DecidableEq, Repr

/-- Empty overrides give the very same options back. -/
def keepsOptions (overrides : Value) : Bool := overrides.isEmpty

/-- The options with overrides merged in key by key. Empty overrides leave them as they are. -/
def CompileOptions.merged (o : CompileOptions) (overrides : Value) :
    Except OverrideError CompileOptions :=
  if overrides.isEmpty then .ok o
  else match overrides with
    | .map fields =>
      match CompileOptions.ofValue (.map (mergeFields o.fields fields)) with
      | .ok merged => .ok merged
      | .error problems => .error (.invalid problems)
    | _ => .error .notMap

theorem CompileOptions.merged_of_keepsOptions (o : CompileOptions) {overrides : Value}
    (h : keepsOptions overrides = true) : o.merged overrides = .ok o :=
  if_pos h

end Playground
