namespace Playground

/-- One section of a component file. A language may be declared and empty. -/
structure Block where
  content : String := ""
  lang : Option String := none
  deriving DecidableEq, Repr

/-- The module setting of a style section: absent, a bare flag, or a name. -/
inductive StyleModule
  | off
  | on
  | named (name : String)
  deriving DecidableEq, Repr

def StyleModule.isOn : StyleModule → Bool
  | .off => false
  | .on => true
  | .named name => !name.isEmpty

structure StyleBlock extends Block where
  isScoped : Bool := false
  cssModule : StyleModule := .off
  deriving DecidableEq, Repr

/-- The sections of a component, the styles in source order. -/
structure Descriptor where
  filename : String
  source : String := ""
  template : Option Block := none
  script : Option Block := none
  scriptSetup : Option Block := none
  styles : List StyleBlock := []
  cssVars : List String := []
  slotted : Bool := false
  deriving DecidableEq, Repr

/-- The declared language of a section that is there and declares one. -/
def declaredLang (block : Option Block) : Option String :=
  block.bind fun b => b.lang.filter fun lang => !lang.isEmpty

namespace Descriptor

def hasScopedStyle (d : Descriptor) : Bool := d.styles.any (·.isScoped)

/-- The language of the plain script, else that of the setup script. -/
def scriptLang (d : Descriptor) : Option String :=
  (declaredLang d.script).or (declaredLang d.scriptSetup)

def isTyped (d : Descriptor) : Bool := d.scriptLang = some "ts"

def primaryScript (d : Descriptor) : Option Block := d.script.or d.scriptSetup

/-- Which section the primary script is, by name. -/
def primaryName (d : Descriptor) : Option String :=
  (d.script.map fun _ => "script").or (d.scriptSetup.map fun _ => "setup")

theorem primaryScript_eq_of_name (d : Descriptor) :
    d.primaryScript = if d.primaryName = some "script" then d.script else d.scriptSetup := by
  unfold primaryScript primaryName
  cases d.script with
  | some block => rfl
  | none => cases d.scriptSetup <;> rfl

def hasTypedPrimary (d : Descriptor) : Bool :=
  match d.primaryScript with
  | some block => block.lang = some "ts"
  | none => false

end Descriptor

/-- Why no stage can run on a component. -/
inductive LanguageFault
  | preprocessor
  | scriptLanguage
  deriving DecidableEq, Repr

def LanguageFault.message : LanguageFault → String
  | .preprocessor =>
    "lang=\"x\" pre-processors for <template> or <style> are currently not supported."
  | .scriptLanguage => "Only lang=\"ts\" is supported for <script> blocks."

def Descriptor.languageFault (d : Descriptor) : Option LanguageFault :=
  if (declaredLang d.template).isSome || d.styles.any (fun s => (declaredLang s.toBlock).isSome)
  then some .preprocessor
  else match d.scriptLang with
    | none => none
    | some lang => if lang = "ts" then none else some .scriptLanguage

end Playground
