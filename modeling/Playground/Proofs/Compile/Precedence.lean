import Playground.Proofs.Compile.Dispatch
import Playground.Toolchain.Scripted

namespace Playground

def Block.hasLang (b : Block) : Bool := b.lang.any fun lang => !lang.isEmpty

/-! What each stage may have against a component. An objection looks at its own stage, whatever the
others say; its texts are the errors that the component is refused with. -/

namespace Objection

def parserRaised : Except Failure Parsed → Option (List String)
  | .error f => some [f.trace]
  | .ok _ => none

def parserReported : Except Failure Parsed → Option (List String)
  | .error _ => none
  | .ok parsed => if parsed.errors = [] then none else some (parsed.errors.map (·.text))

def preprocessor (d : Descriptor) : Option (List String) :=
  if d.template.any Block.hasLang || d.styles.any (·.hasLang) then
    some [LanguageFault.preprocessor.message]
  else none

def scriptLanguage (d : Descriptor) : Option (List String) :=
  if d.scriptLang.any (· ≠ "ts") then some [LanguageFault.scriptLanguage.message] else none

def clientScript (c : Compiler) (scope : String) (h : List Call) (d : Descriptor) :
    Option (List String) :=
  (fault? (compileScript c.toolchain c.options d scope .client d.isTyped) h).map StageErrors.toList

/-- The template is compiled apart unless a setup script takes it in. It needs the bindings of the
client script, so without them there is nothing to object to. -/
def clientTemplate (c : Compiler) (scope : String) (h : List Call) (d : Descriptor) :
    Option (List String) :=
  match d.template, (c.scriptPart d scope).run.run h with
  | some template, (.ok (_, bindings), h') =>
    if d.scriptSetup = none ∨ c.options.script.inlineTemplate = some false then
      (fault? (compileTemplate c.toolchain c.options d template scope bindings .client d.isTyped)
        h').map StageErrors.toList
    else none
  | _, _ => none

def styleModule (d : Descriptor) : Option (List String) :=
  if d.styles.any (·.cssModule.isOn) then some [styleModuleMessage] else none

end Objection

namespace Compiler

/-- The objections to a component in the order of the stages. Only a parser that answers leaves a
descriptor for the later ones to look at. -/
def objections (c : Compiler) (scope filename code : String) (h : List Call) :
    List (Option (List String)) :=
  let call := Call.parse code filename true
  let answer := c.toolchain.respond h call
  let later (objection : Descriptor → Option (List String)) : Option (List String) :=
    answer.toOption.bind fun parsed => objection parsed.descriptor
  [Objection.parserRaised answer, Objection.parserReported answer,
    later Objection.preprocessor, later Objection.scriptLanguage,
    later (Objection.clientScript c scope (h ++ [call])),
    later (Objection.clientTemplate c scope (h ++ [call])), later Objection.styleModule]

theorem run_parse (c : Compiler) (filename code : String) (h : List Call) :
    (c.parse filename code).run.run h =
      (match c.toolchain.respond h (.parse code filename true) with
        | .error f => .error (.reported [f.trace])
        | .ok parsed =>
          if parsed.errors = [] then .ok parsed.descriptor
          else .error (.reported (parsed.errors.map (·.text))), h ++ [.parse code filename true]) := by
  unfold parse
  rw [run_lift_bind, run_ask]
  cases c.toolchain.respond h (.parse code filename true) with
  | error f => rfl
  | ok parsed => cases he : parsed.errors <;> simp [he] <;> rfl

theorem fault?_parse (c : Compiler) (filename code : String) (h : List Call) :
    fault? (c.parse filename code) h =
      (Objection.parserRaised (c.toolchain.respond h (.parse code filename true))).or
        (Objection.parserReported (c.toolchain.respond h (.parse code filename true))) := by
  unfold fault?
  rw [run_parse]
  cases c.toolchain.respond h (.parse code filename true) with
  | error f => rfl
  | ok parsed =>
    by_cases he : parsed.errors = [] <;> simp [Objection.parserRaised, Objection.parserReported, he]

theorem declaredLang_isSome (b : Option Block) :
    (declaredLang b).isSome = b.any Block.hasLang := by
  cases b with
  | none => rfl
  | some b => cases hl : b.lang <;> simp [declaredLang, Block.hasLang, hl, Option.isSome_filter]

theorem fault?_checkLanguages (d : Descriptor) (h : List Call) :
    fault? (checkLanguages d) h = (Objection.preprocessor d).or (Objection.scriptLanguage d) := by
  unfold checkLanguages Descriptor.languageFault Objection.preprocessor Objection.scriptLanguage
  simp only [declaredLang_isSome, Option.any_some]
  by_cases hp : (d.template.any Block.hasLang || d.styles.any (·.hasLang)) = true
  · simp only [hp, if_true]
    rfl
  · simp only [hp, if_false, Option.none_or, Bool.false_eq_true]
    cases hl : d.scriptLang with
    | none => rfl
    | some lang => by_cases ht : lang = "ts" <;> simp [ht] <;> rfl

theorem checkLanguages_ok {d : Descriptor} {h h' : List Call}
    (hl : (checkLanguages d).run.run h = (.ok (), h')) : h' = h := by
  unfold checkLanguages at hl
  cases hf : d.languageFault <;> rw [hf] at hl <;> cases hl
  rfl

theorem fault?_ofStage {α : Type} (stage : Stage α) (h : List Call) :
    fault? (Pipeline.ofStage stage) h = (fault? stage h).map StageErrors.toList :=
  fault?_adapt _ _ _

theorem fault?_scriptPart (c : Compiler) (scope : String) (d : Descriptor) (h : List Call) :
    fault? (c.scriptPart d scope) h = Objection.clientScript c scope h d := by
  unfold scriptPart
  rw [fault?_bind_of_none, fault?_ofStage]
  · rfl
  · -- the build for the server has no say
    exact fun _ h' => Pipeline.fault?_optional_outcome h' _ _

theorem fault?_templatePart (c : Compiler) (scope : String) (d : Descriptor) (builds : Builds)
    (bindings : Option Bindings) (h h' : List Call)
    (hs : (c.scriptPart d scope).run.run h = (.ok (builds, bindings), h')) :
    fault? (c.templatePart d scope bindings builds) h' =
      Objection.clientTemplate c scope h d := by
  have hneeds : c.needsTemplate d = (d.template.isSome &&
      decide (d.scriptSetup = none ∨ c.options.script.inlineTemplate = some false)) := by
    cases hd : d.scriptSetup <;> simp [needsTemplate, hd]
  unfold templatePart Objection.clientTemplate
  rw [hs, hneeds]
  cases ht : d.template with
  | none => rfl
  | some template =>
    by_cases hn : d.scriptSetup = none ∨ c.options.script.inlineTemplate = some false
    · simp only [hn, Option.isSome_some, decide_true, Bool.and_self, Bool.not_true, if_true,
        Bool.false_eq_true, if_false, templateStage_of_some c.toolchain c.options d scope ht]
      -- the build for the server has no say here either
      rw [fault?_bind_of_none, fault?_ofStage]
      exact fun _ h' => Pipeline.fault?_outcome_bind h'
    · simp only [hn]
      rfl

theorem fault?_compileStyleBlocks (t : Toolchain) (o : CompileOptions) (d : Descriptor)
    (scope : String) (styles : List StyleBlock) (h : List Call) :
    fault? (compileStyleBlocks t o d scope styles) h =
      if styles.any (·.cssModule.isOn) then some .found else none := by
  induction styles generalizing h with
  | nil => rfl
  | cons style styles ih =>
    by_cases hm : style.cssModule.isOn = true
    · simp only [compileStyleBlocks, hm, List.any_cons]
      rfl
    · -- whatever the service answers for this block, the later ones decide
      simp only [compileStyleBlocks, hm, List.any_cons, Bool.false_eq_true, if_false, Bool.false_or]
      rw [fault?_lift_bind, fault?_bind_of_none fun _ _ => rfl, ih]

theorem fault?_compileStyles (c : Compiler) (scope : String) (d : Descriptor) (h : List Call) :
    fault? ((compileStyles c.toolchain c.options d scope).adapt
      (Halt.map fun _ => [styleModuleMessage])) h = Objection.styleModule d := by
  unfold compileStyles Objection.styleModule
  rw [fault?_adapt, fault?_bind_of_none fun _ _ => rfl, fault?_compileStyleBlocks]
  split <;> rfl

theorem parse_ok {c : Compiler} {filename code : String} {h h' : List Call} {d : Descriptor}
    (hp : (c.parse filename code).run.run h = (.ok d, h')) :
    ∃ parsed, c.toolchain.respond h (.parse code filename true) = .ok parsed ∧
      parsed.errors = [] ∧ parsed.descriptor = d ∧ h' = h ++ [.parse code filename true] := by
  rw [run_parse] at hp
  cases hr : c.toolchain.respond h (.parse code filename true) with
  | error f =>
    rw [hr] at hp
    cases hp
  | ok parsed =>
    rw [hr] at hp
    by_cases he : parsed.errors = [] <;> simp only [he, if_true, if_false] at hp <;> cases hp
    exact ⟨parsed, rfl, he, rfl, rfl⟩

theorem findSome?_cons_or (o : Option (List String)) (os : List (Option (List String))) :
    (o :: os).findSome? id = o.or (os.findSome? id) := by
  cases o <;> rfl

/-- A component fails with the first of its objections, whichever others there are. -/
theorem fault?_stages (c : Compiler) (scope filename code : String) (h : List Call) :
    fault? (c.stages scope filename code) h =
      (c.objections scope filename code h).findSome? id := by
  simp only [objections, findSome?_cons_or, List.findSome?_nil, Option.or_none]
  unfold stages
  rw [← Option.or_assoc, ← fault?_parse]
  apply fault?_bind (c.contained_parse filename code)
  intro d h₁ hd
  obtain ⟨parsed, hr, -, rfl, rfl⟩ := parse_ok hd
  simp only [hr, Except.toOption, Option.bind_some]
  rw [← Option.or_assoc, ← fault?_checkLanguages _ (h ++ [.parse code filename true])]
  apply fault?_bind (contained_checkLanguages _)
  intro _ h₂ hl
  obtain rfl := checkLanguages_ok hl
  rw [← fault?_scriptPart]
  apply fault?_bind (c.contained_scriptPart _ scope)
  rintro ⟨builds, bindings⟩ h₃ hs
  rw [← fault?_templatePart c scope _ builds bindings _ _ hs]
  apply fault?_bind (c.contained_templatePart _ scope bindings builds)
  intro builds' h₄ _
  rw [fault?_bind_of_none fun _ _ => rfl, fault?_compileStyles]

/-- A component is aborted with its first objection and with nothing else: what the later stages
would say, the errors of styles and the warnings of the server build are not reported. Without any
objection it is compiled, and those are all that is reported. -/
theorem compileFile_first_objection (c : Compiler) (file : VirtualFile) (h : List Call)
    (scope : String) (hb : Text.allBlank file.code = false) (hv : file.suffix = ".vue")
    (hs : c.toolchain.respond h (.scopeId file.filename) = .ok scope) :
    match (c.objections scope file.filename file.code (h ++ [.scopeId file.filename])).findSome? id
    with
    | some errors =>
      ((c.compileFile file).run h).1 = .ok (⟨file.filename, .aborted, errors, []⟩, file)
    | none => ∃ builds sheet,
      ((c.stages scope file.filename file.code).run.run (h ++ [.scopeId file.filename])).1 =
        .ok (builds, sheet) ∧
      ((c.compileFile file).run h).1 =
        .ok (⟨file.filename, .compiled, sheet.errors, builds.warnings⟩,
          { file with compiled :=
            { assemble file.filename builds file.compiled with css := sheet.css } }) := by
  have hrun := c.compileFile_of_component file h hb (FileKind.ofSuffix_eq_component_iff.2 hv)
  simp only [hs] at hrun
  rw [← fault?_stages]
  rcases (c.contained_stages scope file.filename file.code).ends (h ++ [.scopeId file.filename])
    with ⟨errors, h', hx⟩ | ⟨⟨builds, sheet⟩, h', hx⟩
  · rw [(fault?_of_run hx).1, hrun, hx]
    rfl
  · rw [fault?_of_ok hx, hrun, hx]
    exact ⟨builds, sheet, rfl, rfl⟩

/-- A template without an end beside a style module. -/
def faultyTwice : Compiler :=
  let d : Descriptor :=
    { filename := "App.vue", template := some {}, styles := [{ cssModule := .on }] }
  let services : ToolchainScript :=
    { parse := .ok { descriptor := d }
      script := fun _ => .ok { content := "" }
      template := fun _ => .ok { code := "", errors := [.plain "no end tag"] }
      ids := { fixed := some "a1" } }
  { toolchain := services.toolchain }

theorem compileFile_first_objection_faultyTwice :
    ((faultyTwice.compileFile ⟨"App.vue", "<template>", {}⟩).run []).1 =
      .ok (⟨"App.vue", .aborted, ["no end tag"], []⟩, ⟨"App.vue", "<template>", {}⟩) := by
  have h := compileFile_first_objection faultyTwice ⟨"App.vue", "<template>", {}⟩ [] "a1"
    (by decide) (by decide) rfl
  have ho : (faultyTwice.objections "a1" "App.vue" "<template>"
      ([] ++ [.scopeId "App.vue"])).findSome? id = some ["no end tag"] := by rfl
  rw [ho] at h
  exact h

end Compiler

end Playground
