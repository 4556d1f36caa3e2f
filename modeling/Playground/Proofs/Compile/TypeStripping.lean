import Playground.Proofs.Compile.ClientCalls

namespace Playground

theorem declaredLang_eq_some_iff {block : Option Block} {lang : String} :
    declaredLang block = some lang ↔ ∃ b, block = some b ∧ b.lang = some lang ∧ lang ≠ "" := by
  cases block with
  | none => simp [declaredLang]
  | some b => simp [declaredLang, Option.filter_eq_some_iff]

namespace Descriptor

/-- A plain script that declares no language stands beside a typed setup script. -/
def HasTypesInSetupOnly (d : Descriptor) : Prop :=
  ∃ plain setup, d.script = some plain ∧ declaredLang (some plain) = none ∧
    d.scriptSetup = some setup ∧ setup.lang = some "ts"

theorem hasTypedPrimary_of_primaryScript {d : Descriptor} {script : Block}
    (hscript : d.primaryScript = some script) :
    d.hasTypedPrimary = decide (script.lang = some "ts") := by
  unfold hasTypedPrimary
  rw [hscript]

theorem primaryScript_of_isTyped {d : Descriptor} (htyped : d.isTyped = true) :
    ∃ script, d.primaryScript = some script := by
  have hlang : (declaredLang d.script).or (declaredLang d.scriptSetup) = some "ts" :=
    of_decide_eq_true htyped
  unfold primaryScript
  cases hplain : d.script with
  | some plain => exact ⟨plain, rfl⟩
  | none =>
    rw [hplain] at hlang
    obtain ⟨setup, hsetup, -⟩ := declaredLang_eq_some_iff.1 hlang
    exact ⟨setup, hsetup⟩

/-- The language of a component is looked for in both scripts, and the one that its code is treated
by in the first script alone. -/
theorem hasTypedPrimary_iff {d : Descriptor} (htyped : d.isTyped = true) :
    d.hasTypedPrimary = true ↔ ¬ d.HasTypesInSetupOnly := by
  have hlang : (declaredLang d.script).or (declaredLang d.scriptSetup) = some "ts" :=
    of_decide_eq_true htyped
  unfold HasTypesInSetupOnly hasTypedPrimary primaryScript
  cases hplain : d.script with
  | none =>
    rw [hplain] at hlang
    obtain ⟨setup, hsetup, hts, -⟩ := declaredLang_eq_some_iff.1 hlang
    simp [hsetup, hts]
  | some plain =>
    rw [hplain] at hlang
    cases hdeclared : declaredLang (some plain) with
    | none =>
      rw [hdeclared] at hlang
      obtain ⟨setup, hsetup, hts, -⟩ := declaredLang_eq_some_iff.1 hlang
      have hplainLang : plain.lang ≠ some "ts" := by
        intro he
        have hsome : declaredLang (some plain) = some "ts" :=
          declaredLang_eq_some_iff.2 ⟨plain, rfl, he, by decide⟩
        rw [hdeclared] at hsome
        cases hsome
      simp [hsetup, hts, hplainLang, hdeclared]
    | some lang =>
      rw [hdeclared] at hlang
      cases hlang
      obtain ⟨_, hb, hts, -⟩ := declaredLang_eq_some_iff.1 hdeclared
      cases hb
      simp [hts, hdeclared]

end Descriptor

/-- A request that tells the service to read typed expressions. -/
def Call.AsksTyped : Call → Prop
  | .compileScript _ options =>
    Fields.get? "expression_plugins"
      (Fields.mapOf "compiler_options" (Fields.mapOf "template_options" options)) =
        some (Value.texts ["typescript"])
  | .compileTemplate options =>
    Fields.get? "expression_plugins" (Fields.mapOf "compiler_options" options) =
      some (Value.texts ["typescript"])
  | .bindDefault _ _ plugins => plugins = some ["typescript"]
  | _ => False

/-- The last answer of a run is this code without types. -/
def Toolchain.Strips (t : Toolchain) (code : String) (h' : List Call) : Prop :=
  ∃ before text, h' = before ++ [.stripTypes text] ∧ t.respond before (.stripTypes text) = .ok code

/-- No types were stripped from one history to the other. -/
def StripsNothing (h h' : List Call) : Prop :=
  ∃ calls, h' = h ++ calls ∧ ∀ text, Call.stripTypes text ∉ calls

section Stages

variable {t : Toolchain} {o : CompileOptions} {d : Descriptor} {id : String} {target : Target}
  {typed : Bool} {h h' : List Call}

theorem asksTyped_scriptRequest :
    (Call.compileScript d (scriptRequest o d id target typed)).AsksTyped ↔ typed = true := by
  cases typed <;>
    simp [Call.AsksTyped, scriptRequest, Fields.mapOf, pluginsValue, plugins, Value.ofOption,
      Value.texts]

theorem asksTyped_templateRequest {template : Block} {bindings : Option Bindings} :
    (Call.compileTemplate (templateRequest o d template id bindings target typed)).AsksTyped ↔
      typed = true := by
  cases typed <;>
    simp [Call.AsksTyped, templateRequest, Fields.mapOf, pluginsValue, plugins, Value.ofOption,
      Value.texts]

/-- What a script stage asks when it passes, and what its code is made of. -/
theorem compileScript_eq_ok {script : Block} {code : ScriptCode}
    (hscript : d.primaryScript = some script)
    (hrun : (compileScript t o d id target typed).run.run h = (.ok code, h')) :
    ∃ compiled body,
      let request := Call.compileScript d (scriptRequest o d id target typed)
      let binding := Call.bindDefault compiled.content componentName (plugins typed)
      let text := ScriptCode.bindingsNote compiled.bindings ++ "\n" ++ body
      t.respond h request = .ok compiled ∧ t.respond (h ++ [request]) binding = .ok body ∧
      code.bindings = compiled.bindings ∧
      if d.hasTypedPrimary = true then
        t.respond (h ++ [request, binding]) (.stripTypes text) = .ok code.code ∧
          h' = h ++ [request, binding, .stripTypes text]
      else code.code = text ∧ h' = h ++ [request, binding] := by
  unfold compileScript at hrun
  rw [hscript] at hrun
  obtain ⟨compiled, _, hask, hrest⟩ := run_bind_eq_ok hrun
  obtain ⟨hcompiled, rfl⟩ := run_stageAsk_eq_ok hask
  obtain ⟨body, _, haskBody, hrest⟩ := run_bind_eq_ok hrest
  obtain ⟨hbody, rfl⟩ := run_stageAsk_eq_ok haskBody
  refine ⟨compiled, body, hcompiled, hbody, ?_⟩
  rw [Descriptor.hasTypedPrimary_of_primaryScript hscript]
  by_cases hts : script.lang = some "ts"
  · simp only [hts, if_true, decide_true] at hrest ⊢
    obtain ⟨text, _, haskText, hend⟩ := run_bind_eq_ok hrest
    obtain ⟨htext, rfl⟩ := run_stageAsk_eq_ok haskText
    cases hend
    exact ⟨rfl, by simpa using htext, by simp⟩
  · simp only [hts, if_false, decide_false, Bool.false_eq_true] at hrest ⊢
    cases hrest
    exact ⟨rfl, rfl, by simp⟩

/-- What a template stage asks when it passes, and what its code is made of. -/
theorem compileTemplate_eq_ok {template : Block} {bindings : Option Bindings} {code : String}
    (hrun : (compileTemplate t o d template id bindings target typed).run.run h = (.ok code, h')) :
    ∃ compiled,
      let request := Call.compileTemplate (templateRequest o d template id bindings target typed)
      let text := attachRender target compiled.code
      t.respond h request = .ok compiled ∧ compiled.errors = [] ∧
      if d.hasTypedPrimary = true then
        t.respond (h ++ [request]) (.stripTypes text) = .ok code ∧
          h' = h ++ [request, .stripTypes text]
      else code = text ∧ h' = h ++ [request] := by
  unfold compileTemplate at hrun
  obtain ⟨compiled, _, hask, hrest⟩ := run_bind_eq_ok hrun
  obtain ⟨hcompiled, rfl⟩ := run_stageAsk_eq_ok hask
  cases herrors : compiled.errors with
  | cons e es =>
    rw [herrors] at hrest
    cases hrest
  | nil =>
    rw [herrors] at hrest
    refine ⟨compiled, hcompiled, herrors, ?_⟩
    by_cases hts : d.hasTypedPrimary = true
    · simp only [hts, if_true] at hrest ⊢
      obtain ⟨htext, rfl⟩ := run_stageAsk_eq_ok hrest
      exact ⟨htext, by simp⟩
    · simp only [hts] at hrest ⊢
      cases hrest
      exact ⟨rfl, rfl⟩

theorem compileScript_strips {script : Block} {code : ScriptCode}
    (hscript : d.primaryScript = some script) (hprimary : d.hasTypedPrimary = true)
    (hrun : (compileScript t o d id target typed).run.run h = (.ok code, h')) :
    t.Strips code.code h' := by
  obtain ⟨compiled, body, -, -, -, hstrip⟩ := compileScript_eq_ok hscript hrun
  rw [if_pos hprimary] at hstrip
  exact ⟨_, _, by simp [hstrip.2], hstrip.1⟩

theorem compileScript_stripsNothing {script : Block} {code : ScriptCode}
    (hscript : d.primaryScript = some script) (hprimary : ¬ d.hasTypedPrimary = true)
    (hrun : (compileScript t o d id target typed).run.run h = (.ok code, h')) :
    StripsNothing h h' := by
  obtain ⟨compiled, body, -, -, -, hkept⟩ := compileScript_eq_ok hscript hrun
  rw [if_neg hprimary] at hkept
  exact ⟨_, hkept.2, by simp⟩

theorem compileTemplate_strips {template : Block} {bindings : Option Bindings} {code : String}
    (hprimary : d.hasTypedPrimary = true)
    (hrun : (compileTemplate t o d template id bindings target typed).run.run h = (.ok code, h')) :
    t.Strips code h' := by
  obtain ⟨compiled, -, -, hstrip⟩ := compileTemplate_eq_ok hrun
  rw [if_pos hprimary] at hstrip
  exact ⟨_, _, by simp [hstrip.2], hstrip.1⟩

theorem compileTemplate_stripsNothing {template : Block} {bindings : Option Bindings}
    {code : String} (hprimary : ¬ d.hasTypedPrimary = true)
    (hrun : (compileTemplate t o d template id bindings target typed).run.run h = (.ok code, h')) :
    StripsNothing h h' := by
  obtain ⟨compiled, -, -, hkept⟩ := compileTemplate_eq_ok hrun
  rw [if_neg hprimary] at hkept
  exact ⟨_, hkept.2, by simp⟩

/-- In a typed component both stages ask for typed expressions, and the code of a stage that passes
is stripped of its types. Only where the plain script declares no language and the setup script is
the typed one, nothing is stripped. -/
theorem typed_stages_strip (htyped : d.isTyped = true) (t : Toolchain) (o : CompileOptions)
    (id : String) (target : Target) (template : Block) (bindings : Option Bindings)
    (h : List Call) :
    let script := compileScript t o d id target d.isTyped
    let render := compileTemplate t o d template id bindings target d.isTyped
    ((Call.compileScript d (scriptRequest o d id target d.isTyped)).AsksTyped ∧
      (Call.compileTemplate
        (templateRequest o d template id bindings target d.isTyped)).AsksTyped) ∧
    (¬ d.HasTypesInSetupOnly →
      (∀ code h', script.run.run h = (.ok code, h') → t.Strips code.code h') ∧
      ∀ code h', render.run.run h = (.ok code, h') → t.Strips code h') ∧
    (d.HasTypesInSetupOnly →
      (∀ code h', script.run.run h = (.ok code, h') → StripsNothing h h') ∧
      ∀ code h', render.run.run h = (.ok code, h') → StripsNothing h h') := by
  intro script render
  obtain ⟨first, hfirst⟩ := Descriptor.primaryScript_of_isTyped htyped
  refine ⟨⟨asksTyped_scriptRequest.2 htyped, asksTyped_templateRequest.2 htyped⟩, ?_, ?_⟩
  · intro hsetup
    have hprimary : d.hasTypedPrimary = true := (Descriptor.hasTypedPrimary_iff htyped).2 hsetup
    exact ⟨fun code h' => compileScript_strips hfirst hprimary,
      fun code h' => compileTemplate_strips hprimary⟩
  · intro hsetup
    have hprimary : ¬ d.hasTypedPrimary = true :=
      fun hp => (Descriptor.hasTypedPrimary_iff htyped).1 hp hsetup
    exact ⟨fun code h' => compileScript_stripsNothing hfirst hprimary,
      fun code h' => compileTemplate_stripsNothing hprimary⟩

end Stages

/-- An untyped plain script beside a typed setup script. -/
def setupTypes : Descriptor :=
  { filename := "App.vue", script := some {}, scriptSetup := some { lang := some "ts" } }

/-- Services whose type stripper signs its work. -/
def signingServices : ToolchainScript :=
  { parse := .ok { descriptor := setupTypes }
    script := fun _ => .ok { content := "let n: number = 1" }
    template := fun _ => .ok { code := "" }
    strip := { replacing := some (": number", ""), appending := "// js" }
    ids := { fixed := some "a1" } }

theorem typed_stages_strip_setupTypes :
    let t := signingServices.toolchain
    let script := compileScript t {} setupTypes "a1" .client setupTypes.isTyped
    setupTypes.isTyped = true ∧ setupTypes.HasTypesInSetupOnly ∧
      ∀ code h', script.run.run [] = (.ok code, h') → StripsNothing [] h' := by
  intro t script
  have htyped : setupTypes.isTyped = true := by decide
  have hsetup : setupTypes.HasTypesInSetupOnly :=
    ⟨{}, { lang := some "ts" }, rfl, rfl, rfl, rfl⟩
  have hstages := typed_stages_strip htyped t {} "a1" .client {} none []
  exact ⟨htyped, hsetup, (hstages.2.2 hsetup).1⟩

/-- For both builds the script of a typed component passes with code that no type stripper gave. -/
theorem typed_script_keeps_types :
    let t := signingServices.toolchain
    let code := "\nlet n: number = 1"
    setupTypes.languageFault = none ∧ setupTypes.isTyped = true ∧
      (∀ target,
        ((compileScript t {} setupTypes "a1" target setupTypes.isTyped).run.run []).1.toOption =
          some { code }) ∧
      ∀ before text, t.respond before (.stripTypes text) ≠ .ok code := by
  intro t code
  refine ⟨by decide, by decide, fun target => ?_, ?_⟩
  · cases target <;> decide +kernel
  · intro before text hstripped
    have hsigned : Text.replace ": number" "" text ++ "// js" = code := Except.ok.inj hstripped
    have hlast := congrArg (fun s => s.toList.getLast?) hsigned
    simp [code] at hlast

end Playground
