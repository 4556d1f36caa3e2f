import Playground.Proofs.Compile.ClientCalls
import Playground.Proofs.Compile.Outcome

namespace Playground

section Stages

variable {t u : Toolchain} (o : CompileOptions) (d : Descriptor) (id : String)

/-- The caller's own options never decide for which build a script is compiled. -/
theorem servesClient_scriptRequest (target : Target) (typed : Bool) :
    (Call.compileScript d (scriptRequest o d id target typed)).servesClient = !target.isSsr := by
  have hssr : Fields.get? "ssr" (Fields.mapOf "template_options"
      (scriptRequest o d id target typed)) = some (.bool target.isSsr) := by
    simp [scriptRequest, Fields.mapOf]
  rw [Call.servesClient, Fields.isOff, hssr]
  cases target <;> rfl

theorem servesClient_templateRequest (template : Block) (bindings : Option Bindings)
    (target : Target) (typed : Bool) :
    (Call.compileTemplate (templateRequest o d template id bindings target typed)).servesClient =
      !target.isSsr := by
  have hssr : Fields.get? "ssr" (templateRequest o d template id bindings target typed) =
      some (.bool target.isSsr) := by
    simp [templateRequest]
  rw [Call.servesClient, Fields.isOff, hssr]
  cases target <;> rfl

theorem compileScript_agrees (ha : t.AgreesForClient u) (typed : Bool) :
    RunsAgree (· = ·) (compileScript t o d id .client typed)
      (compileScript u o d id .client typed) := by
  unfold compileScript
  cases d.primaryScript with
  | none => exact .pure rfl
  | some script =>
    refine .bind (ha.stageAsk _ (servesClient_scriptRequest o d id .client typed)) ?_
    rintro compiled _ rfl
    refine .bind (ha.stageAsk _ rfl) ?_
    rintro body _ rfl
    split
    · refine .bind (ha.stageAsk _ rfl) ?_
      rintro code _ rfl
      exact .pure rfl
    · exact .pure rfl

theorem compileTemplate_agrees (ha : t.AgreesForClient u) (template : Block)
    (bindings : Option Bindings) (typed : Bool) :
    RunsAgree (· = ·) (compileTemplate t o d template id bindings .client typed)
      (compileTemplate u o d template id bindings .client typed) := by
  unfold compileTemplate
  have hserves := servesClient_templateRequest o d id template bindings .client typed
  refine .bind (ha.stageAsk _ hserves) ?_
  rintro compiled _ rfl
  cases compiled.errors with
  | cons e es => exact .throw _
  | nil =>
    dsimp only
    split
    · exact ha.stageAsk (.stripTypes _) rfl
    · exact .pure rfl

theorem compileScript_asksForServer (t : Toolchain) (typed : Bool) :
    AsksForServer (compileScript t o d id .ssr typed).run := by
  unfold compileScript
  cases d.primaryScript with
  | none => exact .pure _
  | some script =>
    refine .bind (.stageAsk t ?_) fun compiled => .bind (.stageAsk t rfl) fun body => ?_
    · rw [servesClient_scriptRequest]
      rfl
    · dsimp only
      split
      · exact .bind (.stageAsk t rfl) fun code => .pure _
      · exact .pure _

theorem compileTemplate_asksForServer (t : Toolchain) (template : Block)
    (bindings : Option Bindings) (typed : Bool) :
    AsksForServer (compileTemplate t o d template id bindings .ssr typed).run := by
  unfold compileTemplate
  refine .bind (.stageAsk t ?_) fun compiled => ?_
  · rw [servesClient_templateRequest]
    rfl
  · cases compiled.errors with
    | cons e es => exact .throw _
    | nil =>
      dsimp only
      split
      · exact .stageAsk t rfl
      · exact .pure _

theorem compileStyleBlocks_agrees (ha : t.AgreesForClient u) (styles : List StyleBlock) :
    RunsAgree (· = ·) (compileStyleBlocks t o d id styles)
      (compileStyleBlocks u o d id styles) := by
  induction styles with
  | nil => exact .pure rfl
  | cons style styles ih =>
    unfold compileStyleBlocks
    split
    · exact .throw _
    · refine .lift_bind (ha.ask _ rfl) ?_
      rintro answer _ rfl
      refine .bind ih ?_
      rintro ⟨codes, errors⟩ _ rfl
      exact .pure rfl

theorem compileStyles_agrees (ha : t.AgreesForClient u) :
    RunsAgree (· = ·) (compileStyles t o d id) (compileStyles u o d id) := by
  refine .bind (compileStyleBlocks_agrees o d id ha d.styles) ?_
  rintro ⟨codes, errors⟩ _ rfl
  exact .pure rfl

end Stages

/-- Builds that may differ in the server build and its warnings. -/
def Builds.SameClient (b b' : Builds) : Prop := b.client = b'.client

@[simp] theorem Builds.addSsrResult_client (result : Except StageErrors String) (b : Builds) :
    (b.addSsrResult result).client = b.client := by
  cases result <;> rfl

namespace Compiler

section Pipeline

variable {t u : Toolchain} (o : CompileOptions)

/-- Stages for the server, of whose results nothing is known, let both runs go on. -/
theorem outcome_agrees {α β : Type} {x : Stage α} {y : Stage β} (hx : Contained x)
    (hy : Contained y) (hxy : SessionsAgree (fun _ _ => True) x.run y.run) :
    RunsAgree (fun _ _ => True) (Pipeline.outcome x) (Pipeline.outcome y) := by
  intro h h' hh
  obtain ⟨result, h₁, hrun⟩ := hx.exists_run h
  obtain ⟨result', h₂, hrun'⟩ := hy.exists_run h'
  obtain ⟨-, hcalls⟩ := hxy h h' hh
  rw [hrun, hrun'] at hcalls
  rw [Pipeline.run_outcome hrun, Pipeline.run_outcome hrun']
  exact ⟨.ok trivial, hcalls⟩

theorem parse_agrees (ha : t.AgreesForClient u) (filename code : String) :
    RunsAgree (· = ·) (parse ⟨t, o⟩ filename code) (parse ⟨u, o⟩ filename code) := by
  refine .lift_bind (ha.ask _ rfl) ?_
  rintro answer _ rfl
  cases answer with
  | error f => exact .throw _
  | ok parsed =>
    dsimp only
    split
    · exact .pure rfl
    · exact .throw _

theorem checkLanguages_agrees (d : Descriptor) :
    RunsAgree (· = ·) (checkLanguages d) (checkLanguages d) := by
  unfold checkLanguages
  cases d.languageFault with
  | some fault => exact .throw _
  | none => exact .pure rfl

theorem scriptPart_agrees (ha : t.AgreesForClient u) (d : Descriptor) (id : String) :
    RunsAgree (fun a b => a.1.SameClient b.1 ∧ a.2 = b.2) (scriptPart ⟨t, o⟩ d id)
      (scriptPart ⟨u, o⟩ d id) := by
  unfold scriptPart
  refine .bind ((compileScript_agrees o d id ha d.isTyped).adapt _) ?_
  rintro script _ rfl
  dsimp only
  split
  · -- one server script may pass where the other fails, so of their results nothing is known
    have hserver := (compileScript_asksForServer o d id t d.isTyped).agree
      (compileScript_asksForServer o d id u d.isTyped)
    refine .bind (outcome_agrees (contained_compileScript t o d id .ssr d.isTyped)
      (contained_compileScript u o d id .ssr d.isTyped) hserver) fun ssr ssr' _ => .pure ⟨?_, rfl⟩
    simp only [Builds.SameClient, Builds.addSsrResult_client]
  · exact .pure ⟨rfl, rfl⟩

theorem templatePart_agrees (ha : t.AgreesForClient u) (d : Descriptor) (id : String)
    (bindings : Option Bindings) {builds builds' : Builds} (hb : builds.SameClient builds') :
    RunsAgree Builds.SameClient (templatePart ⟨t, o⟩ d id bindings builds)
      (templatePart ⟨u, o⟩ d id bindings builds') := by
  have hsame : needsTemplate ⟨u, o⟩ d = needsTemplate ⟨t, o⟩ d := rfl
  unfold templatePart
  simp only [hsame]
  split
  · exact .pure hb
  · next hneeds =>
    obtain ⟨template, htemplate⟩ := exists_template_of_needsTemplate (by simpa using hneeds)
    simp only [templateStage_of_some _ o d id htemplate]
    refine .bind ((compileTemplate_agrees o d id ha template bindings d.isTyped).adapt _) ?_
    rintro client _ rfl
    have hserver := (compileTemplate_asksForServer o d id t template bindings d.isTyped).agree
      (compileTemplate_asksForServer o d id u template bindings d.isTyped)
    refine .bind (outcome_agrees (contained_compileTemplate t o d id template bindings .ssr
      d.isTyped) (contained_compileTemplate u o d id template bindings .ssr d.isTyped) hserver)
      fun ssr ssr' _ => .pure ?_
    simp only [Builds.SameClient, Builds.addSsrResult_client, Builds.addClient]
    rw [hb]

theorem stages_agree (ha : t.AgreesForClient u) (id filename code : String) :
    RunsAgree (fun a b => a.1.SameClient b.1 ∧ a.2 = b.2) (stages ⟨t, o⟩ id filename code)
      (stages ⟨u, o⟩ id filename code) := by
  unfold stages
  refine .bind (parse_agrees o ha filename code) ?_
  rintro d _ rfl
  refine .bind (checkLanguages_agrees d) ?_
  rintro _ _ -
  refine .bind (scriptPart_agrees o ha d id) ?_
  rintro ⟨builds, bindings⟩ ⟨builds', _⟩ ⟨hscript, rfl⟩
  refine .bind (templatePart_agrees o ha d id bindings hscript) ?_
  rintro builds builds' hclient
  refine .bind ((compileStyles_agrees o d id ha).adapt _) ?_
  rintro sheet _ rfl
  refine .pure ⟨?_, rfl⟩
  split
  · exact congrArg (·.append (scopeLine id)) hclient
  · exact hclient

end Pipeline

/-- Once the stages of a component are through, its client build holds some code. -/
def HoldsClientCode (c : Compiler) (file : VirtualFile) (h : List Call) : Prop :=
  ∀ id builds sheet, c.toolchain.respond h (.scopeId file.filename) = .ok id →
    ((c.stages id file.filename file.code).run.run (h ++ [.scopeId file.filename])).1 =
      .ok (builds, sheet) → builds.client.hasCode = true

/-- The client module is written from the client build alone, if that holds code. -/
theorem assemble_js (filename : String) {builds builds' : Builds} (old : Artifact)
    (hsame : builds.SameClient builds') (hcode : builds.client.hasCode = true) :
    (assemble filename builds old).js = (assemble filename builds' old).js := by
  have hcode' : builds'.client.hasCode = true := hsame ▸ hcode
  simp only [assemble, hcode, hcode', Bool.true_or, if_true, Builds.addBoth, Builds.addClient,
    Builds.addSsr]
  rw [hsame]

/-- Nothing that the services say about the server build reaches the client: not the outcome, not
the errors, not the style sheet, and not the module, unless the client build is empty. -/
theorem compileFile_same_for_client {t u : Toolchain} (ha : t.AgreesForClient u)
    (o : CompileOptions) (file : VirtualFile) (hv : file.suffix = ".vue") {h h' : List Call}
    (hh : clientCalls h = clientCalls h') :
    let run := ((compileFile ⟨t, o⟩ file).run h).1
    let run' := ((compileFile ⟨u, o⟩ file).run h').1
    run.map (fun r => (r.1.outcome, r.1.errors)) = run'.map (fun r => (r.1.outcome, r.1.errors)) ∧
      (file.after run).compiled.css = (file.after run').compiled.css ∧
      (HoldsClientCode ⟨t, o⟩ file h →
        (file.after run).compiled.js = (file.after run').compiled.js) := by
  by_cases hb : Text.allBlank file.code = true
  · simp only [compileFile_of_blank _ file _ hb, and_self, implies_true]
  rw [Bool.not_eq_true] at hb
  have hk := FileKind.ofSuffix_eq_component_iff.2 hv
  simp only [compileFile_of_component _ file _ hb hk]
  have hid := ha (.scopeId file.filename) rfl h h' hh
  cases hs : t.respond h (.scopeId file.filename) with
  | error f =>
    rw [hs] at hid
    simp only [← hid, and_self, implies_true]
  | ok id =>
    rw [hs] at hid
    obtain ⟨hend, -⟩ := stages_agree o ha id file.filename file.code _ _
      (clientCalls_append_congr hh (.scopeId file.filename))
    simp only [← hid, HoldsClientCode, hs]
    rcases hx : (stages ⟨t, o⟩ id file.filename file.code).run.run
      (h ++ [.scopeId file.filename]) with ⟨rx, h₁⟩
    rcases hy : (stages ⟨u, o⟩ id file.filename file.code).run.run
      (h' ++ [.scopeId file.filename]) with ⟨ry, h₂⟩
    rw [hx, hy] at hend
    simp only [hx, hy]
    cases hend with
    | error halt => cases halt <;> exact ⟨rfl, rfl, fun _ => rfl⟩
    | @ok a b hab =>
      obtain ⟨builds, sheet⟩ := a
      obtain ⟨builds', sheet'⟩ := b
      obtain ⟨hsame, rfl⟩ := hab
      refine ⟨rfl, rfl, fun hcode => ?_⟩
      exact assemble_js file.filename file.compiled hsame (hcode id builds sheet rfl (by rw [hx]))

/-- A setup script beside a style, where both builds pass. -/
def serverPasses : ToolchainScript :=
  let setup : Block := { content := "let n = 1" }
  { parse := .ok { descriptor := { filename := "", scriptSetup := some setup, styles := [{}] } }
    script := fun _ => .ok { content := "let n = 1" }
    template := fun _ => .ok { code := "" }
    styles := [.ok { code := "a {}" }]
    ids := { fixed := some "a1" } }

/-- The same services with a fault in the server build. -/
def serverFails : ToolchainScript :=
  { serverPasses with
    script := fun ssr => if ssr then .error { kind := "ValueError" } else serverPasses.script ssr }

theorem compileFile_same_for_client_serverFails :
    let file : VirtualFile := ⟨"App.vue", "<script setup>", {}⟩
    let run := ((compileFile ⟨serverPasses.toolchain, {}⟩ file).run []).1
    let run' := ((compileFile ⟨serverFails.toolchain, {}⟩ file).run []).1
    run.toOption.map (·.1.warnings) ≠ run'.toOption.map (·.1.warnings) ∧
      run.map (fun r => (r.1.outcome, r.1.errors)) =
        run'.map (fun r => (r.1.outcome, r.1.errors)) ∧
      (file.after run).compiled.css = (file.after run').compiled.css ∧
      (file.after run).compiled.js = (file.after run').compiled.js := by
  intro file run run'
  have hagree : serverPasses.toolchain.AgreesForClient serverFails.toolchain :=
    serverPasses.agreesForClient rfl rfl
  have hcode : HoldsClientCode ⟨serverPasses.toolchain, {}⟩ file [] := by
    intro id builds sheet hid hrun
    cases hid
    cases hrun
    decide
  have hcalls : clientCalls [] = clientCalls [] := rfl
  obtain ⟨hreport, hcss, hjs⟩ := compileFile_same_for_client hagree {} file (by decide) hcalls
  exact ⟨by decide, hreport, hcss, hjs hcode⟩

end Compiler

end Playground
