import Playground.Proofs.Compile.TypeStripping
import Playground.Proofs.Compile.Assembly

namespace Playground

/-- The type stripper leaves nothing of the client script of a component, which is made and bound
after a history and then handed to it. -/
def Compiler.StripsScript (c : Compiler) (d : Descriptor) (id : String) (h : List Call) : Prop :=
  ∃ compiled body,
    let request := Call.compileScript d (scriptRequest c.options d id .client d.isTyped)
    let binding := Call.bindDefault compiled.content componentName (plugins d.isTyped)
    let text := ScriptCode.bindingsNote compiled.bindings ++ "\n" ++ body
    c.toolchain.respond h request = .ok compiled ∧
      c.toolchain.respond (h ++ [request]) binding = .ok body ∧
      c.toolchain.respond (h ++ [request, binding]) (.stripTypes text) = .ok ""

/-- A script stage ends with some text, unless it is typed and the type stripper leaves nothing. -/
theorem compileScript_eq_empty {c : Compiler} {d : Descriptor} {id : String} {h h' : List Call}
    {script : ScriptCode}
    (hrun : (compileScript c.toolchain c.options d id .client d.isTyped).run.run h =
      (.ok script, h')) (hempty : script.code = "") :
    d.hasTypedPrimary = true ∧ c.StripsScript d id h := by
  cases hprimary : d.primaryScript with
  | none =>
    unfold compileScript at hrun
    rw [hprimary] at hrun
    cases hrun
    exact absurd hempty (by decide)
  | some block =>
    obtain ⟨compiled, body, hcompiled, hbody, -, hcode⟩ := compileScript_eq_ok hprimary hrun
    by_cases htyped : d.hasTypedPrimary = true
    · rw [if_pos htyped, hempty] at hcode
      exact ⟨htyped, compiled, body, hcompiled, hbody, hcode.1⟩
    · rw [if_neg htyped, hempty] at hcode
      simp at hcode

theorem append_scopeLine_eq_empty_iff {text id : String} {isScoped : Bool} :
    text ++ (if isScoped then Compiler.scopeLine id else "") = "" ↔
      text = "" ∧ isScoped = false := by
  cases isScoped <;> simp [Compiler.scopeLine]

namespace StageTexts

/-- The stages of a component gave no code for either module, and no scope id goes behind it. -/
def AreEmptyFor (t : StageTexts) (d : Descriptor) : Prop :=
  t.clientText = "" ∧ t.serverText = "" ∧ d.hasScopedStyle = false

theorem areEmptyFor_iff (t : StageTexts) (d : Descriptor) (id : String) :
    t.AreEmptyFor d ↔
      let scope := if d.hasScopedStyle then Compiler.scopeLine id else ""
      t.clientText ++ scope = "" ∧ t.serverText ++ scope = "" := by
  dsimp only
  rw [append_scopeLine_eq_empty_iff, append_scopeLine_eq_empty_iff]
  exact and_assoc.symm.trans and_and_right

theorem script_eq_empty {t : StageTexts} (hempty : t.clientText = "") : t.script = "" := by
  unfold clientText at hempty
  split at hempty
  · exact hempty
  · exact (String.append_eq_empty_iff.1 hempty).1

end StageTexts

namespace Compiler

variable {c : Compiler} {h h' : List Call}

theorem ComponentGives.of_areEmptyFor {file : VirtualFile} {id : String} {d : Descriptor}
    {texts : StageTexts} (hgives : c.ComponentGives file h id d texts)
    (hempty : texts.AreEmptyFor d) :
    d.hasTypedPrimary = true ∧ c.StripsScript d id
      (h ++ [.scopeId file.filename] ++ [.parse file.code file.filename true]) := by
  have hscriptText := StageTexts.script_eq_empty hempty.1
  cases hgives with
  | intro hid hparse herrors hscript htemplate =>
    cases hscript with
    | shared hsetup hclient => exact compileScript_eq_empty hclient hscriptText
    | apart hsetup hclient hserver => exact compileScript_eq_empty hclient hscriptText

/-- A component with another artifact from its past. The compile makes the same calls and reports
the same, and it puts the same modules and the same styles in the place of what was there. Only
where the stages gave no code at all, the modules stay as they were; then the type stripper has left
nothing of the script. -/
theorem compileFile_forgets (c : Compiler) (file : VirtualFile) (past : Artifact) (h : List Call)
    (hv : file.suffix = ".vue") {report : Report} {new : VirtualFile} {h' : List Call}
    (hrun : (c.compileFile file).run h = (.ok (report, new), h'))
    (hcompiled : report.outcome = .compiled) :
    ∃ new', (c.compileFile { file with compiled := past }).run h = (.ok (report, new'), h') ∧
      new'.compiled.css = new.compiled.css ∧
      ∃ id d texts, c.ComponentGives file h id d texts ∧
        (¬ texts.AreEmptyFor d → new'.compiled = new.compiled) ∧
        (texts.AreEmptyFor d →
          (new.compiled.js = file.compiled.js ∧ new.compiled.ssr = file.compiled.ssr) ∧
          (new'.compiled.js = past.js ∧ new'.compiled.ssr = past.ssr) ∧
          d.hasTypedPrimary = true ∧ c.StripsScript d id
            (h ++ [.scopeId file.filename] ++ [.parse file.code file.filename true])) := by
  obtain ⟨id, builds, sheet, hblank, hid, hstages, rfl, rfl⟩ :=
    c.stages_of_compiled file h hv hrun hcompiled
  -- the stages do not see the old artifact, so the other compile goes through them as well
  have hrun' : (c.compileFile { file with compiled := past }).run h =
      (.ok (⟨file.filename, .compiled, sheet.errors, builds.warnings⟩,
        { file with compiled := { assemble file.filename builds past with css := sheet.css } }),
        h') := by
    have hk : VirtualFile.kind { file with compiled := past } = .component :=
      FileKind.ofSuffix_eq_component_iff.2 hv
    rw [c.compileFile_of_component { file with compiled := past } h hblank hk]
    simp only [hid, hstages]
  obtain ⟨parsed, script, server, template, _, _, hparse, herrors, hscript, htemplate, hhold⟩ :=
    stages_give hstages
  have hgives : c.ComponentGives file h id parsed.descriptor ⟨script.code, server, template⟩ :=
    .intro hid hparse herrors hscript htemplate
  have hnew := isAssembled_assemble hhold file.filename file.compiled
  have hnew' := isAssembled_assemble hhold file.filename past
  unfold IsAssembled at hnew hnew'
  refine ⟨_, hrun', rfl, id, _, _, hgives, ?_, ?_⟩
  · intro hcode
    rw [StageTexts.areEmptyFor_iff _ _ id] at hcode
    rw [if_neg hcode] at hnew hnew'
    simp only [hnew.1, hnew.2, hnew'.1, hnew'.2]
  · intro hempty
    have hnone := (StageTexts.areEmptyFor_iff _ _ id).1 hempty
    rw [if_pos hnone] at hnew hnew'
    exact ⟨hnew, hnew', hgives.of_areEmptyFor hempty⟩

/-- A setup script that is not typed, compiled afresh and over an old artifact. -/
theorem compileFile_forgets_withoutServerScript :
    let file : VirtualFile := ⟨"App.vue", "<script setup>", {}⟩
    let past : Artifact := ⟨"old client", "old server", "old style"⟩
    let run := (withoutServerScript.compileFile file).run []
    let run' := (withoutServerScript.compileFile { file with compiled := past }).run []
    file.suffix = ".vue" ∧ run.1.toOption.map (·.1.outcome) = some .compiled ∧
      ∃ report new new', run = (.ok (report, new), run.2) ∧ run' = (.ok (report, new'), run.2) ∧
        new'.compiled = new.compiled := by
  intro file past run run'
  have hv : file.suffix = ".vue" := by decide
  have houtcome : run.1.toOption.map (·.1.outcome) = some .compiled := by decide +kernel
  refine ⟨hv, houtcome, ?_⟩
  rcases hrun : run with ⟨f | ⟨report, new⟩, h'⟩
  · rw [hrun] at houtcome
    cases houtcome
  · rw [hrun] at houtcome
    obtain ⟨new', hrun', -, id, d, texts, hgives, hcode, hkept⟩ :=
      compileFile_forgets withoutServerScript file past [] hv hrun (Option.some.inj houtcome)
    refine ⟨report, new, new', rfl, hrun', hcode fun hempty => ?_⟩
    obtain ⟨-, -, htyped, -⟩ := hkept hempty
    cases hgives with
    | intro hid hparse =>
      cases hparse
      exact absurd htyped (by decide)

/-- A typed script without any text, and a type stripper that takes the line ends away. -/
def withEmptyScript : Compiler :=
  let services : ToolchainScript :=
    { parse := .ok { descriptor := { filename := "", script := some { lang := some "ts" } } }
      script := fun _ => .ok { content := "" }
      template := fun _ => .ok { code := "" }
      strip := { replacing := some ("\n", "") }
      ids := { fixed := some "a1" } }
  { toolchain := services.toolchain }

/-- The compile of an empty script leaves the modules of the compile before it. -/
theorem compileFile_remembers_withEmptyScript :
    let file : VirtualFile := ⟨"App.vue", "<script>", {}⟩
    let past : Artifact := ⟨"old client", "old server", "old style"⟩
    let run := (withEmptyScript.compileFile file).run []
    let run' := (withEmptyScript.compileFile { file with compiled := past }).run []
    file.suffix = ".vue" ∧ run.1.toOption.map (·.1.outcome) = some .compiled ∧
      run'.1.toOption.map (·.1.outcome) = some .compiled ∧
      (file.after run.1).compiled = ⟨"", "", noStyles⟩ ∧
      (VirtualFile.after { file with compiled := past } run'.1).compiled =
        ⟨"old client", "old server", noStyles⟩ := by
  decide +kernel

end Compiler

end Playground
