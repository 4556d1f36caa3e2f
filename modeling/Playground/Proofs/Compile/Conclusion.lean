import Playground.Proofs.Compile.Outcome
import Playground.Proofs.Compile.PureServices

namespace Playground

theorem eq_of_getD_eq {a b : Option String} (h : ∀ old, a.getD old = b.getD old) : a = b := by
  cases a with
  | none =>
    cases b with
    | none => rfl
    | some y => simpa using h (y ++ "x")
  | some x =>
    cases b with
    | none => simpa using (h (x ++ "x")).symm
    | some y => exact congrArg some (h "")

/-- Writes that leave the same of every artifact are the same. -/
theorem Writes.eq_of_onto_eq {w w' : Writes} (h : ∀ old, w.onto old = w'.onto old) : w = w' := by
  obtain ⟨js, ssr, css⟩ := w
  obtain ⟨js', ssr', css'⟩ := w'
  have hjs : js = js' := eq_of_getD_eq fun old => congrArg Artifact.js (h ⟨old, "", ""⟩)
  have hssr : ssr = ssr' := eq_of_getD_eq fun old => congrArg Artifact.ssr (h ⟨"", old, ""⟩)
  have hcss : css = css' := eq_of_getD_eq fun old => congrArg Artifact.css (h ⟨"", "", old⟩)
  rw [hjs, hssr, hcss]

theorem Writes.onto_onto (w : Writes) (old : Artifact) : w.onto (w.onto old) = w.onto old := by
  obtain ⟨js, ssr, css⟩ := w
  cases js <;> cases ssr <;> cases css <;> rfl

namespace Compiler

/-- How a compile of a file with a name and a code comes to its end from a history on: what it
reports or raises, what it writes, and the history that it leaves. The old artifact has no part in
it. -/
inductive Concludes (c : Compiler) (filename code : String) (h : List Call) :
    Except Failure Report → Writes → List Call → Prop
  | skipped (hskip : Text.allBlank code = true ∨
        FileKind.ofSuffix (Path.suffix filename) = .inert) :
      Concludes c filename code h (.ok ⟨filename, .skipped, [], []⟩) {} h
  | style (hb : Text.allBlank code = false)
      (hk : FileKind.ofSuffix (Path.suffix filename) = .style) :
      Concludes c filename code h (.ok ⟨filename, .compiled, [], []⟩) { css := some code } h
  | scriptFailed {f : Failure} {h' : List Call} (hb : Text.allBlank code = false)
      (hk : FileKind.ofSuffix (Path.suffix filename) = .script)
      (hrun : (c.scriptFile ⟨filename, code, {}⟩).run.run h = (.error f, h')) :
      Concludes c filename code h (.ok ⟨filename, .aborted, [f.awaited.trace], []⟩) {} h'
  | script {text : String} {h' : List Call} (hb : Text.allBlank code = false)
      (hk : FileKind.ofSuffix (Path.suffix filename) = .script)
      (hrun : (c.scriptFile ⟨filename, code, {}⟩).run.run h = (.ok text, h')) :
      Concludes c filename code h (.ok ⟨filename, .compiled, [], []⟩)
        { js := some text, ssr := some text } h'
  | refused {f : Failure} (hb : Text.allBlank code = false)
      (hk : FileKind.ofSuffix (Path.suffix filename) = .component)
      (hid : c.toolchain.respond h (.scopeId filename) = .error f) :
      Concludes c filename code h (.error f.awaited) {} (h ++ [.scopeId filename])
  | aborted {id : String} {errors : List String} {h' : List Call}
      (hb : Text.allBlank code = false)
      (hk : FileKind.ofSuffix (Path.suffix filename) = .component)
      (hid : c.toolchain.respond h (.scopeId filename) = .ok id)
      (hrun : (c.stages id filename code).run.run (h ++ [.scopeId filename]) =
        (.error (.reported errors), h')) :
      Concludes c filename code h (.ok ⟨filename, .aborted, errors, []⟩) {} h'
  | component {id : String} {builds : Builds} {sheet : StyleSheet} {h' : List Call}
      (hb : Text.allBlank code = false)
      (hk : FileKind.ofSuffix (Path.suffix filename) = .component)
      (hid : c.toolchain.respond h (.scopeId filename) = .ok id)
      (hrun : (c.stages id filename code).run.run (h ++ [.scopeId filename]) =
        (.ok (builds, sheet), h')) :
      Concludes c filename code h (.ok ⟨filename, .compiled, sheet.errors, builds.warnings⟩)
        (componentWrites filename builds sheet.css) h'

section

variable {c : Compiler} {filename code : String} {h h' : List Call}
  {result : Except Failure Report} {report : Report} {w : Writes}

theorem Concludes.gives (hc : c.Concludes filename code h result w h') :
    c.Gives filename code h result w h' := by
  intro old
  cases hc with
  | skipped hskip =>
    cases hb : Text.allBlank code with
    | true => exact c.compileFile_of_blank ⟨filename, code, old⟩ h hb
    | false =>
      have hk := hskip.resolve_left (by simp [hb])
      exact c.compileFile_of_inert ⟨filename, code, old⟩ h hb hk
  | style hb hk => exact c.compileFile_of_style ⟨filename, code, old⟩ h hb hk
  | scriptFailed hb hk hrun =>
    have hrun' : (c.scriptFile ⟨filename, code, old⟩).run.run h = _ := hrun
    rw [c.compileFile_of_script ⟨filename, code, old⟩ h hb hk, hrun']
    rfl
  | script hb hk hrun =>
    have hrun' : (c.scriptFile ⟨filename, code, old⟩).run.run h = _ := hrun
    rw [c.compileFile_of_script ⟨filename, code, old⟩ h hb hk, hrun']
    rfl
  | refused hb hk hid =>
    rw [c.compileFile_of_component ⟨filename, code, old⟩ h hb hk]
    simp only [hid]
    rfl
  | aborted hb hk hid hrun =>
    rw [c.compileFile_of_component ⟨filename, code, old⟩ h hb hk]
    simp only [hid, hrun]
    rfl
  | component hb hk hid hrun =>
    rw [c.compileFile_of_component ⟨filename, code, old⟩ h hb hk]
    simp only [hid, hrun, assemble_eq_onto]
    rfl

/-- A compile that returns a report has one report to return and one thing to write. -/
theorem Gives.unique {w' : Writes} {h'' : List Call}
    (hgives : c.Gives filename code h (.ok report) w h')
    (hgives' : c.Gives filename code h result w' h'') : result = .ok report ∧ w' = w := by
  cases result with
  | error f =>
    have hrun := (hgives' {}).symm.trans (hgives {})
    cases hrun
  | ok report' =>
    have hrun (old : Artifact) : report' = report ∧ w'.onto old = w.onto old := by
      obtain ⟨hresult, -⟩ := Prod.mk.inj ((hgives' old).symm.trans (hgives old))
      obtain ⟨hreport, hfile⟩ := Prod.mk.inj (Except.ok.inj hresult)
      exact ⟨hreport, congrArg VirtualFile.compiled hfile⟩
    exact ⟨congrArg Except.ok (hrun {}).1, Writes.eq_of_onto_eq fun old => (hrun old).2⟩

/-- A component that compiles has its styles written, whatever becomes of its modules. -/
theorem Concludes.css_isSome (hc : c.Concludes filename code h (.ok report) w h')
    (hv : Path.suffix filename = ".vue") (hcompiled : report.outcome = .compiled) :
    w.css.isSome = true := by
  have hk : FileKind.ofSuffix (Path.suffix filename) = .component :=
    FileKind.ofSuffix_eq_component_iff.2 hv
  cases hc with
  | skipped => cases hcompiled
  | style => rfl
  | scriptFailed => cases hcompiled
  | script _ hk' => exact absurd (hk.symm.trans hk') nofun
  | aborted => cases hcompiled
  | component =>
    unfold componentWrites
    split <;> rfl

variable (c filename code h) in
theorem exists_concludes : ∃ result w h', c.Concludes filename code h result w h' := by
  cases hb : Text.allBlank code with
  | true => exact ⟨_, _, _, .skipped (.inl hb)⟩
  | false =>
    cases hk : FileKind.ofSuffix (Path.suffix filename) with
    | inert => exact ⟨_, _, _, .skipped (.inr hk)⟩
    | style => exact ⟨_, _, _, .style hb hk⟩
    | script =>
      rcases hrun : (c.scriptFile ⟨filename, code, {}⟩).run.run h with ⟨f | text, h'⟩
      · exact ⟨_, _, _, .scriptFailed hb hk hrun⟩
      · exact ⟨_, _, _, .script hb hk hrun⟩
    | component =>
      cases hid : c.toolchain.respond h (.scopeId filename) with
      | error f => exact ⟨_, _, _, .refused hb hk hid⟩
      | ok id =>
        rcases (c.contained_stages id filename code).ends (h ++ [.scopeId filename])
          with ⟨errors, h', hrun⟩ | ⟨⟨builds, sheet⟩, h', hrun⟩
        · exact ⟨_, _, _, .aborted hb hk hid hrun⟩
        · exact ⟨_, _, _, .component hb hk hid hrun⟩

/-- With services that answer by the request alone, a compile comes to the same end after every
history. -/
theorem Concludes.of_isPure (hpure : c.toolchain.IsPure)
    (hc : c.Concludes filename code h result w h') (h₁ : List Call) :
    ∃ h₂, c.Concludes filename code h₁ result w h₂ := by
  cases hc with
  | skipped hskip => exact ⟨_, .skipped hskip⟩
  | style hb hk => exact ⟨_, .style hb hk⟩
  | scriptFailed hb hk hrun =>
    obtain ⟨h₂, hrun₂⟩ := ((hpure.composes "").scriptFile _).exists_run_eq hrun h₁
    exact ⟨h₂, .scriptFailed hb hk hrun₂⟩
  | script hb hk hrun =>
    obtain ⟨h₂, hrun₂⟩ := ((hpure.composes "").scriptFile _).exists_run_eq hrun h₁
    exact ⟨h₂, .script hb hk hrun₂⟩
  | refused hb hk hid => exact ⟨_, .refused hb hk ((hpure h₁ h _).trans hid)⟩
  | aborted hb hk hid hrun =>
    obtain ⟨h₂, hrun₂⟩ := ((hpure.composes _).stages filename code).exists_run_eq hrun
      (h₁ ++ [.scopeId filename])
    exact ⟨h₂, .aborted hb hk ((hpure h₁ h _).trans hid) hrun₂⟩
  | component hb hk hid hrun =>
    obtain ⟨h₂, hrun₂⟩ := ((hpure.composes _).stages filename code).exists_run_eq hrun
      (h₁ ++ [.scopeId filename])
    exact ⟨h₂, .component hb hk ((hpure h₁ h _).trans hid) hrun₂⟩

end

/-- Whatever was asked before, the compile of a file gives this report and leaves this file. -/
def Settles (c : Compiler) (file : VirtualFile) (report : Report) (file' : VirtualFile) : Prop :=
  ∀ h, ((c.compileFile file).run h).1 = .ok (report, file')

theorem Settles.unique {c : Compiler} {file file₁ file₂ : VirtualFile} {report₁ report₂ : Report}
    (h₁ : c.Settles file report₁ file₁) (h₂ : c.Settles file report₂ file₂) :
    report₁ = report₂ ∧ file₁ = file₂ := by
  have he := (h₁ []).symm.trans (h₂ [])
  cases he
  exact ⟨rfl, rfl⟩

/-- A second compile reports the same and has nothing left to write. -/
theorem exists_settles {c : Compiler} (hpure : c.toolchain.IsPure)
    (hnamed : ∀ h name f, c.toolchain.respond h (.scopeId name) ≠ .error f) (file : VirtualFile) :
    ∃ report file', c.Settles file report file' ∧ c.Settles file' report file' := by
  obtain ⟨filename, code, old⟩ := file
  obtain ⟨result, w, h', hc⟩ := c.exists_concludes filename code []
  obtain ⟨report, rfl⟩ : ∃ report, result = .ok report := by
    cases hc with
    | refused _ _ hid => exact absurd hid (hnamed _ _ _)
    | _ => exact ⟨_, rfl⟩
  have hsettles (old : Artifact) :
      c.Settles ⟨filename, code, old⟩ report ⟨filename, code, w.onto old⟩ := by
    intro h
    obtain ⟨h₂, hc₂⟩ := hc.of_isPure hpure h
    rw [hc₂.gives old]
    rfl
  refine ⟨report, ⟨filename, code, w.onto old⟩, hsettles old, ?_⟩
  have hagain := hsettles (w.onto old)
  rwa [Writes.onto_onto] at hagain

end Compiler

end Playground
