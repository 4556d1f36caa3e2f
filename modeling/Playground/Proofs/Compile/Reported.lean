import Playground.Proofs.Compile.Outcome
import Playground.Proofs.Compile.Requests

namespace Playground

/-- The errors and warnings of a report go with what the compile of the file did. -/
structure Report.Fits (report : Report) (file : VirtualFile) : Prop where
  ok_iff : report.ok = true ↔ report.errors = []
  aborted : report.outcome = .aborted → report.errors ≠ []
  skipped : report.outcome = .skipped → report.errors = [] ∧ report.warnings = []
  degraded : report.warnings ≠ [] → report.outcome = .compiled ∧ file.suffix = ".vue"

theorem Report.ok_iff_of_aborted {report : Report}
    (haborted : report.outcome = .aborted → report.errors ≠ []) :
    report.ok = true ↔ report.errors = [] := by
  have hok : report.ok = true ↔ report.outcome ≠ .aborted ∧ report.errors = [] := by
    simp [Report.ok]
  rw [hok]
  exact and_iff_right_of_imp fun hnone he => haborted he hnone

/-- Some scope id that was asked for was refused: the services, asked for it after the calls before
it, raise. -/
def Toolchain.RefusedIn (t : Toolchain) (history : List Call) : Prop :=
  ∃ before name f, before ++ [.scopeId name] <+: history ∧
    t.respond before (.scopeId name) = .error f

namespace Toolchain

variable {t : Toolchain} {h : List Call}

theorem not_refusedIn_nil (t : Toolchain) : ¬ t.RefusedIn [] := by
  rintro ⟨before, name, f, hstart, -⟩
  exact List.append_ne_nil_of_right_ne_nil before (List.cons_ne_nil _ _)
    (List.prefix_nil.1 hstart)

theorem refusedIn_concat (call : Call) : t.RefusedIn (h ++ [call]) ↔
    t.RefusedIn h ∨ ∃ name f, call = .scopeId name ∧ t.respond h (.scopeId name) = .error f := by
  constructor
  · rintro ⟨before, name, f, hstart, hf⟩
    rcases List.prefix_concat_iff.1 hstart with heq | hearlier
    · obtain ⟨rfl, hcall⟩ := List.append_inj' heq rfl
      exact .inr ⟨name, f, (List.singleton_inj.1 hcall).symm, hf⟩
    · exact .inl ⟨before, name, f, hearlier, hf⟩
  · rintro (⟨before, name, f, hstart, hf⟩ | ⟨name, f, rfl, hf⟩)
    · exact ⟨before, name, f, hstart.trans (List.prefix_append _ _), hf⟩
    · exact ⟨h, name, f, List.prefix_rfl, hf⟩

/-- Calls that ask for no scope id have none refused. -/
theorem refusedIn_append {id : String} {calls : List Call}
    (hcalls : ∀ call ∈ calls, call.Carries id) :
    t.RefusedIn (h ++ calls) ↔ t.RefusedIn h := by
  induction calls generalizing h with
  | nil => rw [List.append_nil]
  | cons call calls ih =>
    obtain ⟨hcall, hcalls⟩ := List.forall_mem_cons.1 hcalls
    rw [← List.singleton_append, ← List.append_assoc, ih hcalls, refusedIn_concat]
    refine or_iff_left ?_
    rintro ⟨name, f, rfl, -⟩
    exact hcall

theorem refusedIn_run (t : Toolchain) {id : String} {α : Type} {x : Session α}
    (hx : AsksFor id x) (h : List Call) : t.RefusedIn (x.run h).2 ↔ t.RefusedIn h := by
  obtain ⟨calls, hhistory, hcalls⟩ := hx h
  rw [hhistory, refusedIn_append hcalls]

end Toolchain

namespace Compiler

variable {c : Compiler} {file file' : VirtualFile} {h h' : List Call} {report : Report}

/-- Every compile that returns reports what it did. -/
theorem fits_of_compileFile (hrun : (c.compileFile file).run h = (.ok (report, file'), h')) :
    report.Fits file := by
  have haborted := (reports_of_compileFile hrun).2
  suffices hrest : (report.outcome = .skipped → report.errors = [] ∧ report.warnings = []) ∧
      (report.warnings ≠ [] → report.outcome = .compiled ∧ file.suffix = ".vue") from
    ⟨Report.ok_iff_of_aborted haborted, haborted, hrest.1, hrest.2⟩
  by_cases hb : Text.allBlank file.code = true
  · rw [c.compileFile_of_blank file h hb] at hrun
    cases hrun
    simp
  rw [Bool.not_eq_true] at hb
  cases hk : file.kind with
  | inert =>
    rw [c.compileFile_of_inert file h hb hk] at hrun
    cases hrun
    simp
  | style =>
    rw [c.compileFile_of_style file h hb hk] at hrun
    cases hrun
    simp
  | script =>
    rw [c.compileFile_of_script file h hb hk] at hrun
    rcases hx : (c.scriptFile file).run.run h with ⟨f | text, h₁⟩
    · rw [hx] at hrun
      cases hrun
      simp
    · rw [hx] at hrun
      cases hrun
      simp
  | component =>
    have hv : file.suffix = ".vue" := FileKind.ofSuffix_eq_component_iff.1 hk
    rcases c.gives_of_component file.filename file.code h hb hk with
      ⟨f, h₁, hgives⟩ | ⟨errors, h₁, hgives⟩ | ⟨builds, sheet, h₁, hgives⟩
    · have hr := hrun.symm.trans (hgives file.compiled)
      cases hr
    · have hr := hrun.symm.trans (hgives file.compiled)
      cases hr
      simp
    · have hr := hrun.symm.trans (hgives file.compiled)
      cases hr
      simp [hv]

/-- A compile raises exactly when the scope id that it asks for is refused: it asks for no other. -/
theorem refusedIn_compileFile (c : Compiler) (file : VirtualFile) (h : List Call) :
    c.toolchain.RefusedIn ((c.compileFile file).run h).2 ↔
      c.toolchain.RefusedIn h ∨ ∃ f, ((c.compileFile file).run h).1 = .error f := by
  have hasks := composes_asksFor c.toolchain
  by_cases hb : Text.allBlank file.code = true
  · rw [c.compileFile_of_blank file h hb]
    simp
  rw [Bool.not_eq_true] at hb
  cases hk : file.kind with
  | inert =>
    rw [c.compileFile_of_inert file h hb hk]
    simp
  | style =>
    rw [c.compileFile_of_style file h hb hk]
    simp
  | script =>
    have hscript := c.toolchain.refusedIn_run ((hasks file.filename).scriptFile file) h
    rw [c.compileFile_of_script file h hb hk]
    rcases hx : (c.scriptFile file).run.run h with ⟨f | text, h₁⟩
    · rw [hx] at hscript
      simpa using hscript
    · rw [hx] at hscript
      simpa using hscript
  | component =>
    rw [c.compileFile_of_component file h hb hk]
    have hscope := Toolchain.refusedIn_concat (t := c.toolchain) (h := h) (.scopeId file.filename)
    cases hs : c.toolchain.respond h (.scopeId file.filename) with
    | error f => simpa [hs] using hscope
    | ok scope =>
      have hpassed : c.toolchain.RefusedIn (h ++ [.scopeId file.filename]) ↔
          c.toolchain.RefusedIn h := by simpa [hs] using hscope
      have hstages := c.toolchain.refusedIn_run ((hasks scope).stages file.filename file.code)
        (h ++ [.scopeId file.filename])
      rcases (c.contained_stages scope file.filename file.code).ends (h ++ [.scopeId file.filename])
        with ⟨errors, h₁, hx⟩ | ⟨⟨builds, sheet⟩, h₁, hx⟩
      · rw [hx] at hstages
        simpa [hx] using hstages.trans hpassed
      · rw [hx] at hstages
        simpa [hx] using hstages.trans hpassed

end Compiler

end Playground
