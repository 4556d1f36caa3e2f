import Mathlib.Tactic.SplitIfs
import Playground.Compile.Compiler
import Playground.Proofs.Compile.Contained

namespace Playground

namespace FileKind

theorem ofSuffix_eq_component_iff {suffix : String} :
    ofSuffix suffix = .component ↔ suffix = ".vue" := by
  unfold ofSuffix
  split_ifs with hc hs hv <;> simp_all
  rcases hs with hs | hs <;> simp [hs]

theorem ofSuffix_eq_script_iff {suffix : String} :
    ofSuffix suffix = .script ↔ suffix = ".js" ∨ suffix = ".ts" := by
  unfold ofSuffix
  split_ifs with hc hs hv <;> simp_all

theorem ofSuffix_eq_style_iff {suffix : String} : ofSuffix suffix = .style ↔ suffix = ".css" := by
  unfold ofSuffix
  split_ifs with hc hs hv <;> simp_all

end FileKind

namespace Compiler

variable (c : Compiler) (file : VirtualFile) (h : List Call)

theorem compileFile_of_blank (hb : Text.allBlank file.code = true) :
    (c.compileFile file).run h = (.ok (⟨file.filename, .skipped, [], []⟩, file), h) := by
  simp only [compileFile, hb]
  rfl

theorem compileFile_of_inert (hb : Text.allBlank file.code = false) (hk : file.kind = .inert) :
    (c.compileFile file).run h = (.ok (⟨file.filename, .skipped, [], []⟩, file), h) := by
  simp only [compileFile, hb, hk]
  rfl

theorem compileFile_of_style (hb : Text.allBlank file.code = false) (hk : file.kind = .style) :
    (c.compileFile file).run h = (.ok (⟨file.filename, .compiled, [], []⟩,
      { file with compiled := { file.compiled with css := file.code } }), h) := by
  simp only [compileFile, hb, hk]
  rfl

theorem compileFile_of_script (hb : Text.allBlank file.code = false) (hk : file.kind = .script) :
    (c.compileFile file).run h =
      match (c.scriptFile file).run.run h with
      | (.error f, h') => (.ok (aborted file [f.awaited.trace]), h')
      | (.ok code, h') => (.ok (⟨file.filename, .compiled, [], []⟩,
          { file with compiled := { file.compiled with js := code, ssr := code } }), h') := by
  simp only [compileFile, compileScriptFile, hb, hk, Bool.false_eq_true, if_false,
    session_bind]
  rcases (c.scriptFile file).run.run h with ⟨_ | _, h'⟩ <;> rfl

/-- A component asks for its scope id first; all that its stages do is asked after that. -/
theorem compileFile_of_component (hb : Text.allBlank file.code = false)
    (hk : file.kind = .component) :
    (c.compileFile file).run h =
      match c.toolchain.respond h (.scopeId file.filename) with
      | .error f => (.error f.awaited, h ++ [.scopeId file.filename])
      | .ok scope =>
        match (c.stages scope file.filename file.code).run.run
            (h ++ [.scopeId file.filename]) with
        | (.error (.raised f), h') => (.error f.awaited, h')
        | (.error (.reported errors), h') => (.ok (aborted file errors), h')
        | (.ok (builds, sheet), h') =>
          (.ok (⟨file.filename, .compiled, sheet.errors, builds.warnings⟩,
            { file with compiled :=
              { assemble file.filename builds file.compiled with css := sheet.css } }), h') := by
  have hid : (Pipeline.demand c.toolchain (.scopeId file.filename)).run.run h =
      ((c.toolchain.respond h (.scopeId file.filename)).mapError .raised,
        h ++ [.scopeId file.filename]) := by
    rw [Pipeline.demand, run_adapt, run_demand]
  simp only [compileFile, compileComponent, hb, hk, Bool.false_eq_true, if_false, session_bind,
    component, run_bind, hid]
  cases c.toolchain.respond h (.scopeId file.filename) with
  | error f => rfl
  | ok scope =>
    simp only [Except.mapError]
    rcases hx : (c.stages scope file.filename file.code).run.run (h ++ [.scopeId file.filename])
      with ⟨(_ | _) | _, h'⟩
    all_goals
      simp only [hx]
      rfl

/-- A component that ends compiled has come through all its stages. -/
theorem stages_of_compiled {report : Report} {file' : VirtualFile} {h' : List Call}
    (hv : file.suffix = ".vue") (hrun : (c.compileFile file).run h = (.ok (report, file'), h'))
    (hcompiled : report.outcome = .compiled) :
    ∃ id builds sheet, Text.allBlank file.code = false ∧
      c.toolchain.respond h (.scopeId file.filename) = .ok id ∧
      (c.stages id file.filename file.code).run.run (h ++ [.scopeId file.filename]) =
        (.ok (builds, sheet), h') ∧
      report = ⟨file.filename, .compiled, sheet.errors, builds.warnings⟩ ∧
      file' = { file with compiled :=
        { assemble file.filename builds file.compiled with css := sheet.css } } := by
  by_cases hb : Text.allBlank file.code = true
  · rw [c.compileFile_of_blank file h hb] at hrun
    cases hrun
    cases hcompiled
  rw [Bool.not_eq_true] at hb
  rw [c.compileFile_of_component file h hb (FileKind.ofSuffix_eq_component_iff.2 hv)] at hrun
  cases hid : c.toolchain.respond h (.scopeId file.filename) with
  | error f =>
    rw [hid] at hrun
    cases hrun
  | ok id =>
    rw [hid] at hrun
    rcases (c.contained_stages id file.filename file.code).ends (h ++ [.scopeId file.filename])
      with ⟨errors, h₁, hx⟩ | ⟨⟨builds, sheet⟩, h₁, hx⟩
    · simp only [hx] at hrun
      cases hrun
      cases hcompiled
    · simp only [hx] at hrun
      cases hrun
      exact ⟨id, builds, sheet, hb, rfl, hx, rfl, rfl⟩

/-- A compile that returns hands the file back under its name and with its code. -/
theorem compileFile_keeps_source {report : Report} {file' : VirtualFile} {h' : List Call}
    (hr : (c.compileFile file).run h = (.ok (report, file'), h')) :
    file'.filename = file.filename ∧ file'.code = file.code := by
  by_cases hb : Text.allBlank file.code = true
  · rw [c.compileFile_of_blank file h hb] at hr
    cases hr
    exact ⟨rfl, rfl⟩
  rw [Bool.not_eq_true] at hb
  cases hk : file.kind with
  | inert =>
    rw [c.compileFile_of_inert file h hb hk] at hr
    cases hr
    exact ⟨rfl, rfl⟩
  | style =>
    rw [c.compileFile_of_style file h hb hk] at hr
    cases hr
    exact ⟨rfl, rfl⟩
  | script =>
    rw [c.compileFile_of_script file h hb hk] at hr
    rcases hx : (c.scriptFile file).run.run h with ⟨f | text, h''⟩
    · rw [hx] at hr
      cases hr
      exact ⟨rfl, rfl⟩
    · rw [hx] at hr
      cases hr
      exact ⟨rfl, rfl⟩
  | component =>
    rw [c.compileFile_of_component file h hb hk] at hr
    cases hs : c.toolchain.respond h (.scopeId file.filename) with
    | error f =>
      rw [hs] at hr
      cases hr
    | ok scope =>
      rw [hs] at hr
      rcases (c.contained_stages scope file.filename file.code).ends
        (h ++ [.scopeId file.filename]) with ⟨errors, h'', hx⟩ | ⟨⟨builds, sheet⟩, h'', hx⟩
      · simp only [hx] at hr
        cases hr
        exact ⟨rfl, rfl⟩
      · simp only [hx] at hr
        cases hr
        exact ⟨rfl, rfl⟩

end Compiler

end Playground
