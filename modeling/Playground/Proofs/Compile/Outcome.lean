import Playground.Proofs.Compile.Precedence
import Playground.Toolchain.Miniature

namespace Playground

/-- What a compile writes into an artifact, slot by slot. -/
structure Writes where
  js : Option String := none
  ssr : Option String := none
  css : Option String := none
  deriving DecidableEq, Repr

namespace Writes

def onto (w : Writes) (old : Artifact) : Artifact :=
  ⟨w.js.getD old.js, w.ssr.getD old.ssr, w.css.getD old.css⟩

/-- The slots that a compile may write, by the suffix of the file and by how the compile ends. -/
def Fits (w : Writes) (file : VirtualFile) : Except Failure Report → Prop
  | .ok ⟨_, .compiled, _, _⟩ =>
    (file.suffix = ".css" ∧ w = { css := some file.code }) ∨
    ((file.suffix = ".js" ∨ file.suffix = ".ts") ∧
      ∃ text, w = { js := some text, ssr := some text }) ∨
    (file.suffix = ".vue" ∧ w.css.isSome ∧ (w.js.isSome ↔ w.ssr.isSome))
  | _ => w = {}

end Writes

/-- The file as a compile leaves it. One that raises hands no new file back. -/
def VirtualFile.after (file : VirtualFile) : Except Failure (Report × VirtualFile) → VirtualFile
  | .ok (_, file') => file'
  | .error _ => file

namespace Compiler

/-- The modules of a component are written together, or neither of them is. -/
def componentWrites (filename : String) (builds : Builds) (css : String) : Writes :=
  let final := builds.addBoth (exportTail filename)
  if builds.client.hasCode || builds.ssr.hasCode then
    { js := some (Import.anchor filename (Text.stripStart final.client.code))
      ssr := some (Text.stripStart final.ssr.code)
      css := some css }
  else { css := some css }

theorem assemble_eq_onto (filename : String) (builds : Builds) (css : String) (old : Artifact) :
    { assemble filename builds old with css := css } =
      (componentWrites filename builds css).onto old := by
  unfold assemble componentWrites
  split <;> rfl

theorem componentWrites_fits (file : VirtualFile) (hv : file.suffix = ".vue") (builds : Builds)
    (css : String) (errors warnings : List String) :
    (componentWrites file.filename builds css).Fits file
      (.ok ⟨file.filename, .compiled, errors, warnings⟩) := by
  refine .inr (.inr ⟨hv, ?_⟩)
  unfold componentWrites
  split <;> simp

/-- What a compile of a file with the name and the code gives, whatever artifact the file has. -/
def Gives (c : Compiler) (filename code : String) (h : List Call) (result : Except Failure Report)
    (w : Writes) (h' : List Call) : Prop :=
  ∀ old : Artifact, (c.compileFile ⟨filename, code, old⟩).run h =
    (result.map fun report => (report, ⟨filename, code, w.onto old⟩), h')

theorem gives_of_script (c : Compiler) (filename code : String) (h : List Call)
    (hb : Text.allBlank code = false) (hk : FileKind.ofSuffix (Path.suffix filename) = .script) :
    (∃ f h', c.Gives filename code h (.ok ⟨filename, .aborted, [Failure.trace f], []⟩) {} h') ∨
      ∃ text h', c.Gives filename code h (.ok ⟨filename, .compiled, [], []⟩)
        { js := some text, ssr := some text } h' := by
  rcases hx : (c.scriptFile ⟨filename, code, {}⟩).run.run h with ⟨f | text, h'⟩
  · refine .inl ⟨f.awaited, h', fun old => ?_⟩
    have hx' : (c.scriptFile ⟨filename, code, old⟩).run.run h = (.error f, h') := hx
    rw [c.compileFile_of_script ⟨filename, code, old⟩ h hb hk, hx']
    rfl
  · refine .inr ⟨text, h', fun old => ?_⟩
    have hx' : (c.scriptFile ⟨filename, code, old⟩).run.run h = (.ok text, h') := hx
    rw [c.compileFile_of_script ⟨filename, code, old⟩ h hb hk, hx']
    rfl

theorem gives_of_component (c : Compiler) (filename code : String) (h : List Call)
    (hb : Text.allBlank code = false) (hk : FileKind.ofSuffix (Path.suffix filename) = .component) :
    (∃ f h', c.Gives filename code h (.error f) {} h') ∨
      (∃ errors h', c.Gives filename code h (.ok ⟨filename, .aborted, errors, []⟩) {} h') ∨
      ∃ builds sheet h', c.Gives filename code h
        (.ok ⟨filename, .compiled, StyleSheet.errors sheet, Builds.warnings builds⟩)
        (componentWrites filename builds sheet.css) h' := by
  have hrun (old : Artifact) := c.compileFile_of_component ⟨filename, code, old⟩ h hb hk
  cases hs : c.toolchain.respond h (.scopeId filename) with
  | error f =>
    simp only [hs] at hrun
    exact .inl ⟨f.awaited, _, hrun⟩
  | ok scope =>
    rcases (c.contained_stages scope filename code).ends (h ++ [.scopeId filename])
      with ⟨errors, h', hx⟩ | ⟨⟨builds, sheet⟩, h', hx⟩
    · simp only [hs, hx] at hrun
      exact .inr (.inl ⟨errors, h', hrun⟩)
    · simp only [hs, hx, assemble_eq_onto] at hrun
      exact .inr (.inr ⟨builds, sheet, h', hrun⟩)

/-- A compile writes an artifact all at once: the texts it writes do not depend on what the artifact
held, and unless it ends compiled it writes none. The name and the code of the file stay. -/
theorem compileFile_writes (c : Compiler) (filename code : String) (h : List Call) :
    ∃ (result : Except Failure Report) (w : Writes), ∀ old : Artifact,
      let file : VirtualFile := ⟨filename, code, old⟩
      let run := (c.compileFile file).run h
      run.1.map (·.1) = result ∧ w.Fits file result ∧
        file.after run.1 = ⟨filename, code, w.onto old⟩ := by
  suffices hg : ∃ result w h', c.Gives filename code h result w h' ∧
      w.Fits ⟨filename, code, {}⟩ result by
    obtain ⟨result, w, h', hrun, hfits⟩ := hg
    refine ⟨result, w, fun old => ?_⟩
    simp only [hrun old]
    cases result with
    | error f => exact ⟨rfl, hfits, by rw [show w = {} from hfits]; rfl⟩
    | ok report => exact ⟨rfl, hfits, rfl⟩
  by_cases hb : Text.allBlank code = true
  · exact ⟨.ok ⟨filename, .skipped, [], []⟩, {}, h,
      fun old => c.compileFile_of_blank ⟨filename, code, old⟩ h hb, rfl⟩
  rw [Bool.not_eq_true] at hb
  cases hk : FileKind.ofSuffix (Path.suffix filename) with
  | inert =>
    exact ⟨.ok ⟨filename, .skipped, [], []⟩, {}, h,
      fun old => c.compileFile_of_inert ⟨filename, code, old⟩ h hb hk, rfl⟩
  | style =>
    exact ⟨.ok ⟨filename, .compiled, [], []⟩, { css := some code }, h,
      fun old => c.compileFile_of_style ⟨filename, code, old⟩ h hb hk,
      .inl ⟨FileKind.ofSuffix_eq_style_iff.1 hk, rfl⟩⟩
  | script =>
    rcases c.gives_of_script filename code h hb hk with ⟨f, h', hg⟩ | ⟨text, h', hg⟩
    · exact ⟨_, _, h', hg, rfl⟩
    · exact ⟨_, _, h', hg, .inr (.inl ⟨FileKind.ofSuffix_eq_script_iff.1 hk, text, rfl⟩)⟩
  | component =>
    rcases c.gives_of_component filename code h hb hk with
      ⟨f, h', hg⟩ | ⟨errors, h', hg⟩ | ⟨builds, sheet, h', hg⟩
    · exact ⟨_, _, h', hg, rfl⟩
    · exact ⟨_, _, h', hg, rfl⟩
    · have hv := FileKind.ofSuffix_eq_component_iff.1 hk
      exact ⟨_, _, h', hg, componentWrites_fits ⟨filename, code, {}⟩ hv builds _ _ _⟩

theorem map_toList_ne (fault : Option StageErrors) :
    fault.map StageErrors.toList ≠ some [] := by
  cases fault <;> simp [StageErrors.toList]

/-- No objection goes without a text. -/
theorem objection_ne_empty {c : Compiler} {scope filename code : String} {h : List Call}
    {o : Option (List String)} (ho : o ∈ c.objections scope filename code h) : o ≠ some [] := by
  have later {answer : Option Parsed} {f : Descriptor → Option (List String)}
      (hf : ∀ d, f d ≠ some []) : answer.bind (fun parsed => f parsed.descriptor) ≠ some [] := by
    cases answer with
    | none => simp
    | some parsed => exact hf parsed.descriptor
  simp only [objections, List.mem_cons, List.not_mem_nil, or_false] at ho
  rcases ho with rfl | rfl | rfl | rfl | rfl | rfl | rfl
  · cases c.toolchain.respond h (.parse code filename true) <;> simp [Objection.parserRaised]
  · cases c.toolchain.respond h (.parse code filename true) with
    | error f => simp [Objection.parserReported]
    | ok parsed => simp [Objection.parserReported]
  · refine later fun d => ?_
    simp [Objection.preprocessor]
  · refine later fun d => ?_
    simp [Objection.scriptLanguage]
  · exact later fun d => map_toList_ne _
  · refine later fun d => ?_
    unfold Objection.clientTemplate
    split
    · split_ifs
      · exact map_toList_ne _
      · simp
    · simp
  · refine later fun d => ?_
    simp [Objection.styleModule]

theorem stages_errors_ne_nil {c : Compiler} {scope filename code : String} {h h' : List Call}
    {errors : List String}
    (hx : (c.stages scope filename code).run.run h = (.error (.reported errors), h')) :
    errors ≠ [] := by
  have hf : fault? (c.stages scope filename code) h = some errors := (fault?_of_run hx).1
  rw [fault?_stages] at hf
  obtain ⟨o, ho, rfl⟩ := List.exists_of_findSome?_eq_some hf
  exact fun he => objection_ne_empty ho (congrArg some he)

/-- The scope id of a component with code is refused, and the failure comes through a wait. -/
def Refused (c : Compiler) (file : VirtualFile) (h : List Call) (f : Failure) : Prop :=
  Text.allBlank file.code = false ∧ file.suffix = ".vue" ∧
    ∃ g, c.toolchain.respond h (.scopeId file.filename) = .error g ∧ g.awaited = f

theorem not_refused_of_kind {c : Compiler} {file : VirtualFile} {h : List Call}
    (hk : file.kind ≠ .component) (f : Failure) : ¬ c.Refused file h f :=
  fun hf => hk (FileKind.ofSuffix_eq_component_iff.2 hf.2.1)

/-- A report names its file, and one of an abort shows an error. -/
def Reports (file : VirtualFile) (report : Report) : Prop :=
  report.filename = file.filename ∧ (report.outcome = .aborted → report.errors ≠ [])

theorem compileFile_raises_or_reports (c : Compiler) (file : VirtualFile) (h : List Call) :
    (∃ f, c.Refused file h f ∧
      (c.compileFile file).run h = (.error f, h ++ [.scopeId file.filename])) ∨
    ((∀ f, ¬ c.Refused file h f) ∧ ∃ report file' h',
      (c.compileFile file).run h = (.ok (report, file'), h') ∧ Reports file report) := by
  by_cases hb : Text.allBlank file.code = true
  · refine .inr ⟨fun f hf => ?_, _, _, _, c.compileFile_of_blank file h hb, rfl, by simp⟩
    exact absurd hb (by simp [hf.1])
  rw [Bool.not_eq_true] at hb
  cases hk : file.kind with
  | inert =>
    exact .inr ⟨not_refused_of_kind (by simp [hk]), _, _, _, c.compileFile_of_inert file h hb hk,
      rfl, by simp⟩
  | style =>
    exact .inr ⟨not_refused_of_kind (by simp [hk]), _, _, _, c.compileFile_of_style file h hb hk,
      rfl, by simp⟩
  | script =>
    refine .inr ⟨not_refused_of_kind (by simp [hk]), ?_⟩
    rw [c.compileFile_of_script file h hb hk]
    rcases (c.scriptFile file).run.run h with ⟨f | text, h'⟩
    · exact ⟨_, _, h', rfl, rfl, by simp⟩
    · exact ⟨_, _, h', rfl, rfl, by simp⟩
  | component =>
    rw [c.compileFile_of_component file h hb hk]
    have hv := FileKind.ofSuffix_eq_component_iff.1 hk
    cases hs : c.toolchain.respond h (.scopeId file.filename) with
    | error g => exact .inl ⟨g.awaited, ⟨hb, hv, g, hs, rfl⟩, rfl⟩
    | ok scope =>
      refine .inr ⟨fun f hf => ?_, ?_⟩
      · obtain ⟨g, hg, _⟩ := hf.2.2
        simp [hs] at hg
      · rcases (c.contained_stages scope file.filename file.code).ends
          (h ++ [.scopeId file.filename]) with ⟨errors, h', hx⟩ | ⟨⟨builds, sheet⟩, h', hx⟩
        · simp only [hx]
          exact ⟨_, _, h', rfl, rfl, fun _ => stages_errors_ne_nil hx⟩
        · simp only [hx]
          exact ⟨_, _, h', rfl, rfl, by simp⟩

theorem reports_of_compileFile {c : Compiler} {file file' : VirtualFile} {h h' : List Call}
    {report : Report} (hrun : (c.compileFile file).run h = (.ok (report, file'), h')) :
    Reports file report := by
  rcases c.compileFile_raises_or_reports file h with ⟨f, -, hr⟩ | ⟨-, _, _, _, hr, hreport⟩
  · rw [hrun] at hr
    cases hr
  · rw [hrun] at hr
    cases hr
    exact hreport

end Compiler

end Playground
