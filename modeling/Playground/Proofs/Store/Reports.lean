import Playground.Proofs.Compile.Reported
import Playground.Proofs.Store.RecordedErrors

namespace Playground.Store

variable {s s' : Store} {name : String}

theorem SameFor.errorsFor_eq (h : SameFor name s s') : s'.errorsFor name = s.errorsFor name :=
  congrArg (fun recorded => recorded.getD []) h.2

theorem compileEach_leaves {names : List String} (hname : name ∉ names) (s : Store) :
    SameFor name s (s.compileEach names).2 := by
  induction names generalizing s with
  | nil => exact .refl name s
  | cons first names ih =>
    obtain ⟨hne, hrest⟩ := not_or.1 (mt List.mem_cons.2 hname)
    have hfirst := SameFor.compile hne s
    unfold compileEach
    rcases hc : s.compile first with ⟨e | report, s₁⟩
    · rw [hc] at hfirst
      exact hfirst
    · rw [hc] at hfirst
      exact hfirst.trans (ih hrest s₁)

theorem ok_iff_of_compile {report : Report} (h : s.compile name = (.ok report, s')) :
    report.ok = true ↔ report.errors = [] := by
  obtain ⟨file, file', history, -, hrun, -⟩ := exists_run_of_compile h
  exact (Compiler.fits_of_compileFile hrun).ok_iff

/-- Files that are compiled one after the other are all reported without errors exactly when none is
recorded for any of them in the end. -/
theorem all_ok_iff_of_compileEach (hs : s.Coherent) {names : List String} (hdistinct : names.Nodup)
    {reports : List Report} (h : s.compileEach names = (.ok reports, s')) :
    (∀ report ∈ reports, report.ok = true) ↔ ∀ name ∈ names, s'.errorsFor name = [] := by
  induction names generalizing s reports with
  | nil =>
    cases h
    exact iff_of_true nofun nofun
  | cons name names ih =>
    obtain ⟨hname, hrest⟩ := List.nodup_cons.1 hdistinct
    obtain ⟨report, s₁, later, hc, hlater, rfl⟩ := compileEach_cons_eq_ok h
    obtain ⟨-, -, herrors⟩ := compile_eq_ok hs hc
    -- the compiles of the other files leave what is recorded for this one
    have hkept : s'.errorsFor name = report.errors := by
      have hsame := compileEach_leaves hname s₁
      rw [hlater] at hsame
      rw [hsame.errorsFor_eq, errorsFor, herrors, Assoc.get?_put, if_pos rfl, Option.getD_some]
    rw [List.forall_mem_cons, List.forall_mem_cons, hkept, ok_iff_of_compile hc,
      ih (hs.of_compile hc) hrest hlater]

/-- A compile of a file that is there raises exactly when a scope id is refused. -/
theorem refusedIn_compile (hname : name ∈ Assoc.keys s.files) :
    s.compiler.toolchain.RefusedIn (s.compile name).2.history ↔
      s.compiler.toolchain.RefusedIn s.history ∨ ∃ e, (s.compile name).1 = .error e := by
  obtain ⟨file, hfile⟩ := Option.isSome_iff_exists.1 (Assoc.has_iff.2 hname)
  have hcompile := s.compiler.refusedIn_compileFile file s.history
  unfold compile
  rw [get_eq_ok_iff.2 hfile]
  rcases hx : (s.compiler.compileFile file).run s.history with ⟨f | ⟨report, file'⟩, history⟩
  · rw [hx] at hcompile
    simpa [hx] using hcompile
  · rw [hx] at hcompile
    simpa [hx] using hcompile

theorem refusedIn_compileEach {names : List String}
    (hnames : ∀ name ∈ names, name ∈ Assoc.keys s.files) :
    s.compiler.toolchain.RefusedIn (s.compileEach names).2.history ↔
      s.compiler.toolchain.RefusedIn s.history ∨ ∃ e, (s.compileEach names).1 = .error e := by
  induction names generalizing s with
  | nil => simp [compileEach]
  | cons name names ih =>
    obtain ⟨hname, hnames⟩ := List.forall_mem_cons.1 hnames
    have hfirst := refusedIn_compile hname
    have hlater := ih (s := (s.compile name).2) fun other hother => by
      rw [s.keys_compile name]
      exact hnames other hother
    rw [s.compiler_compile name] at hlater
    rcases s.compileEach_cases name names with
      ⟨e, s₁, hc, hall⟩ | ⟨report, s₁, hc, ⟨e, s₂, hrest, hall⟩ | ⟨reports, s₂, hrest, hall⟩⟩
    · rw [hc] at hfirst
      simpa [hall] using hfirst
    all_goals
      rw [hc] at hfirst hlater
      rw [hrest] at hlater
      rw [hall, hlater, hfirst]
      simp

end Playground.Store
