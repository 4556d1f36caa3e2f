import Mathlib.Logic.Function.Basic
import Playground.Proofs.Store.RecordedErrors

namespace Playground

/-- A compile that came to its end: the file as it was found, what had been asked before, and what
was reported. -/
structure CompileRun where
  file : VirtualFile
  past : List Call
  report : Report

/-- The latest compile of each file, under the name that the file has now. -/
abbrev LatestCompiles := String → Option CompileRun

/-- The latest compile of a file goes with the file to its new name. -/
def LatestCompiles.moved (latest : LatestCompiles) (old new : String) : LatestCompiles :=
  Function.update (Function.update latest old none) new (latest old)

namespace Store

def compileRun? (s : Store) (name : String) : Option CompileRun :=
  match s.find? name, (s.compile name).1 with
  | some file, .ok report => some ⟨file, s.history, report⟩
  | _, _ => none

/-- The latest compiles after one more compile. One that raises leaves them as they are. -/
def noted (s : Store) (name : String) (latest : LatestCompiles) : LatestCompiles :=
  match s.compileRun? name with
  | some run => Function.update latest name (some run)
  | none => latest

def notedEach (s : Store) (latest : LatestCompiles) : List String → LatestCompiles
  | [] => latest
  | name :: names =>
    match s.compile name with
    | (.error _, _) => latest
    | (.ok _, s') => s'.notedEach (s.noted name latest) names

def latestRenamed (s : Store) (latest : LatestCompiles) (old new : String) : LatestCompiles :=
  if new ∈ Assoc.keys s.files then latest
  else match s.find? old with
    | some file => (s.renamed old new file).noted new (latest.moved old new)
    | none => latest

/-- The latest compiles after a request. A new source for a file is no compile of it. -/
def latestAfter (s : Store) (latest : LatestCompiles) : Operation → LatestCompiles
  | .add _ _ | .setActive _ => latest
  | .delete name =>
    match s.delete name with
    | .ok _ => Function.update latest name none
    | .error _ => latest
  | .rename old new => s.latestRenamed latest old new
  | .compile name => s.noted name latest
  | .compileAll => s.notedEach latest (Assoc.keys s.files)

def latestFrom (s : Store) (latest : LatestCompiles) : List Operation → LatestCompiles
  | [] => latest
  | operation :: operations =>
    (s.perform operation).2.latestFrom (s.latestAfter latest operation) operations

/-- The latest compiles of all files when a store has been through some requests. -/
def latestCompiles (s : Store) (operations : List Operation) : LatestCompiles :=
  s.latestFrom (fun _ => none) operations

/-- A store has for a name what a compile left: the artifact and the errors. -/
structure Shows (s : Store) (name : String) (run : CompileRun) : Prop where
  named : run.file.filename = name
  kept : ∃ file new history, s.find? name = some file ∧
    (s.compiler.compileFile run.file).run run.past = (.ok (run.report, new), history) ∧
    file.compiled = new.compiled
  errors : Assoc.get? name s.errors = some run.report.errors

/-- What a store has for each file is what the latest compile of the file left. -/
def ShowsAll (s : Store) (latest : LatestCompiles) : Prop :=
  ∀ name run, latest name = some run → s.Shows name run

section Steps

variable {s s' : Store} {name : String} {run : CompileRun} {latest : LatestCompiles}

namespace Shows

theorem mem_keys (h : s.Shows name run) : name ∈ Assoc.keys s.files := by
  obtain ⟨file, -, -, hfile, -⟩ := h.kept
  exact mem_keys_of_find? hfile

theorem of_sameFor (h : s.Shows name run) (hcompiler : s'.compiler = s.compiler)
    (hsame : SameFor name s s') : s'.Shows name run where
  named := h.named
  kept := by
    obtain ⟨file, new, history, hfile, hrun, hkept⟩ := h.kept
    exact ⟨file, new, history, hsame.1.trans hfile, hcompiler.symm ▸ hrun, hkept⟩
  errors := hsame.2.trans h.errors

/-- A new source leaves the artifact and the errors of its file. -/
theorem add (h : s.Shows name run) (other code : String) : (s.add other code).Shows name run := by
  by_cases hname : name = other
  · obtain ⟨file, new, history, hfile, hrun, hkept⟩ := h.kept
    refine ⟨h.named, ⟨{ file with code }, new, history, ?_, hrun, hkept⟩, h.errors⟩
    unfold find? Store.add
    rw [Assoc.get?_put, if_pos hname.symm, ← hname, hfile]
  · exact h.of_sameFor rfl (.add hname s code)

end Shows

theorem noted_of_eq_some (hnew : s.compileRun? name = some run) :
    s.noted name latest = Function.update latest name (some run) := by
  simp only [noted, hnew]

theorem noted_of_eq_none (hnone : s.compileRun? name = none) : s.noted name latest = latest := by
  simp only [noted, hnone]

/-- What a compile leaves is shown under its name. -/
theorem shows_of_compileRun? (hs : s.Coherent) (hnew : s.compileRun? name = some run) :
    (s.compile name).2.Shows name run := by
  unfold compileRun? at hnew
  split at hnew
  · next file report hfile hreport =>
    cases hnew
    have hcompile : s.compile name = (.ok report, (s.compile name).2) := Prod.ext hreport rfl
    obtain ⟨file', new, history, hfile', hrun, hafter⟩ := exists_run_of_compile hcompile
    rw [hfile] at hfile'
    cases hfile'
    refine ⟨hs.filename_eq hfile, ⟨new, new, history, ?_, ?_, rfl⟩, ?_⟩
    · rw [hafter]
      exact (Assoc.get?_put name name new s.files).trans (if_pos rfl)
    · rw [hafter]
      exact hrun
    · rw [hafter]
      exact (Assoc.get?_put name name report.errors s.errors).trans (if_pos rfl)
  · cases hnew

theorem sameFor_of_compileRun?_eq_none (hnone : s.compileRun? name = none) (other : String) :
    SameFor other s (s.compile name).2 := by
  rcases s.compile_cases name with
    ⟨-, hc⟩ | ⟨file, hfile, ⟨f, -, hc⟩ | ⟨-, report, file', history, -, hc⟩⟩
  · rw [hc]
    exact .refl other s
  · rw [hc]
    exact .refl other s
  · simp [compileRun?, hfile, hc] at hnone

namespace ShowsAll

theorem start (s : Store) : s.ShowsAll fun _ => none := by
  intro name run hrun
  cases hrun

theorem noted (h : s.ShowsAll latest) (hs : s.Coherent) (name : String) :
    (s.compile name).2.ShowsAll (s.noted name latest) := by
  intro other run hrun
  cases hnew : s.compileRun? name with
  | none =>
    rw [noted_of_eq_none hnew] at hrun
    exact (h other run hrun).of_sameFor (s.compiler_compile name)
      (sameFor_of_compileRun?_eq_none hnew other)
  | some new =>
    rw [noted_of_eq_some hnew] at hrun
    by_cases hother : other = name
    · subst hother
      obtain rfl : new = run := by simpa using hrun
      exact shows_of_compileRun? hs hnew
    · rw [Function.update_of_ne hother] at hrun
      exact (h other run hrun).of_sameFor (s.compiler_compile name) (.compile hother s)

theorem notedEach (h : s.ShowsAll latest) (hs : s.Coherent) (names : List String) :
    (s.compileEach names).2.ShowsAll (s.notedEach latest names) := by
  induction names generalizing s latest with
  | nil => exact h
  | cons name names ih =>
    have hstep := h.noted hs name
    unfold compileEach Store.notedEach
    rcases hc : s.compile name with ⟨e | report, s₁⟩
    · rw [hc] at hstep
      have hnone : s.compileRun? name = none := by simp [compileRun?, hc]
      rwa [noted_of_eq_none hnone] at hstep
    · rw [hc] at hstep
      exact ih hstep (hs.of_compile hc)

/-- Without the file that is renamed, the files have what they had. -/
theorem renamed (h : s.ShowsAll latest) (old : String) {new : String} (file : VirtualFile)
    (hnew : new ∉ Assoc.keys s.files) :
    (s.renamed old new file).ShowsAll (Function.update latest old none) := by
  intro other run hrun
  by_cases hother : other = old
  · simp [hother] at hrun
  · rw [Function.update_of_ne hother] at hrun
    have hshows := h other run hrun
    have hne : other ≠ new := fun he => hnew (he ▸ hshows.mem_keys)
    exact hshows.of_sameFor rfl (.renamed hother hne s file)

theorem rename (h : s.ShowsAll latest) (hs : s.Coherent) (hnamed : ¬ s.RefusesNames)
    (old new : String) :
    (s.rename old new).2.ShowsAll (s.latestRenamed latest old new) := by
  unfold latestRenamed
  rcases s.rename_cases old new with ⟨hnew, hr⟩ | ⟨hnew, hold, hr⟩ | ⟨file, hold, hnew, hr⟩
  · rw [hr, if_pos hnew]
    exact h
  · rw [hr, if_neg hnew, hold]
    exact h
  · rw [hr, if_neg hnew, hold]
    rcases compile_renamed hold hnew with ⟨f, hf, -⟩ | ⟨-, report, s', hc⟩
    · exact absurd (refusesNames_of_refused hf) hnamed
    · have hstep := (h.renamed old file hnew).noted (hs.rename file hnew) new
      -- the compile after the rename takes the place of the one that came along
      have hsome : (s.renamed old new file).compileRun? new =
          some ⟨{ file with filename := new }, s.history, report⟩ := by
        simp only [compileRun?, find?_renamed hold hnew, hc]
        rfl
      rw [noted_of_eq_some hsome] at hstep
      dsimp only
      rw [noted_of_eq_some hsome, LatestCompiles.moved, Function.update_idem]
      exact hstep

theorem perform (h : s.ShowsAll latest) (hs : s.Coherent) (hnamed : ¬ s.RefusesNames)
    (operation : Operation) :
    (s.perform operation).2.ShowsAll (s.latestAfter latest operation) := by
  cases operation with
  | add name code => exact fun other run hrun => (h other run hrun).add name code
  | setActive name =>
    intro other run hrun
    change (s.settle (s.setActive name)).2.Shows other run
    cases hactive : s.setActive name with
    | error e => exact h other run hrun
    | ok s' =>
      obtain ⟨file, -, rfl⟩ := setActive_eq_ok hactive
      exact (h other run hrun).of_sameFor rfl (.refl other s)
  | delete name =>
    intro other run hrun
    change (s.settle (s.delete name)).2.Shows other run
    unfold latestAfter at hrun
    cases hdelete : s.delete name with
    | error e =>
      simp only [hdelete] at hrun
      exact h other run hrun
    | ok s' =>
      simp only [hdelete] at hrun
      obtain ⟨-, -, rfl⟩ := delete_eq_ok hdelete
      by_cases hother : other = name
      · simp [hother] at hrun
      · rw [Function.update_of_ne hother] at hrun
        exact (h other run hrun).of_sameFor rfl (.delete hother s _)
  | rename old new => exact h.rename hs hnamed old new
  | compile name => exact h.noted hs name
  | compileAll => exact h.notedEach hs _

theorem latestFrom (h : s.ShowsAll latest) (hs : s.Coherent) (hnamed : ¬ s.RefusesNames)
    (operations : List Operation) :
    (s.afterAll operations).ShowsAll (s.latestFrom latest operations) := by
  induction operations generalizing s latest with
  | nil => exact h
  | cons operation operations ih =>
    refine ih (h.perform hs hnamed operation) (hs.perform operation) ?_
    rw [RefusesNames, compiler_perform]
    exact hnamed

end ShowsAll

end Steps

/-- If no name is refused, a store has for each file what the latest compile of the file left. -/
theorem shows_latestCompiles {compiler : Compiler} {mainFile : String}
    (hnamed : ¬ (empty compiler mainFile).RefusesNames) (operations : List Operation) :
    ((empty compiler mainFile).afterAll operations).ShowsAll
      ((empty compiler mainFile).latestCompiles operations) :=
  (ShowsAll.start _).latestFrom (coherent_empty compiler mainFile) hnamed operations

end Store

end Playground
