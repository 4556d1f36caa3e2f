import Mathlib.Logic.Relation
import Playground.Proofs.Compile.Outcome
import Playground.Store

namespace Playground

/-- One request to a store. -/
inductive Operation
  | add (name code : String)
  | setActive (name : String)
  | delete (name : String)
  | rename (old new : String)
  | compile (name : String)
  | compileAll
  deriving DecidableEq, Repr

namespace Store

/-- A request that either gives a new store or fails and leaves the old one. -/
def settle (s : Store) : Except StoreError Store → Except StoreError (List Report) × Store
  | .ok s' => (.ok [], s')
  | .error e => (.error e, s)

/-- What a request reports, and the store after it. A store goes on after an error, with what the
failing request had already changed. -/
def perform (s : Store) : Operation → Except StoreError (List Report) × Store
  | .add name code => (.ok [], s.add name code)
  | .setActive name => s.settle (s.setActive name)
  | .delete name => s.settle (s.delete name)
  | .rename old new => ((s.rename old new).1.map fun report => [report], (s.rename old new).2)
  | .compile name => ((s.compile name).1.map fun report => [report], (s.compile name).2)
  | .compileAll => s.compileAll

def afterAll (s : Store) (operations : List Operation) : Store :=
  operations.foldl (fun s operation => (s.perform operation).2) s

/-- The changes that requests are made of. Those of a compile are told apart from the new name that
a rename gives, since the compile after a rename may raise. -/
inductive Change (s : Store) : Store → Prop
  | added (name code : String) : Change s (s.add name code)
  | activated {name : String} {file : VirtualFile} (hfile : s.find? name = some file) :
      Change s { s with active := file.filename }
  | deleted {name : String} (hname : name ∈ Assoc.keys s.files) (hmain : name ≠ s.mainFile) :
      Change s { s with
        files := Assoc.erase name s.files
        errors := Assoc.erase name s.errors
        active := if s.active = name then s.mainFile else s.active }
  | renamed {old new : String} {file : VirtualFile} (hold : s.find? old = some file)
      (hnew : new ∉ Assoc.keys s.files) : Change s (s.renamed old new file)
  | refused {name : String} {file : VirtualFile} {f : Failure} (hfile : s.find? name = some file)
      (hf : s.compiler.Refused file s.history f) :
      Change s { s with history := s.history ++ [.scopeId file.filename] }
  | compiled {name : String} {file file' : VirtualFile} {report : Report} {history : List Call}
      (hfile : s.find? name = some file)
      (hrun : (s.compiler.compileFile file).run s.history = (.ok (report, file'), history)) :
      Change s { s with
        files := Assoc.put name file' s.files
        errors := Assoc.put name report.errors s.errors
        history }

/-- A store can get from one state to the other by some of the changes. -/
abbrev Changes : Store → Store → Prop := Relation.ReflTransGen Change

theorem get_eq_ok_iff {s : Store} {name : String} {file : VirtualFile} :
    s.get name = .ok file ↔ s.find? name = some file := by
  unfold get
  cases s.find? name <;> simp

theorem get_eq_error_iff {s : Store} {name : String} {e : StoreError} :
    s.get name = .error e ↔ s.find? name = none ∧ e = .unknown name := by
  unfold get
  cases s.find? name <;> simp [eq_comm]

theorem find?_eq_none_iff {s : Store} {name : String} :
    s.find? name = none ↔ name ∉ Assoc.keys s.files := Assoc.get?_eq_none_iff

theorem mem_keys_of_find? {s : Store} {name : String} {file : VirtualFile}
    (h : s.find? name = some file) : name ∈ Assoc.keys s.files :=
  Assoc.has_iff.1 (Option.isSome_of_eq_some h)

/-- A compile asks for a file that is there, and then it raises or its errors are recorded. -/
theorem compile_cases (s : Store) (name : String) :
    (s.find? name = none ∧ s.compile name = (.error (.unknown name), s)) ∨
    ∃ file, s.find? name = some file ∧
      ((∃ f, s.compiler.Refused file s.history f ∧ s.compile name =
          (.error (.raised f), { s with history := s.history ++ [.scopeId file.filename] })) ∨
        (∀ f, ¬ s.compiler.Refused file s.history f) ∧ ∃ report file' history,
          (s.compiler.compileFile file).run s.history = (.ok (report, file'), history) ∧
          s.compile name = (.ok report, { s with
            files := Assoc.put name file' s.files
            errors := Assoc.put name report.errors s.errors
            history })) := by
  unfold compile
  cases hget : s.get name with
  | error e =>
    obtain ⟨hnone, rfl⟩ := get_eq_error_iff.1 hget
    exact .inl ⟨hnone, rfl⟩
  | ok file =>
    refine .inr ⟨file, get_eq_ok_iff.1 hget, ?_⟩
    rcases s.compiler.compileFile_raises_or_reports file s.history with
      ⟨f, hf, hrun⟩ | ⟨hn, report, file', history, hrun, -⟩
    · exact .inl ⟨f, hf, by simp only [hrun]⟩
    · exact .inr ⟨hn, report, file', history, hrun, by simp only [hrun]⟩

/-- A compile that returns has compiled the file and recorded what is reported of it. -/
theorem exists_run_of_compile {s s' : Store} {name : String} {report : Report}
    (h : s.compile name = (.ok report, s')) :
    ∃ file file' history, s.find? name = some file ∧
      (s.compiler.compileFile file).run s.history = (.ok (report, file'), history) ∧
      s' = { s with
        files := Assoc.put name file' s.files
        errors := Assoc.put name report.errors s.errors
        history } := by
  rcases s.compile_cases name with
    ⟨-, hc⟩ | ⟨file, hfile, ⟨f, -, hc⟩ | ⟨-, report', file', history, hrun, hc⟩⟩
  · rw [h] at hc
    cases hc
  · rw [h] at hc
    cases hc
  · rw [h] at hc
    cases hc
    exact ⟨file, file', history, hfile, hrun, rfl⟩

theorem setActive_eq_ok {s s' : Store} {name : String} (h : s.setActive name = .ok s') :
    ∃ file, s.find? name = some file ∧ s' = { s with active := file.filename } := by
  unfold setActive at h
  cases hget : s.get name with
  | error e =>
    rw [hget] at h
    cases h
  | ok file =>
    rw [hget] at h
    cases h
    exact ⟨file, get_eq_ok_iff.1 hget, rfl⟩

theorem delete_eq_ok {s s' : Store} {name : String} (h : s.delete name = .ok s') :
    name ∈ Assoc.keys s.files ∧ name ≠ s.mainFile ∧ s' = { s with
      files := Assoc.erase name s.files
      errors := Assoc.erase name s.errors
      active := if s.active = name then s.mainFile else s.active } := by
  unfold delete at h
  by_cases hmain : name = s.mainFile
  · rw [if_pos hmain] at h
    cases h
  · rw [if_neg hmain] at h
    cases hget : s.get name with
    | error e =>
      rw [hget] at h
      cases h
    | ok file =>
      rw [hget] at h
      cases h
      exact ⟨mem_keys_of_find? (get_eq_ok_iff.1 hget), hmain, rfl⟩

/-- A rename asks for a free name and for a file that is there, and then it compiles. -/
theorem rename_cases (s : Store) (old new : String) :
    (new ∈ Assoc.keys s.files ∧ s.rename old new = (.error (.taken old new), s)) ∨
    (new ∉ Assoc.keys s.files ∧ s.find? old = none ∧
      s.rename old new = (.error (.unknown old), s)) ∨
    ∃ file, s.find? old = some file ∧ new ∉ Assoc.keys s.files ∧
      s.rename old new = (s.renamed old new file).compile new := by
  unfold rename
  by_cases htaken : Assoc.has new s.files = true
  · exact .inl ⟨Assoc.has_iff.1 htaken, by simp only [htaken, if_true]⟩
  · have hnew : new ∉ Assoc.keys s.files := fun hmem => htaken (Assoc.has_iff.2 hmem)
    simp only [htaken, if_false, Bool.false_eq_true]
    cases hget : s.get old with
    | error e =>
      obtain ⟨hnone, rfl⟩ := get_eq_error_iff.1 hget
      exact .inr (.inl ⟨hnew, hnone, rfl⟩)
    | ok file => exact .inr (.inr ⟨file, get_eq_ok_iff.1 hget, hnew, rfl⟩)

/-- Files are compiled one after the other until a compile raises. -/
theorem compileEach_cases (s : Store) (name : String) (names : List String) :
    (∃ e s₁, s.compile name = (.error e, s₁) ∧ s.compileEach (name :: names) = (.error e, s₁)) ∨
    ∃ report s₁, s.compile name = (.ok report, s₁) ∧
      ((∃ e s₂, s₁.compileEach names = (.error e, s₂) ∧
          s.compileEach (name :: names) = (.error e, s₂)) ∨
        ∃ reports s₂, s₁.compileEach names = (.ok reports, s₂) ∧
          s.compileEach (name :: names) = (.ok (report :: reports), s₂)) := by
  rcases hc : s.compile name with ⟨e | report, s₁⟩
  · exact .inl ⟨e, s₁, rfl, by simp only [compileEach, hc]⟩
  · refine .inr ⟨report, s₁, rfl, ?_⟩
    rcases hrest : s₁.compileEach names with ⟨e | reports, s₂⟩
    · exact .inl ⟨e, s₂, rfl, by simp only [compileEach, hc, hrest]; rfl⟩
    · exact .inr ⟨reports, s₂, rfl, by simp only [compileEach, hc, hrest]; rfl⟩

/-- A list of compiles that comes to its end has come through the first one. -/
theorem compileEach_cons_eq_ok {s s' : Store} {name : String} {names : List String}
    {reports : List Report} (h : s.compileEach (name :: names) = (.ok reports, s')) :
    ∃ report s₁ later, s.compile name = (.ok report, s₁) ∧
      s₁.compileEach names = (.ok later, s') ∧ reports = report :: later := by
  rcases s.compileEach_cases name names with
    ⟨e, s₁, -, hall⟩ | ⟨report, s₁, hc, ⟨e, s₂, -, hall⟩ | ⟨later, s₂, hlater, hall⟩⟩
  · rw [h] at hall
    cases hall
  · rw [h] at hall
    cases hall
  · rw [h] at hall
    cases hall
    exact ⟨report, s₁, later, hc, hlater, rfl⟩

theorem changes_compile (s : Store) (name : String) : Changes s (s.compile name).2 := by
  rcases s.compile_cases name with
    ⟨-, h⟩ | ⟨file, hfile, ⟨f, hf, h⟩ | ⟨-, report, file', history, hrun, h⟩⟩
  · rw [h]
  · rw [h]
    exact .single (.refused hfile hf)
  · rw [h]
    exact .single (.compiled hfile hrun)

theorem changes_rename (s : Store) (old new : String) : Changes s (s.rename old new).2 := by
  rcases s.rename_cases old new with ⟨-, h⟩ | ⟨-, -, h⟩ | ⟨file, hold, hnew, h⟩
  · rw [h]
  · rw [h]
  · rw [h]
    exact .head (.renamed hold hnew) (changes_compile _ new)

theorem changes_compileEach (s : Store) (names : List String) :
    Changes s (s.compileEach names).2 := by
  induction names generalizing s with
  | nil => exact .refl
  | cons name names ih =>
    have hstep := s.changes_compile name
    unfold compileEach
    rcases hc : s.compile name with ⟨e | report, s'⟩
    · rw [hc] at hstep
      exact hstep
    · rw [hc] at hstep
      exact hstep.trans (ih s')

theorem changes_settle {s : Store} {r : Except StoreError Store}
    (h : ∀ s', r = .ok s' → Change s s') : Changes s (s.settle r).2 := by
  cases r with
  | error e => exact .refl
  | ok s' => exact .single (h s' rfl)

theorem changes_perform (s : Store) (operation : Operation) :
    Changes s (s.perform operation).2 := by
  cases operation with
  | add name code => exact .single (.added name code)
  | setActive name =>
    refine changes_settle fun s' h => ?_
    obtain ⟨file, hfile, rfl⟩ := setActive_eq_ok h
    exact .activated hfile
  | delete name =>
    refine changes_settle fun s' h => ?_
    obtain ⟨hname, hmain, rfl⟩ := delete_eq_ok h
    exact .deleted hname hmain
  | rename old new => exact s.changes_rename old new
  | compile name => exact s.changes_compile name
  | compileAll => exact s.changes_compileEach _

theorem changes_afterAll (s : Store) (operations : List Operation) :
    Changes s (s.afterAll operations) := by
  induction operations generalizing s with
  | nil => exact .refl
  | cons operation operations ih => exact (s.changes_perform operation).trans (ih _)

/-- What every change keeps, every run keeps, whichever of its requests fail. -/
theorem afterAll_keeps {P : Store → Prop} (hstep : ∀ {s s'}, Change s s' → P s → P s') {s : Store}
    (h : P s) (operations : List Operation) : P (s.afterAll operations) := by
  have hrun := s.changes_afterAll operations
  generalize s.afterAll operations = s' at hrun
  induction hrun with
  | refl => exact h
  | tail _ hchange ih => exact hstep hchange ih

end Store

end Playground
