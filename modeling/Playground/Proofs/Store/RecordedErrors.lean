import Playground.Proofs.Store.Failures

namespace Playground

/-- What happens to the files of a store, as its user is told. -/
inductive Event
  | created (name : String)
  | deleted (name : String)
  | renamed (old new : String)
  | reported (report : Report)
  deriving DecidableEq, Repr

/-- The latest report on the file that has a name now. The events are gone through from the latest
one back, and the file is followed through its renames to where it was created. -/
def latestReport? (name : String) : List Event → Option Report
  | [] => none
  | .created created :: earlier =>
    if created = name then none else latestReport? name earlier
  | .deleted deleted :: earlier =>
    if deleted = name then none else latestReport? name earlier
  | .renamed old new :: earlier =>
    if new = name then latestReport? old earlier
    else if old = name then none
    else latestReport? name earlier
  | .reported report :: earlier =>
    if report.filename = name then some report else latestReport? name earlier

/-- The errors that are recorded for each name are those of the latest report on its file. -/
def Recorded (errors : List (String × List String)) (past : List Event) : Prop :=
  ∀ name, Assoc.get? name errors = (latestReport? name past).map (·.errors)

namespace Recorded

variable {errors : List (String × List String)} {past : List Event}

theorem empty : Recorded [] [] := fun _ => rfl

theorem created (h : Recorded errors past) {name : String} (hname : name ∉ Assoc.keys errors) :
    Recorded errors (.created name :: past) := by
  intro other
  rw [latestReport?]
  split
  · next he =>
    rw [← he]
    exact Assoc.get?_eq_none_iff.2 hname
  · exact h other

theorem deleted (h : Recorded errors past) (name : String) :
    Recorded (Assoc.erase name errors) (.deleted name :: past) := by
  intro other
  rw [latestReport?, Assoc.get?_erase]
  split
  · rfl
  · exact h other

theorem reported (h : Recorded errors past) (report : Report) :
    Recorded (Assoc.put report.filename report.errors errors) (.reported report :: past) := by
  intro other
  rw [latestReport?, Assoc.get?_put]
  split
  · rfl
  · exact h other

/-- The errors under the old name go with it, and those under the new one are of the report that a
rename ends with. -/
theorem renamed (h : Recorded errors past) (old : String) (report : Report) :
    Recorded (Assoc.put report.filename report.errors (Assoc.erase old errors))
      (.reported report :: .renamed old report.filename :: past) := by
  intro other
  rw [latestReport?, Assoc.get?_put, Assoc.get?_erase]
  split
  · rfl
  · next hnew =>
    rw [latestReport?, if_neg hnew]
    split
    · rfl
    · exact h other

end Recorded

namespace Store

/-- What a request does to the files. One that fails does nothing, and a new source for a file is no
new file. -/
def events (s : Store) (operation : Operation) : List Event :=
  match operation, (s.perform operation).1 with
  | _, .error _ => []
  | .add name _, .ok _ => if name ∈ Assoc.keys s.files then [] else [.created name]
  | .delete name, .ok _ => [.deleted name]
  | .rename old new, .ok reports => .renamed old new :: reports.map .reported
  | .setActive _, .ok reports | .compile _, .ok reports | .compileAll, .ok reports =>
    reports.map .reported

def log (s : Store) : List Operation → List Event
  | [] => []
  | operation :: operations => s.events operation ++ (s.perform operation).2.log operations

theorem compile_eq_ok {s s' : Store} (hs : s.Coherent) {name : String} {report : Report}
    (h : s.compile name = (.ok report, s')) :
    name ∈ Assoc.keys s.files ∧ report.filename = name ∧
      s'.errors = Assoc.put name report.errors s.errors := by
  obtain ⟨file, file', history, hfile, hrun, rfl⟩ := exists_run_of_compile h
  have hreport := (Compiler.reports_of_compileFile hrun).1
  exact ⟨mem_keys_of_find? hfile, hreport.trans (hs.filename_eq hfile), rfl⟩

theorem Coherent.perform {s : Store} (hs : s.Coherent) (operation : Operation) :
    (s.perform operation).2.Coherent :=
  afterAll_keeps Coherent.change hs [operation]

theorem Coherent.of_compile {s s' : Store} (hs : s.Coherent) {name : String} {report : Report}
    (h : s.compile name = (.ok report, s')) : s'.Coherent := by
  obtain ⟨file, file', history, hfile, hrun, rfl⟩ := exists_run_of_compile h
  exact hs.compile hfile hrun

theorem recorded_compile {s s' : Store} (hs : s.Coherent) {past : List Event}
    (hpast : Recorded s.errors past) {name : String} {report : Report}
    (h : s.compile name = (.ok report, s')) : Recorded s'.errors (.reported report :: past) := by
  obtain ⟨-, rfl, herrors⟩ := compile_eq_ok hs h
  rw [herrors]
  exact hpast.reported report

theorem recorded_compileEach {s s' : Store} (hs : s.Coherent) {past : List Event}
    (hpast : Recorded s.errors past) {names : List String} {reports : List Report}
    (h : s.compileEach names = (.ok reports, s')) :
    Recorded s'.errors ((reports.map .reported).reverse ++ past) := by
  induction names generalizing s past reports with
  | nil =>
    cases h
    exact hpast
  | cons name names ih =>
    obtain ⟨report, s₁, later, hc, hrest, rfl⟩ := compileEach_cons_eq_ok h
    have hlater := ih (hs.of_compile hc) (recorded_compile hs hpast hc) hrest
    simpa using hlater

theorem recorded_rename {s s' : Store} (hs : s.Coherent) {past : List Event}
    (hpast : Recorded s.errors past) {old new : String} {report : Report}
    (h : s.rename old new = (.ok report, s')) :
    Recorded s'.errors (.reported report :: .renamed old new :: past) := by
  rcases s.rename_cases old new with ⟨-, hr⟩ | ⟨-, -, hr⟩ | ⟨file, -, hnew, hr⟩
  · rw [h] at hr
    cases hr
  · rw [h] at hr
    cases hr
  · rw [h] at hr
    obtain ⟨-, rfl, herrors⟩ := compile_eq_ok (hs.rename file hnew) hr.symm
    rw [herrors]
    exact hpast.renamed old report

/-- One request and what is told of it. -/
theorem recorded_perform {s : Store} (hs : s.Coherent) {past : List Event}
    (hpast : Recorded s.errors past) {operation : Operation}
    (hanswer : ∀ f, (s.perform operation).1 ≠ .error (.raised f)) :
    Recorded (s.perform operation).2.errors ((s.events operation).reverse ++ past) := by
  cases hresult : (s.perform operation).1 with
  | error e =>
    have hevents : s.events operation = [] := by simp only [events, hresult]
    rcases perform_error_cases hresult with ⟨hkept, -⟩ | ⟨f, rfl, -⟩
    · rw [hevents, hkept]
      exact hpast
    · exact absurd hresult (hanswer f)
  | ok reports =>
    simp only [events, hresult]
    cases operation with
    | add name code =>
      by_cases hname : name ∈ Assoc.keys s.files
      · simp only [hname, if_true]
        exact hpast
      · simp only [hname, if_false]
        -- errors are recorded for files only, so nothing waits for a new one under its name
        exact hpast.created fun hrecorded => hname (hs.recorded name hrecorded)
    | setActive name =>
      obtain ⟨hactive, rfl⟩ := settle_eq_ok hresult
      obtain ⟨file, -, hkept⟩ := setActive_eq_ok hactive
      change Recorded (s.settle (s.setActive name)).2.errors past
      rw [hkept]
      exact hpast
    | delete name =>
      obtain ⟨hdelete, -⟩ := settle_eq_ok hresult
      obtain ⟨-, -, hkept⟩ := delete_eq_ok hdelete
      change Recorded (s.settle (s.delete name)).2.errors (.deleted name :: past)
      rw [hkept]
      exact hpast.deleted name
    | rename old new =>
      obtain ⟨report, hreport, rfl⟩ := map_eq_ok hresult
      exact recorded_rename hs hpast (Prod.ext hreport rfl)
    | compile name =>
      obtain ⟨report, hreport, rfl⟩ := map_eq_ok hresult
      exact recorded_compile hs hpast (Prod.ext hreport rfl)
    | compileAll => exact recorded_compileEach hs hpast (Prod.ext hresult rfl)

theorem recorded_afterAll {s : Store} (hs : s.Coherent) {past : List Event}
    (hpast : Recorded s.errors past) {operations : List Operation}
    (hanswers : ∀ f, .error (.raised f) ∉ s.answers operations) :
    Recorded (s.afterAll operations).errors ((s.log operations).reverse ++ past) := by
  induction operations generalizing s past with
  | nil => exact hpast
  | cons operation operations ih =>
    have hanswer : ∀ f, (s.perform operation).1 ≠ .error (.raised f) :=
      fun f he => hanswers f (List.mem_cons.2 (.inl he.symm))
    have hstep := recorded_perform hs hpast hanswer
    have hrest := ih (hs.perform operation) hstep fun f hf => hanswers f (List.mem_cons_of_mem _ hf)
    rw [log, List.reverse_append, List.append_assoc]
    exact hrest

/-- After any requests of which none is refused a scope id, the errors that a store shows for a name
are those of the latest report on the file that has the name now, and without such a report there
are none. A new source for a file and requests that fail leave the errors as they are. -/
theorem afterAll_errorsFor (compiler : Compiler) (mainFile : String) (operations : List Operation)
    (hanswers : ∀ f, .error (.raised f) ∉ (empty compiler mainFile).answers operations) :
    let s := (empty compiler mainFile).afterAll operations
    let past := ((empty compiler mainFile).log operations).reverse
    ∀ name, s.errorsFor name = ((latestReport? name past).map (·.errors)).getD [] ∧
      (∀ other code, (s.add other code).errorsFor name = s.errorsFor name) ∧
      ∀ operation e, (s.perform operation).1 = .error e → (∀ f, e ≠ .raised f) →
        (s.perform operation).2.errorsFor name = s.errorsFor name := by
  intro s past name
  refine ⟨?_, fun other code => rfl, ?_⟩
  · have hrecorded := recorded_afterAll (coherent_empty compiler mainFile) .empty hanswers name
    rw [List.append_nil] at hrecorded
    rw [errorsFor, hrecorded]
  · intro operation e he hraised
    rcases perform_error_cases he with ⟨hkept, -⟩ | ⟨f, rfl, -⟩
    · rw [hkept]
    · exact absurd rfl (hraised f)

/-- The errors go along with a renamed file. Neither the file that gets the old name afterwards nor
one that is added again has errors, and a rename to a name that is taken clears none. -/
theorem afterAll_errorsFor_reusedNames :
    let operations : List Operation :=
      [.add "Old.vue" "x", .rename "Old.vue" "New.vue", .add "Old.vue" "x",
        .compile "Gone.vue", .add "Gone.vue" "x", .compile "Gone.vue", .delete "Gone.vue",
        .add "Gone.vue" "x"]
    let s := (empty Compiler.faultyTwice).afterAll operations
    let s' := (s.perform (.rename "New.vue" "Old.vue")).2
    (∀ f, .error (.raised f) ∉ (empty Compiler.faultyTwice).answers operations) ∧
      s.errorsFor "New.vue" = ["no end tag"] ∧ s.errorsFor "Old.vue" = [] ∧
      s.errorsFor "Gone.vue" = [] ∧ s'.errorsFor "New.vue" = ["no end tag"] := by
  intro operations s s'
  have hnamed : ¬ (empty Compiler.faultyTwice).RefusesNames := by
    rintro ⟨h, name, f, hf⟩
    cases hf
  have hanswers := not_raised_of_named hnamed operations
  have h := afterAll_errorsFor Compiler.faultyTwice defaultMain operations hanswers
  have hnew : s.errorsFor "New.vue" = ["no end tag"] := (h "New.vue").1.trans (by decide +kernel)
  have htaken : (s.perform (.rename "New.vue" "Old.vue")).1 =
      .error (.taken "New.vue" "Old.vue") := by rfl
  refine ⟨hanswers, hnew, (h "Old.vue").1.trans (by decide +kernel),
    (h "Gone.vue").1.trans (by decide +kernel), ?_⟩
  exact ((h "New.vue").2.2 _ _ htaken nofun).trans hnew

end Store

end Playground
