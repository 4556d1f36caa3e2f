import Playground.Proofs.Except
import Playground.Proofs.Store.Separation

namespace Playground.Store

/-- Some name is refused a scope id at some time. -/
def RefusesNames (s : Store) : Prop :=
  ∃ h name f, s.compiler.toolchain.respond h (.scopeId name) = .error f

theorem refusesNames_of_refused {s : Store} {file : VirtualFile} {h : List Call} {f : Failure}
    (hf : s.compiler.Refused file h f) : s.RefusesNames := by
  obtain ⟨-, -, g, hg, -⟩ := hf
  exact ⟨h, file.filename, g, hg⟩

theorem compile_eq_error {s s' : Store} {name : String} {e : StoreError}
    (h : s.compile name = (.error e, s')) :
    (name ∉ Assoc.keys s.files ∧ e = .unknown name ∧ s' = s) ∨
      ∃ f, e = .raised f ∧ s.RefusesNames := by
  rcases s.compile_cases name with ⟨hnone, hc⟩ | ⟨_, -, ⟨f, hf, hc⟩ | ⟨-, _, _, _, -, hc⟩⟩
  · rw [h] at hc
    cases hc
    exact .inl ⟨find?_eq_none_iff.1 hnone, rfl, rfl⟩
  · rw [h] at hc
    cases hc
    exact .inr ⟨f, rfl, refusesNames_of_refused hf⟩
  · rw [h] at hc
    cases hc

theorem Change.compiler_eq {s s' : Store} (hchange : Change s s') : s'.compiler = s.compiler := by
  cases hchange <;> rfl

theorem compiler_afterAll (s : Store) (operations : List Operation) :
    (s.afterAll operations).compiler = s.compiler := by
  have hkeeps : ∀ {s₁ s₂ : Store}, Change s₁ s₂ → s₁.compiler = s.compiler →
      s₂.compiler = s.compiler := fun hchange h => hchange.compiler_eq.trans h
  exact afterAll_keeps hkeeps rfl operations

theorem compiler_perform (s : Store) (operation : Operation) :
    (s.perform operation).2.compiler = s.compiler := s.compiler_afterAll [operation]

theorem compiler_compile (s : Store) (name : String) :
    (s.compile name).2.compiler = s.compiler := s.compiler_perform (.compile name)

/-- Files that are there are compiled one after the other until a name is refused. -/
theorem compileEach_eq_error {s s' : Store} {names : List String} {e : StoreError}
    (hnames : ∀ name ∈ names, name ∈ Assoc.keys s.files)
    (h : s.compileEach names = (.error e, s')) : ∃ f, e = .raised f ∧ s.RefusesNames := by
  induction names generalizing s with
  | nil => cases h
  | cons name names ih =>
    obtain ⟨hname, hnames⟩ := List.forall_mem_cons.1 hnames
    rcases s.compileEach_cases name names with
      ⟨e', s₁, hc, hall⟩ | ⟨report, s₁, hc, ⟨e', s₂, hrest, hall⟩ | ⟨reports, s₂, -, hall⟩⟩
    · rw [h] at hall
      cases hall
      rcases compile_eq_error hc with ⟨hmissing, -⟩ | hraised
      · exact absurd hname hmissing
      · exact hraised
    · rw [h] at hall
      cases hall
      -- a compile that passes leaves the names and the services, so the rest fails as the whole
      have hkeys : Assoc.keys s₁.files = Assoc.keys s.files := by
        rw [← s.keys_compile name, hc]
      have hcompiler : s₁.compiler = s.compiler := by
        rw [← s.compiler_compile name, hc]
      obtain ⟨f, rfl, hrefuses⟩ := ih (fun other hother => hkeys ▸ hnames other hother) hrest
      exact ⟨f, rfl, by rwa [RefusesNames, hcompiler] at hrefuses⟩
    · rw [h] at hall
      cases hall

theorem setActive_eq_error {s : Store} {name : String} {e : StoreError}
    (h : s.setActive name = .error e) : e = .unknown name := by
  unfold setActive at h
  cases hget : s.get name with
  | ok file =>
    rw [hget] at h
    cases h
  | error e' =>
    obtain ⟨-, rfl⟩ := get_eq_error_iff.1 hget
    rw [hget] at h
    cases h
    rfl

theorem settle_eq_error {s : Store} {r : Except StoreError Store} {e : StoreError}
    (h : (s.settle r).1 = .error e) : r = .error e ∧ (s.settle r).2 = s := by
  cases r with
  | ok s' => cases h
  | error e' =>
    cases h
    exact ⟨rfl, rfl⟩

theorem settle_eq_ok {s : Store} {r : Except StoreError Store} {reports : List Report}
    (h : (s.settle r).1 = .ok reports) : r = .ok (s.settle r).2 ∧ reports = [] := by
  cases r with
  | ok s' =>
    cases h
    exact ⟨rfl, rfl⟩
  | error e => cases h

/-- A request that fails changes nothing, unless a name is refused. -/
theorem perform_error_cases {s : Store} {operation : Operation} {e : StoreError}
    (h : (s.perform operation).1 = .error e) :
    ((s.perform operation).2 = s ∧ ∀ f, e ≠ .raised f) ∨ ∃ f, e = .raised f ∧ s.RefusesNames := by
  cases operation with
  | add name code => cases h
  | setActive name =>
    obtain ⟨herror, hkept⟩ := settle_eq_error h
    obtain rfl := setActive_eq_error herror
    exact .inl ⟨hkept, fun _ => nofun⟩
  | delete name =>
    obtain ⟨herror, hkept⟩ := settle_eq_error h
    rcases delete_eq_error herror with ⟨-, rfl⟩ | ⟨-, rfl⟩
    · exact .inl ⟨hkept, fun _ => nofun⟩
    · exact .inl ⟨hkept, fun _ => nofun⟩
  | rename old new =>
    have hrename : s.rename old new = (.error e, (s.rename old new).2) :=
      Prod.ext (map_eq_error h) rfl
    have hfails := renameFails_of_rename hrename
    change ((s.rename old new).2 = s ∧ _) ∨ _
    generalize (s.rename old new).2 = s' at hfails
    cases hfails with
    | taken => exact .inl ⟨rfl, fun _ => nofun⟩
    | unknown => exact .inl ⟨rfl, fun _ => nofun⟩
    | refused _ _ hf => exact .inr ⟨_, rfl, refusesNames_of_refused hf⟩
  | compile name =>
    have hcompile : s.compile name = (.error e, (s.compile name).2) :=
      Prod.ext (map_eq_error h) rfl
    rcases compile_eq_error hcompile with ⟨-, rfl, hkept⟩ | hraised
    · exact .inl ⟨hkept, fun _ => nofun⟩
    · exact .inr hraised
  | compileAll =>
    have hcompile : s.compileAll = (.error e, s.compileAll.2) := Prod.ext h rfl
    exact .inr (compileEach_eq_error (fun _ hname => hname) hcompile)

def answers (s : Store) : List Operation → List (Except StoreError (List Report))
  | [] => []
  | operation :: operations =>
    (s.perform operation).1 :: (s.perform operation).2.answers operations

/-- Services that refuse no name let no request raise. -/
theorem not_raised_of_named {s : Store} (hnamed : ¬ s.RefusesNames) (operations : List Operation)
    (f : Failure) : .error (.raised f) ∉ s.answers operations := by
  induction operations generalizing s with
  | nil => exact List.not_mem_nil
  | cons operation operations ih =>
    intro hmem
    rcases List.mem_cons.1 hmem with hfirst | hlater
    · rcases perform_error_cases hfirst.symm with ⟨-, hraised⟩ | ⟨-, -, hrefuses⟩
      · exact hraised f rfl
      · exact hnamed hrefuses
    · refine ih ?_ hlater
      rw [RefusesNames, compiler_perform]
      exact hnamed

end Playground.Store
