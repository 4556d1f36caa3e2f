import Playground.Proofs.Store.Coherence

namespace Playground

theorem Assoc.get?_map_rename {β : Type} {new : String} (old : String) (v : β) {m : List (String × β)}
    (hnew : new ∉ Assoc.keys m) :
    Assoc.get? new (m.map fun p => if p.1 = old then (new, v) else p) =
      (Assoc.get? old m).map fun _ => v := by
  induction m with
  | nil => rfl
  | cons p m ih =>
    obtain ⟨name, w⟩ := p
    obtain ⟨hne, hm⟩ : new ≠ name ∧ new ∉ Assoc.keys m := by
      simpa [Assoc.keys] using hnew
    by_cases hold : name = old
    · simp [Assoc.get?, hold]
    · simpa [Assoc.get?, hold, Ne.symm hne] using ih hm

namespace Compiler

theorem Refused.unique {c : Compiler} {file : VirtualFile} {h : List Call} {f g : Failure}
    (hf : c.Refused file h f) (hg : c.Refused file h g) : f = g := by
  obtain ⟨-, -, f', hs, rfl⟩ := hf
  obtain ⟨-, -, g', hs', rfl⟩ := hg
  rw [hs] at hs'
  cases hs'
  rfl

end Compiler

namespace Store

/-- The ways a rename fails, each with its error and the store it leaves. A refused scope id is met
only after the file has moved. -/
inductive RenameFails (s : Store) (old new : String) : StoreError → Store → Prop
  | taken (hnew : new ∈ Assoc.keys s.files) : RenameFails s old new (.taken old new) s
  | unknown (hnew : new ∉ Assoc.keys s.files) (hold : s.find? old = none) :
      RenameFails s old new (.unknown old) s
  | refused {file : VirtualFile} {f : Failure} (hnew : new ∉ Assoc.keys s.files)
      (hold : s.find? old = some file)
      (hf : s.compiler.Refused { file with filename := new } s.history f) :
      RenameFails s old new (.raised f)
        { s.renamed old new file with history := s.history ++ [.scopeId new] }

/-- Everything that a user sees of a store is the same. -/
def SameRecords (s s' : Store) : Prop :=
  s'.files = s.files ∧ s'.errors = s.errors ∧ s'.mainFile = s.mainFile ∧ s'.active = s.active

theorem find?_renamed {s : Store} {old new : String} {file : VirtualFile}
    (hold : s.find? old = some file) (hnew : new ∉ Assoc.keys s.files) :
    (s.renamed old new file).find? new = some { file with filename := new } := by
  have hget := Assoc.get?_map_rename old { file with filename := new } hnew
  rw [show Assoc.get? old s.files = some file from hold] at hget
  exact hget

/-- The compile after a rename raises or it gives a report. -/
theorem compile_renamed {s : Store} {old new : String} {file : VirtualFile}
    (hold : s.find? old = some file) (hnew : new ∉ Assoc.keys s.files) :
    (∃ f, s.compiler.Refused { file with filename := new } s.history f ∧
      (s.renamed old new file).compile new = (.error (.raised f),
        { s.renamed old new file with history := s.history ++ [.scopeId new] })) ∨
    ((∀ f, ¬ s.compiler.Refused { file with filename := new } s.history f) ∧
      ∃ report s', (s.renamed old new file).compile new = (.ok report, s')) := by
  have hmoved := find?_renamed hold hnew
  rcases (s.renamed old new file).compile_cases new with
    ⟨hnone, -⟩ | ⟨file', hfile', ⟨f, hf, hc⟩ | ⟨hn, report, _, _, -, hc⟩⟩
  · rw [hmoved] at hnone
    cases hnone
  · rw [hmoved] at hfile'
    cases hfile'
    exact .inl ⟨f, hf, hc⟩
  · rw [hmoved] at hfile'
    cases hfile'
    exact .inr ⟨hn, report, _, hc⟩

theorem renameFails_of_rename {s s' : Store} {old new : String} {e : StoreError}
    (h : s.rename old new = (.error e, s')) : s.RenameFails old new e s' := by
  rcases s.rename_cases old new with ⟨hnew, hr⟩ | ⟨hnew, hold, hr⟩ | ⟨file, hold, hnew, hr⟩
  · rw [h] at hr
    cases hr
    exact .taken hnew
  · rw [h] at hr
    cases hr
    exact .unknown hnew hold
  · rcases compile_renamed hold hnew with ⟨f, hf, hc⟩ | ⟨-, report, s'', hc⟩
    · rw [h, hc] at hr
      cases hr
      exact .refused hnew hold hf
    · rw [h, hc] at hr
      cases hr

theorem RenameFails.rename_eq {s s' : Store} {old new : String} {e : StoreError}
    (h : s.RenameFails old new e s') : s.rename old new = (.error e, s') := by
  cases h with
  | taken hnew =>
    have htaken : Assoc.has new s.files = true := Assoc.has_iff.2 hnew
    simp only [rename, htaken, if_true]
  | unknown hnew hold =>
    rcases s.rename_cases old new with ⟨hmem, -⟩ | ⟨-, -, hr⟩ | ⟨file, hfile, -⟩
    · exact absurd hmem hnew
    · exact hr
    · rw [hold] at hfile
      cases hfile
  | refused hnew hold hf =>
    rcases s.rename_cases old new with ⟨hmem, -⟩ | ⟨-, hnone, -⟩ | ⟨file, hfile, -, hr⟩
    · exact absurd hmem hnew
    · rw [hold] at hnone
      cases hnone
    · rw [hold] at hfile
      cases hfile
      rcases compile_renamed hold hnew with ⟨g, hg, hc⟩ | ⟨hn, -⟩
      · rw [hr, hc, Compiler.Refused.unique hf hg]
      · exact absurd hf (hn _)

theorem RenameFails.sameRecords_iff {s s' : Store} {old new : String} {e : StoreError}
    (h : s.RenameFails old new e s') : s.SameRecords s' ↔ ∀ f, e ≠ .raised f := by
  cases h with
  | taken => exact ⟨fun _ _ => nofun, fun _ => ⟨rfl, rfl, rfl, rfl⟩⟩
  | unknown => exact ⟨fun _ _ => nofun, fun _ => ⟨rfl, rfl, rfl, rfl⟩⟩
  | @refused file f hnew hold =>
    refine ⟨fun hsame => ?_, fun hne => absurd rfl (hne f)⟩
    -- the new name is among the files now, and it was not before
    have hmoved := mem_keys_of_find? (find?_renamed hold hnew)
    exact absurd (hsame.1 ▸ hmoved) hnew

/-- A rename fails for a name that is taken, a file that is missing or a scope id that is refused,
and for nothing else. Only the first two leave the records as they were. -/
theorem rename_error_iff (s s' : Store) (old new : String) (e : StoreError) :
    (s.rename old new = (.error e, s') ↔ s.RenameFails old new e s') ∧
      (s.RenameFails old new e s' → (s.SameRecords s' ↔ ∀ f, e ≠ .raised f)) :=
  ⟨⟨renameFails_of_rename, RenameFails.rename_eq⟩, RenameFails.sameRecords_iff⟩

/-- A store with one file that was compiled and did not pass. -/
def pugStore : Store := (empty refusingNew).afterAll [.add "App.vue" "p", .compile "App.vue"]

/-- A name that is taken leaves the records as they were, and a scope id that is refused does
not. -/
theorem rename_error_iff_pugStore :
    let refusal : Failure := { kind := "ValueError", argument := some "no id" }
    let s' := (pugStore.rename "App.vue" "New.vue").2
    pugStore.RenameFails "App.vue" "App.vue" (.taken "App.vue" "App.vue") pugStore ∧
      pugStore.SameRecords pugStore ∧
      pugStore.RenameFails "App.vue" "New.vue" (.raised refusal) s' ∧
      ¬ pugStore.SameRecords s' := by
  intro refusal s'
  have htaken : pugStore.RenameFails "App.vue" "App.vue" (.taken "App.vue" "App.vue") pugStore :=
    .taken (by decide)
  have hkept := (rename_error_iff pugStore pugStore "App.vue" "App.vue" _).2 htaken
  have hrename : pugStore.rename "App.vue" "New.vue" = (.error (.raised refusal), s') := rfl
  obtain ⟨hfails, hmoved⟩ := rename_error_iff pugStore s' "App.vue" "New.vue" (.raised refusal)
  have hrefused := hfails.1 hrename
  exact ⟨htaken, hkept.2 fun _ => nofun, hrefused,
    fun hsame => (hmoved hrefused).1 hsame refusal rfl⟩

/-- A rename that raises has moved the file and the main file, and the errors are gone. -/
theorem rename_raises_after_moving :
    let s' := (pugStore.rename "App.vue" "New.vue").2
    (pugStore.rename "App.vue" "New.vue").1 =
        .error (.raised { kind := "ValueError", argument := some "no id" }) ∧
      Assoc.keys pugStore.files = ["App.vue"] ∧ Assoc.keys s'.files = ["New.vue"] ∧
      pugStore.errors = [("App.vue", [LanguageFault.preprocessor.message])] ∧ s'.errors = [] ∧
      pugStore.mainFile = "App.vue" ∧ s'.mainFile = "New.vue" ∧
      pugStore.active = "App.vue" ∧ s'.active = "New.vue" :=
  ⟨rfl, rfl, rfl, rfl, rfl, rfl, rfl, rfl, rfl⟩

end Store

end Playground
