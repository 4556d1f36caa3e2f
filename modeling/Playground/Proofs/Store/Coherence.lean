import Mathlib.Data.List.Nodup
import Playground.Proofs.Store.Operation

namespace Playground.Store

/-- What holds of a store between any two requests. -/
structure Coherent (s : Store) : Prop where
  named : ∀ p ∈ s.files, p.2.filename = p.1
  distinct : (Assoc.keys s.files).Nodup
  recorded : ∀ name ∈ Assoc.keys s.errors, name ∈ Assoc.keys s.files
  active : s.active ∈ Assoc.keys s.files ∨ s.active = s.mainFile

def HasMain (s : Store) : Prop := s.mainFile ∈ Assoc.keys s.files

theorem coherent_empty (compiler : Compiler) (mainFile : String) :
    (empty compiler mainFile).Coherent where
  named _ hp := nomatch hp
  distinct := .nil
  recorded _ hname := nomatch hname
  active := .inr rfl

theorem keys_renamed (s : Store) (old new : String) (file : VirtualFile) :
    Assoc.keys (s.renamed old new file).files =
      (Assoc.keys s.files).map fun name => if name = old then new else name := by
  simp only [renamed, Assoc.keys, List.map_map]
  refine List.map_congr_left fun p _ => ?_
  simp only [Function.comp_apply]
  split <;> rfl

theorem mem_keys_renamed {s : Store} {name : String} (old new : String) (file : VirtualFile)
    (h : name ∈ Assoc.keys s.files) :
    (if name = old then new else name) ∈ Assoc.keys (s.renamed old new file).files := by
  rw [keys_renamed]
  exact List.mem_map_of_mem h

namespace Coherent

variable {s : Store}

theorem filename_eq (h : s.Coherent) {name : String} {file : VirtualFile}
    (hfile : s.find? name = some file) : file.filename = name :=
  h.named (name, file) (Assoc.mem_of_get? hfile)

theorem add (h : s.Coherent) (name code : String) : (s.add name code).Coherent where
  named p hp := by
    rcases Assoc.mem_put hp with rfl | hp
    · cases hfile : s.find? name with
      | none => rfl
      | some file =>
        change file.filename = name
        exact h.filename_eq hfile
    · exact h.named p hp
  distinct := Assoc.nodup_keys_put h.distinct
  recorded _ hname := Assoc.mem_keys_put.2 (.inr (h.recorded _ hname))
  active := .inl (Assoc.mem_keys_put.2 (.inl rfl))

theorem delete (h : s.Coherent) (name : String) :
    Coherent { s with
      files := Assoc.erase name s.files
      errors := Assoc.erase name s.errors
      active := if s.active = name then s.mainFile else s.active } where
  named p hp := h.named p (List.mem_filter.1 hp).1
  distinct := Assoc.nodup_keys_erase h.distinct
  recorded other hother := by
    simp only [Assoc.keys_erase, List.mem_filter] at hother ⊢
    exact ⟨h.recorded other hother.1, hother.2⟩
  active := by
    by_cases hactive : s.active = name
    · exact .inr (if_pos hactive)
    · simp only [hactive, if_false, Assoc.keys_erase, List.mem_filter]
      rcases h.active with hmem | he
      · exact .inl ⟨hmem, by simpa using hactive⟩
      · exact .inr he

theorem rename (h : s.Coherent) {old new : String} (file : VirtualFile)
    (hnew : new ∉ Assoc.keys s.files) : (s.renamed old new file).Coherent where
  named p hp := by
    obtain ⟨q, hq, rfl⟩ := List.mem_map.1 hp
    split
    · rfl
    · exact h.named q hq
  distinct := by
    rw [keys_renamed]
    refine h.distinct.map_on fun a ha b hb heq => ?_
    -- no file but the old one goes to the new name, which is free
    split at heq <;> split at heq
    · next ea eb => rw [ea, eb]
    · exact absurd (heq ▸ hb) hnew
    · exact absurd (heq ▸ ha) hnew
    · exact heq
  recorded name hname := by
    simp only [renamed, Assoc.keys_erase, List.mem_filter, decide_eq_true_eq] at hname
    have hmem := mem_keys_renamed old new file (h.recorded name hname.1)
    rwa [if_neg hname.2] at hmem
  active := by
    change (if s.active = old then new else s.active) ∈ _ ∨
      (if s.active = old then new else s.active) = if s.mainFile = old then new else s.mainFile
    rcases h.active with hmem | he
    · exact .inl (mem_keys_renamed old new file hmem)
    · exact .inr (by rw [he])

theorem compile (h : s.Coherent) {name : String} {file file' : VirtualFile} {report : Report}
    {history : List Call} (hfile : s.find? name = some file)
    (hrun : (s.compiler.compileFile file).run s.history = (.ok (report, file'), history)) :
    Coherent { s with
      files := Assoc.put name file' s.files
      errors := Assoc.put name report.errors s.errors
      history } where
  named p hp := by
    rcases Assoc.mem_put hp with rfl | hp
    · exact (s.compiler.compileFile_keeps_source file s.history hrun).1.trans (h.filename_eq hfile)
    · exact h.named p hp
  distinct := Assoc.nodup_keys_put h.distinct
  recorded other hother := by
    rw [Assoc.mem_keys_put] at hother ⊢
    exact hother.imp_right (h.recorded other)
  active := h.active.imp_left fun hmem => Assoc.mem_keys_put.2 (.inr hmem)

theorem change {s' : Store} (hchange : Change s s') (h : s.Coherent) : s'.Coherent := by
  cases hchange with
  | added name code => exact h.add name code
  | activated hfile =>
    refine { h with active := .inl ?_ }
    rw [h.filename_eq hfile]
    exact mem_keys_of_find? hfile
  | deleted => exact h.delete _
  | renamed hold hnew => exact h.rename _ hnew
  | refused hfile hf => exact { h with }
  | compiled hfile hrun => exact h.compile hfile hrun

end Coherent

theorem HasMain.change {s s' : Store} (hchange : Change s s') (h : s.HasMain) : s'.HasMain := by
  cases hchange with
  | added name code => exact Assoc.mem_keys_put.2 (.inr h)
  | activated => exact h
  | deleted hname hmain =>
    change s.mainFile ∈ Assoc.keys (Assoc.erase _ s.files)
    rw [Assoc.keys_erase, List.mem_filter]
    exact ⟨h, by simpa using hmain.symm⟩
  | renamed hold hnew => exact mem_keys_renamed _ _ _ h
  | refused => exact h
  | compiled hfile hrun => exact Assoc.mem_keys_put.2 (.inr h)

/-- Whatever is asked of a store and whichever requests fail, its names and records fit together.
There is no active file only as long as the main file is missing, and once the main file is there,
no request takes it away, under whatever name it goes on. -/
theorem afterAll_coherent (compiler : Compiler) (mainFile : String)
    (operations later : List Operation) :
    let s := (empty compiler mainFile).afterAll operations
    s.Coherent ∧ (s.activeFile = none → s.find? s.mainFile = none) ∧
      (s.find? s.mainFile ≠ none →
        (s.afterAll later).find? (s.afterAll later).mainFile ≠ none) := by
  intro s
  have h : s.Coherent :=
    afterAll_keeps Coherent.change (coherent_empty compiler mainFile) operations
  refine ⟨h, fun hnone => ?_, fun hmain => ?_⟩
  · have hactive := find?_eq_none_iff.1 hnone
    rw [← h.active.resolve_left hactive]
    exact hnone
  · have hs : s.HasMain := by
      rw [HasMain]
      exact Decidable.not_not.1 (mt find?_eq_none_iff.2 hmain)
    exact fun hnone => find?_eq_none_iff.1 hnone (afterAll_keeps HasMain.change hs later)

/-- Services that refuse a scope id to every name with `New` in it. Their parser knows one component,
whose template is in a language of its own. -/
def refusingNew : Compiler :=
  let refusal : RaiseOn :=
    { failure := { kind := "ValueError", argument := some "no id" }, mark := "New" }
  let services : ToolchainScript :=
    { parse := .ok { descriptor := { filename := "", template := some { lang := some "pug" } } }
      script := fun _ => .ok { content := "" }
      template := fun _ => .ok { code := "" }
      ids := { raises := some refusal } }
  { toolchain := services.toolchain }

/-- A main file that is missing is not active either, and one that is renamed stays, though the
compile after the rename raises and the new name is then asked to go. -/
theorem afterAll_coherent_refusingNew :
    let operations : List Operation := [.add "App.vue" "x", .rename "App.vue" "New.vue"]
    let later : List Operation := [.delete "New.vue", .compileAll]
    let missing := (empty refusingNew).afterAll []
    let moved := (empty refusingNew).afterAll operations
    (missing.activeFile = none ∧ missing.find? missing.mainFile = none) ∧
      moved.find? moved.mainFile ≠ none ∧
      (moved.afterAll later).find? (moved.afterAll later).mainFile ≠ none := by
  intro operations later missing moved
  have hmoved : moved.find? moved.mainFile ≠ none := by decide
  refine ⟨⟨rfl, ?_⟩, hmoved, ?_⟩
  · exact (afterAll_coherent refusingNew defaultMain [] later).2.1 rfl
  · exact (afterAll_coherent refusingNew defaultMain operations later).2.2 hmoved

end Playground.Store
