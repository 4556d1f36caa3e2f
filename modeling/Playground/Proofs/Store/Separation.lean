import Playground.Proofs.Store.Rename

namespace Playground

theorem Assoc.get?_map_rename_of_ne {β : Type} {old new other : String} (v : β)
    (m : List (String × β)) (hold : other ≠ old) (hnew : other ≠ new) :
    Assoc.get? other (m.map fun p => if p.1 = old then (new, v) else p) = Assoc.get? other m := by
  induction m with
  | nil => rfl
  | cons p m ih =>
    obtain ⟨name, w⟩ := p
    rw [List.map_cons]
    by_cases hname : name = old
    · have hskip : name ≠ other := fun he => hold (he ▸ hname)
      simp only [hname, if_true, Assoc.get?, Ne.symm hnew, if_false]
      rw [if_neg (hname ▸ hskip)]
      exact ih
    · simp only [hname, if_false, Assoc.get?]
      rw [ih]

/-- The file that a request is aimed at. To compile all files is aimed at none of them. -/
def Operation.target? : Operation → Option String
  | .add name _ | .setActive name | .delete name | .rename name _ | .compile name => some name
  | .compileAll => none

namespace Store

/-- Two stores hold the same file and the same errors under a name, or both hold none. -/
def SameFor (name : String) (s s' : Store) : Prop :=
  s'.find? name = s.find? name ∧ Assoc.get? name s'.errors = Assoc.get? name s.errors

/-- The names of the files in their order after a request, whether it fails or not. A new file comes
last, and one that is renamed keeps its place. -/
def namesAfter (s : Store) : Operation → List String
  | .add name _ =>
    if name ∈ Assoc.keys s.files then Assoc.keys s.files else Assoc.keys s.files ++ [name]
  | .delete name =>
    if name = s.mainFile then Assoc.keys s.files else (Assoc.keys s.files).filter (· ≠ name)
  | .rename old new =>
    if new ∈ Assoc.keys s.files then Assoc.keys s.files
    else (Assoc.keys s.files).map fun name => if name = old then new else name
  | .setActive _ | .compile _ | .compileAll => Assoc.keys s.files

namespace SameFor

variable {name other : String} {s s' s'' : Store}

theorem refl (name : String) (s : Store) : SameFor name s s := ⟨rfl, rfl⟩

theorem trans (h : SameFor name s s') (h' : SameFor name s' s'') : SameFor name s s'' :=
  ⟨h'.1.trans h.1, h'.2.trans h.2⟩

theorem add (hne : other ≠ name) (s : Store) (code : String) :
    SameFor other s (s.add name code) := by
  refine ⟨?_, rfl⟩
  unfold find? Store.add
  rw [Assoc.get?_put, if_neg (Ne.symm hne)]

theorem delete (hne : other ≠ name) (s : Store) (active : String) :
    SameFor other s { s with
      files := Assoc.erase name s.files
      errors := Assoc.erase name s.errors
      active } := by
  unfold SameFor find?
  rw [Assoc.get?_erase, Assoc.get?_erase, if_neg (Ne.symm hne), if_neg (Ne.symm hne)]
  exact ⟨rfl, rfl⟩

theorem compile (hne : other ≠ name) (s : Store) : SameFor other s (s.compile name).2 := by
  rcases s.compile_cases name with ⟨-, h⟩ | ⟨file, -, ⟨f, -, h⟩ | ⟨-, report, file', history, -, h⟩⟩
  · rw [h]
    exact refl other s
  · rw [h]
    exact refl other s
  · rw [h]
    unfold SameFor find?
    rw [Assoc.get?_put, Assoc.get?_put, if_neg (Ne.symm hne), if_neg (Ne.symm hne)]
    exact ⟨rfl, rfl⟩

theorem renamed {old new : String} (hold : other ≠ old) (hnew : other ≠ new) (s : Store)
    (file : VirtualFile) : SameFor other s (s.renamed old new file) := by
  constructor
  · exact Assoc.get?_map_rename_of_ne { file with filename := new } s.files hold hnew
  · change Assoc.get? other (Assoc.erase old s.errors) = _
    rw [Assoc.get?_erase, if_neg (Ne.symm hold)]

theorem rename {old : String} (hold : other ≠ old) (hother : other ∈ Assoc.keys s.files)
    (new : String) : SameFor other s (s.rename old new).2 := by
  rcases s.rename_cases old new with ⟨-, h⟩ | ⟨-, -, h⟩ | ⟨file, -, hnew, h⟩
  · rw [h]
    exact refl other s
  · rw [h]
    exact refl other s
  · rw [h]
    -- the new name is free, so it is not that of the other file
    have hne : other ≠ new := fun he => hnew (he ▸ hother)
    exact (renamed hold hne s file).trans (compile hne _)

end SameFor

theorem keys_compile (s : Store) (name : String) :
    Assoc.keys (s.compile name).2.files = Assoc.keys s.files := by
  rcases s.compile_cases name with
    ⟨-, h⟩ | ⟨file, hfile, ⟨f, -, h⟩ | ⟨-, report, file', history, -, h⟩⟩
  · rw [h]
  · rw [h]
  · rw [h]
    change Assoc.keys (Assoc.put name file' s.files) = _
    rw [Assoc.keys_put, if_pos (mem_keys_of_find? hfile)]

theorem keys_rename (s : Store) (old new : String) :
    Assoc.keys (s.rename old new).2.files =
      if new ∈ Assoc.keys s.files then Assoc.keys s.files
      else (Assoc.keys s.files).map fun name => if name = old then new else name := by
  rcases s.rename_cases old new with ⟨hnew, h⟩ | ⟨hnew, hold, h⟩ | ⟨file, -, hnew, h⟩
  · rw [h, if_pos hnew]
  · rw [h, if_neg hnew]
    have hmissing := find?_eq_none_iff.1 hold
    have hkept : ∀ name ∈ Assoc.keys s.files, (if name = old then new else name) = name :=
      fun name hname => if_neg fun he : name = old => hmissing (he ▸ hname)
    rw [List.map_congr_left hkept, List.map_id']
  · rw [h, if_neg hnew, keys_compile, keys_renamed]

theorem delete_eq_error {s : Store} {name : String} {e : StoreError}
    (h : s.delete name = .error e) :
    (name = s.mainFile ∧ e = .isMain name) ∨ (name ∉ Assoc.keys s.files ∧ e = .unknown name) := by
  unfold delete at h
  by_cases hmain : name = s.mainFile
  · rw [if_pos hmain] at h
    cases h
    exact .inl ⟨hmain, rfl⟩
  · rw [if_neg hmain] at h
    cases hget : s.get name with
    | ok file =>
      rw [hget] at h
      cases h
    | error e' =>
      obtain ⟨hnone, rfl⟩ := get_eq_error_iff.1 hget
      rw [hget] at h
      cases h
      exact .inr ⟨find?_eq_none_iff.1 hnone, rfl⟩

theorem keys_delete (s : Store) (name : String) :
    Assoc.keys (s.settle (s.delete name)).2.files =
      if name = s.mainFile then Assoc.keys s.files
      else (Assoc.keys s.files).filter (· ≠ name) := by
  cases hdelete : s.delete name with
  | ok s' =>
    obtain ⟨-, hmain, rfl⟩ := delete_eq_ok hdelete
    rw [if_neg hmain]
    exact Assoc.keys_erase name s.files
  | error e =>
    change Assoc.keys s.files = _
    rcases delete_eq_error hdelete with ⟨hmain, -⟩ | ⟨hmissing, -⟩
    · rw [if_pos hmain]
    · have hkept : ∀ other ∈ Assoc.keys s.files, decide (other ≠ name) = true :=
        fun other hother => decide_eq_true fun he => hmissing (he ▸ hother)
      rw [List.filter_eq_self.2 hkept, ite_self]

theorem settle_setActive (s : Store) (name : String) :
    (s.settle (s.setActive name)).2.files = s.files ∧
      (s.settle (s.setActive name)).2.errors = s.errors := by
  cases hactive : s.setActive name with
  | ok s' =>
    obtain ⟨file, -, rfl⟩ := setActive_eq_ok hactive
    exact ⟨rfl, rfl⟩
  | error e => exact ⟨rfl, rfl⟩

/-- A request that is aimed at one file leaves all that a store holds for the other files, and their
order, though the services may answer anything and the request may fail. -/
theorem perform_leaves_others (s : Store) (operation : Operation) {name : String}
    (htarget : operation.target? = some name) :
    let s' := (s.perform operation).2
    (∀ other ∈ Assoc.keys s.files, other ≠ name → SameFor other s s') ∧
      Assoc.keys s'.files = s.namesAfter operation := by
  cases operation with
  | add name' code =>
    cases htarget
    exact ⟨fun other _ hne => .add hne s code, Assoc.keys_put name _ s.files⟩
  | setActive name' =>
    obtain ⟨hfiles, herrors⟩ := s.settle_setActive name'
    refine ⟨fun other _ _ => ⟨?_, ?_⟩, ?_⟩
    · exact congrArg (Assoc.get? other) hfiles
    · exact congrArg (Assoc.get? other) herrors
    · exact congrArg Assoc.keys hfiles
  | delete name' =>
    cases htarget
    refine ⟨fun other _ hne => ?_, s.keys_delete name⟩
    change SameFor other s (s.settle (s.delete name)).2
    cases hdelete : s.delete name with
    | ok s' =>
      obtain ⟨-, -, rfl⟩ := delete_eq_ok hdelete
      exact .delete hne s _
    | error e => exact .refl other s
  | rename old new =>
    cases htarget
    exact ⟨fun other hother hne => .rename hne hother new, s.keys_rename name new⟩
  | compile name' =>
    cases htarget
    exact ⟨fun other _ hne => .compile hne s, s.keys_compile name⟩
  | compileAll => cases htarget

/-- The rename that raises moves its file and leaves the one behind it. -/
theorem perform_leaves_others_raising :
    let s := pugStore.afterAll [.add "Side.vue" "p", .compile "Side.vue"]
    let request : Operation := .rename "App.vue" "New.vue"
    request.target? = some "App.vue" ∧ (s.perform request).1.toOption = none ∧
      "Side.vue" ∈ Assoc.keys s.files ∧ SameFor "Side.vue" s (s.perform request).2 ∧
      Assoc.keys (s.perform request).2.files = ["New.vue", "Side.vue"] := by
  intro s request
  have htarget : request.target? = some "App.vue" := rfl
  have hside : "Side.vue" ∈ Assoc.keys s.files := by decide
  obtain ⟨hothers, hnames⟩ := perform_leaves_others s request htarget
  exact ⟨htarget, rfl, hside, hothers "Side.vue" hside (by decide), hnames⟩

end Store

end Playground
