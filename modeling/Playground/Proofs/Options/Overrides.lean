import Playground.Proofs.Options.Stages

namespace Playground

variable {α β σ : Type}

/-- The reading of what a record holds under a key. -/
def Setting.ofHeld (name : String) (default : α) (f : Value → Checked α) : Option Value → Checked α
  | none => .ok default
  | some v => Checked.inField name (f v)

theorem Setting.field_eq_ofHeld (name : String) (default : α) (f : Value → Checked α)
    (fields : Fields) :
    field name default f fields = ofHeld name default f (Fields.get? name fields) := by
  unfold field ofHeld
  cases Fields.get? name fields <;> rfl

theorem mergeHeld_of_no_map {held : Option Value} (hheld : ∀ fields, held ≠ some (.map fields))
    (v : Value) : mergeHeld held (some v) = some v :=
  mergeHeld_of_no_maps fun _ current _ h => hheld current h

/-- The form of a stage that knows one setting. -/
def StageForm.single (name : String) (default : α) (f : Value → Checked α)
    (shown : α → Option Value) : StageForm α where
  known := [name]
  read := Setting.field name default f
  shown a :=
    match shown a with
    | some v => [(.text name, v)]
    | none => []

def StageForm.scripts : StageForm (Option Bool) :=
  single "inline_template" none (Setting.optional Setting.truth) (·.map .bool)

/-- Entries are read one by one, and of two with one name the last stays. -/
def readEntries (v : Value) : Checked Fields :=
  (Setting.entries Setting.text .ok v).map fun m => (Assoc.ofPairs m).map fun p => (.text p.1, p.2)

def StageForm.templates : StageForm Fields :=
  single "compiler_options" [] readEntries fun fields => some (.map fields)

def StageForm.styles : StageForm Unit where
  known := []
  read _ := .ok ()
  shown _ := []

namespace StageForm

section Single

variable {name : String} {default : α} {f : Value → Checked α} {shown : α → Option Value}

theorem get?_shown_single (a : α) :
    Assoc.get? (.text name) ((single name default f shown).shown a) = shown a := by
  unfold single
  dsimp only
  split
  · next hv => rw [hv, Assoc.get?, if_pos rfl]
  · next hnone => rw [hnone, Assoc.get?]

/-- A stage with one known setting is lawful as soon as merging over the setting as it is written
down is like merging over the setting as it was read. -/
theorem lawful_single (hplain : Text.hasHalf name = false)
    (hheld : ∀ held new a, (∀ v, held = some v → v.holdsObject = true) →
      (∀ v, new = some v → v.holdsObject = true) → Setting.ofHeld name default f held = .ok a →
      Setting.ofHeld name default f (mergeHeld (shown a) new) =
        Setting.ofHeld name default f (mergeHeld held new)) :
    (single name default f shown).Lawful where
  plain name' hname' := by
    rw [List.mem_singleton.1 hname']
    exact hplain
  shown_known a k hk := by
    refine ⟨name, List.mem_singleton.2 rfl, ?_⟩
    unfold single at hk
    dsimp only at hk
    split at hk
    · exact List.mem_singleton.1 hk
    · cases hk
  shown_nodup a := by
    unfold single
    dsimp only
    split
    · exact List.nodup_singleton _
    · exact List.nodup_nil
  merged fields overrides a hf ho hread := by
    have hn := Fields.nodup_keys_of_isObject ho
    have hother : Assoc.get? (.text name) (dropNulls (unknownTo [name] fields)) = none := by
      have hnone : Assoc.get? (.text name) (unknownTo [name] fields) = none := by
        rw [get?_unknownTo, if_pos ⟨name, List.mem_singleton.2 rfl, rfl⟩]
      exact Assoc.get?_eq_none_iff.2 fun hmem =>
        Assoc.get?_eq_none_iff.1 hnone (keys_dropNulls_sublist.subset hmem)
    have hwritten : Assoc.get? (.text name)
        ((single name default f shown).fields (a, unknownTo [name] fields)) = shown a := by
      rw [StageForm.fields, Assoc.get?_append, get?_shown_single, hother, Option.or_none]
    change Setting.field name default f _ = Setting.field name default f _
    change Setting.field name default f fields = .ok a at hread
    rw [Setting.field_eq_ofHeld] at hread
    rw [Setting.field_eq_ofHeld, Setting.field_eq_ofHeld, Fields.get?, Fields.get?,
      get?_mergeFields hn, get?_mergeFields hn]
    rw [show (single name default f shown).known = [name] from rfl, hwritten]
    exact hheld _ _ a (fun v hv => Fields.holdsObject_of_get? hf hv)
      (fun v hv => Fields.holdsObject_of_get? ho hv) hread

end Single

theorem lawful_scripts : scripts.Lawful := by
  refine lawful_single (by decide) fun held new a _ _ hread => ?_
  -- what was read as a truth value, or as none, is no map
  have hheld : ∀ fields, held ≠ some (.map fields) := by
    rintro fields rfl
    cases hread
  have hshown : ∀ fields, a.map Value.bool ≠ some (.map fields) := by
    cases a <;> nofun
  cases new with
  | none =>
    rw [mergeHeld_none, mergeHeld_none, hread]
    cases a <;> rfl
  | some v => rw [mergeHeld_of_no_map hheld, mergeHeld_of_no_map hshown]

theorem exists_pairs {fields : Fields} (htext : ∀ k ∈ Assoc.keys fields, k.isText = true) :
    ∃ pairs : List (String × Value), fields = pairs.map fun p => (.text p.1, p.2) := by
  induction fields with
  | nil => exact ⟨[], rfl⟩
  | cons p fields ih =>
    obtain ⟨k, v⟩ := p
    obtain ⟨pairs, rfl⟩ := ih fun k hk => htext k (List.mem_cons_of_mem _ hk)
    have hk := htext k List.mem_cons_self
    cases k with
    | text s => exact ⟨(s, v) :: pairs, rfl⟩
    | _ => cases hk

/-- The entries of an object are read as they are. -/
theorem readEntries_map {fields : Fields} (h : fields.isObject = true) :
    readEntries (.map fields) = .ok fields := by
  obtain ⟨pairs, rfl⟩ := exists_pairs fun k hk => Fields.isText_of_isObject h hk
  have hread : Setting.entries Setting.text .ok (.map (pairs.map fun p => (Key.text p.1, p.2))) =
      .ok pairs := by
    clear h
    change Checked.each (Setting.entry Setting.text .ok Setting.keyValue) _ = _
    induction pairs with
    | nil => rfl
    | cons p pairs ih =>
      rw [List.map_cons, Checked.each, ih]
      rfl
  have hkeys : Assoc.keys (pairs.map fun p => (Key.text p.1, p.2)) =
      (Assoc.keys pairs).map Key.text := by
    simp [Assoc.keys]
  have hn : (Assoc.keys pairs).Nodup := by
    have hn := Fields.nodup_keys_of_isObject h
    rw [hkeys] at hn
    exact hn.of_map _
  have hpairs : Assoc.ofPairs pairs = pairs := Assoc.putAll_eq_append hn
  rw [readEntries, hread]
  change Except.ok ((Assoc.ofPairs pairs).map fun p => (Key.text p.1, p.2)) = _
  rw [hpairs]

theorem lawful_templates : templates.Lawful := by
  refine lawful_single (by decide) fun held new a hobject hnew hread => ?_
  cases held with
  | none =>
    obtain rfl : [] = a := Except.ok.inj hread
    cases new with
    | none => rfl
    | some v =>
      cases hmap : v.isMap with
      | false => rw [mergeHeld_of_not_map hmap, mergeHeld_of_not_map hmap]
      | true =>
        obtain ⟨fields, rfl⟩ := Value.isMap_eq_true_iff.1 hmap
        have hfields : Fields.isObject fields = true := by
          simpa [Value.holdsObject] using hnew _ rfl
        have hn := Fields.nodup_keys_of_isObject hfields
        rw [mergeHeld_map hn, mergeHeld_map hn]
        rfl
  | some v =>
    cases v with
    | map fields =>
      have hfields : Fields.isObject fields = true := by
        simpa [Value.holdsObject] using hobject _ rfl
      rw [Setting.ofHeld, readEntries_map hfields] at hread
      obtain rfl := Except.ok.inj hread
      rfl
    | _ => cases hread

theorem lawful_styles : styles.Lawful where
  plain _ h := nomatch h
  shown_known _ _ h := nomatch h
  shown_nodup _ := List.nodup_nil
  merged _ _ _ _ _ _ := rfl

end StageForm

end Playground
