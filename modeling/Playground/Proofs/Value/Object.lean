import Playground.Value.Basic

namespace Playground

def Key.isText : Key → Bool
  | .text _ => true
  | _ => false

def Value.isMap : Value → Bool
  | .map _ => true
  | _ => false

mutual

/-- A value that is no map, or an object. -/
def Value.holdsObject : Value → Bool
  | .map fields => Fields.isObject fields
  | _ => true

/-- The keys of an object are texts and no two of them are the same, and so it is with the maps in
it, however deep. -/
def Fields.isObject : Fields → Bool
  | [] => true
  | (k, v) :: fields =>
    k.isText && !Assoc.has k fields && v.holdsObject && Fields.isObject fields

end

/-- The map that a key holds, or an empty one. -/
def heldMap : Option Value → Fields
  | some (.map fields) => fields
  | _ => []

theorem Value.isMap_eq_true_iff {v : Value} : v.isMap = true ↔ ∃ fields, v = .map fields := by
  cases v <;> simp [isMap]

namespace Fields

variable {fields inner : Fields} {k : Key}

theorem isObject_cons {v : Value} :
    isObject ((k, v) :: fields) = true ↔
      k.isText = true ∧ k ∉ Assoc.keys fields ∧ v.holdsObject = true ∧ fields.isObject = true := by
  have hhas : Assoc.has k fields = false ↔ k ∉ Assoc.keys fields := by
    rw [← Assoc.has_iff, Bool.not_eq_true]
  simp [isObject, hhas, and_assoc]

theorem isText_of_isObject (h : fields.isObject = true) (hk : k ∈ Assoc.keys fields) :
    k.isText = true := by
  induction fields with
  | nil => cases hk
  | cons p fields ih =>
    obtain ⟨htext, -, -, hrest⟩ := isObject_cons.1 h
    rcases List.mem_cons.1 hk with rfl | hk
    · exact htext
    · exact ih hrest hk

theorem nodup_keys_of_isObject (h : fields.isObject = true) : (Assoc.keys fields).Nodup := by
  induction fields with
  | nil => exact List.nodup_nil
  | cons p fields ih =>
    obtain ⟨-, hnew, -, hrest⟩ := isObject_cons.1 h
    exact List.nodup_cons.2 ⟨hnew, ih hrest⟩

theorem holdsObject_of_get? {v : Value} (h : fields.isObject = true)
    (hk : Assoc.get? k fields = some v) : v.holdsObject = true := by
  induction fields with
  | nil => cases hk
  | cons p fields ih =>
    obtain ⟨a, w⟩ := p
    obtain ⟨-, -, hw, hrest⟩ := isObject_cons.1 h
    by_cases ha : a = k
    · rw [Assoc.get?, if_pos ha] at hk
      exact Option.some.inj hk ▸ hw
    · rw [Assoc.get?, if_neg ha] at hk
      exact ih hrest hk

/-- A map is an object as soon as its keys are good and what it holds under each is. -/
theorem isObject_of_held (htext : ∀ k ∈ Assoc.keys fields, k.isText = true)
    (hn : (Assoc.keys fields).Nodup)
    (hheld : ∀ k v, Assoc.get? k fields = some v → v.holdsObject = true) :
    fields.isObject = true := by
  induction fields with
  | nil => rfl
  | cons p fields ih =>
    obtain ⟨a, w⟩ := p
    obtain ⟨hnew, hrest⟩ := List.nodup_cons.1 hn
    have hw : w.holdsObject = true := hheld a w (if_pos rfl)
    refine isObject_cons.2 ⟨htext a List.mem_cons_self, hnew, hw, ?_⟩
    refine ih (fun k hk => htext k (List.mem_cons_of_mem _ hk)) hrest fun k v hk => ?_
    have hne : a ≠ k := by
      rintro rfl
      rw [Assoc.get?_eq_none_iff.2 hnew] at hk
      cases hk
    exact hheld k v ((if_neg hne).trans hk)

/-- The maps in an object are objects. -/
theorem isObject_of_get? (h : fields.isObject = true)
    (hk : Assoc.get? k fields = some (.map inner)) : inner.isObject = true := by
  simpa [Value.holdsObject] using holdsObject_of_get? h hk

theorem isObject_heldMap (h : fields.isObject = true) (k : Key) :
    (heldMap (Assoc.get? k fields)).isObject = true := by
  unfold heldMap
  split
  · next inner hk => exact isObject_of_get? h hk
  · rfl

theorem sizeOf_of_get? (hk : Assoc.get? k fields = some (.map inner)) :
    sizeOf inner < sizeOf fields := by
  have hmem := List.sizeOf_lt_of_mem (Assoc.mem_of_get? hk)
  rw [Prod.mk.sizeOf_spec, Value.map.sizeOf_spec] at hmem
  omega

/-- What holds of a map as soon as it holds of all maps in it holds of every map. -/
theorem inner_induction {P : Fields → Prop}
    (step : ∀ fields, (∀ k inner, Assoc.get? k fields = some (.map inner) → P inner) → P fields)
    (fields : Fields) : P fields :=
  step fields fun _ inner hk =>
    have : sizeOf inner < sizeOf fields := sizeOf_of_get? hk
    inner_induction step inner
termination_by sizeOf fields

end Fields

end Playground
