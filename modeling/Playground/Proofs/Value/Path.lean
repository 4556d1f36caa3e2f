import Playground.Proofs.Value.Object

namespace Playground

namespace Value

/-- What stands at the end of a path of keys. -/
def at? : List Key → Value → Option Value
  | [], v => some v
  | k :: path, .map fields => (Assoc.get? k fields).bind (at? path)
  | _ :: _, _ => none

/-- The value with another one at the end of a path. A path that leaves the maps ends there. -/
def setAt : List Key → Value → Value → Value
  | [], new, _ => new
  | k :: path, new, .map fields =>
    .map (Assoc.put k (setAt path new ((Assoc.get? k fields).getD .null)) fields)
  | _ :: _, _, v => v

/-- The path goes on where a value is that is no map. -/
def Blocks (v : Value) (path : List Key) : Prop :=
  ∃ start w, start <+: path ∧ start ≠ path ∧ v.at? start = some w ∧ w.isMap = false

variable {v new : Value} {fields : Fields} {k : Key} {path : List Key}

@[simp] theorem at?_nil (v : Value) : v.at? [] = some v := by
  cases v <;> rfl

@[simp] theorem at?_map_cons :
    (map fields).at? (k :: path) = (Assoc.get? k fields).bind (at? path) := rfl

theorem at?_cons_of_not_map (hv : v.isMap = false) : v.at? (k :: path) = none := by
  cases v <;> first | rfl | cases hv

theorem at?_setAt {old : Value} (h : v.at? path = some old) :
    (setAt path new v).at? path = some new := by
  induction path generalizing v with
  | nil => exact at?_nil new
  | cons k path ih =>
    cases hv : v.isMap with
    | false =>
      rw [at?_cons_of_not_map hv] at h
      cases h
    | true =>
      obtain ⟨fields, rfl⟩ := isMap_eq_true_iff.1 hv
      obtain ⟨w, hw, hat⟩ := Option.bind_eq_some_iff.1 h
      rw [setAt, at?_map_cons, Assoc.get?_put, if_pos rfl, hw]
      exact ih hat

theorem not_blocks_nil : ¬ v.Blocks [] := by
  rintro ⟨start, w, hstart, hne, -⟩
  exact hne (List.prefix_nil.1 hstart)

theorem blocks_cons_of_not_map (hv : v.isMap = false) : v.Blocks (k :: path) :=
  ⟨[], v, List.nil_prefix, nofun, at?_nil v, hv⟩

theorem blocks_map_cons_iff :
    (map fields).Blocks (k :: path) ↔ ∃ v, Assoc.get? k fields = some v ∧ v.Blocks path := by
  constructor
  · rintro ⟨start, w, hstart, hne, hat, hw⟩
    cases start with
    | nil =>
      obtain rfl := Option.some.inj hat
      cases hw
    | cons k' start =>
      obtain ⟨rfl, hrest⟩ := List.cons_prefix_cons.1 hstart
      obtain ⟨v, hv, hbehind⟩ := Option.bind_eq_some_iff.1 hat
      exact ⟨v, hv, start, w, hrest, fun e => hne (congrArg _ e), hbehind, hw⟩
  · rintro ⟨v, hv, start, w, hstart, hne, hat, hw⟩
    refine ⟨k :: start, w, List.cons_prefix_cons.2 ⟨rfl, hstart⟩, ?_, ?_, hw⟩
    · exact fun e => hne (List.cons.inj e).2
    · rw [at?_map_cons, hv]
      exact hat

/-- Nothing stands behind a value that is no map. -/
theorem Blocks.at?_eq_none (h : v.Blocks path) : v.at? path = none := by
  induction path generalizing v with
  | nil => exact (not_blocks_nil h).elim
  | cons k path ih =>
    cases hv : v.isMap with
    | false => exact at?_cons_of_not_map hv
    | true =>
      obtain ⟨fields, rfl⟩ := isMap_eq_true_iff.1 hv
      obtain ⟨w, hw, hblocks⟩ := blocks_map_cons_iff.1 h
      rw [at?_map_cons, hw]
      exact ih hblocks

end Value

namespace Fields

def at? (path : List Key) (fields : Fields) : Option Value := Value.at? path (.map fields)

/-- The keys of the map at the end of a path, of which there are none if no map is there. -/
def keysAt (path : List Key) (fields : Fields) : List Key := Assoc.keys (heldMap (fields.at? path))

/-- The map with another value at the end of a path that is not empty. -/
def setAt (path : List Key) (new : Value) (fields : Fields) : Fields :=
  heldMap (some (Value.setAt path new (.map fields)))

def Blocks (fields : Fields) (path : List Key) : Prop := (Value.map fields).Blocks path

/-- A map that binds neither the path nor, to a value that is no map, any start of it. -/
def LeavesAlone (fields : Fields) (path : List Key) : Prop :=
  fields.at? path = none ∧
    ∀ start v, start <+: path → fields.at? start = some v → v.isMap = true

variable {fields : Fields} {path : List Key}

theorem leavesAlone_iff :
    fields.LeavesAlone path ↔ fields.at? path = none ∧ ¬ fields.Blocks path := by
  refine and_congr_right fun hnone => ⟨?_, fun hfree start v hstart hat => ?_⟩
  · rintro hmaps ⟨start, v, hstart, -, hat, hv⟩
    rw [hmaps start v hstart hat] at hv
    cases hv
  · rw [← Bool.not_eq_false]
    intro hv
    refine hfree ⟨start, v, hstart, ?_, hat, hv⟩
    rintro rfl
    rw [hnone] at hat
    cases hat

theorem at?_singleton (k : Key) (fields : Fields) : fields.at? [k] = Assoc.get? k fields := by
  rw [at?, Value.at?_map_cons]
  cases Assoc.get? k fields <;> simp

/-- A path that goes on is one through the map that is there. -/
theorem at?_heldMap_cons (held : Option Value) (k : Key) (path : List Key) :
    (heldMap held).at? (k :: path) = held.bind (Value.at? (k :: path)) := by
  cases held with
  | none => rfl
  | some v => cases v <;> rfl

/-- The maps in an object are objects, however deep. -/
theorem isObject_of_at? {inner : Fields} (h : fields.isObject = true)
    (hat : fields.at? path = some (.map inner)) : inner.isObject = true := by
  induction path generalizing fields with
  | nil =>
    cases hat
    exact h
  | cons k path ih =>
    obtain ⟨v, hv, hbehind⟩ := Option.bind_eq_some_iff.1 hat
    cases hmap : v.isMap with
    | true =>
      obtain ⟨current, rfl⟩ := Value.isMap_eq_true_iff.1 hmap
      exact ih (isObject_of_get? h hv) hbehind
    | false =>
      -- behind a value that is no map there is nothing, and it is no map itself
      cases path with
      | nil =>
        rw [Value.at?_nil] at hbehind
        rw [Option.some.inj hbehind] at hmap
        cases hmap
      | cons k' path =>
        rw [Value.at?_cons_of_not_map hmap] at hbehind
        cases hbehind

end Fields

end Playground
