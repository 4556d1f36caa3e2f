import Mathlib.Data.List.Basic
import Playground.Proofs.Value.Object
import Playground.Value.Merge

namespace Playground

/-- What a key holds after a merge, from what it held before and what the overrides hold under
it. -/
def mergeHeld (held : Option Value) : Option Value → Option Value
  | none => held
  | some (.map inner) =>
    match held with
    | some (.map current) => some (.map (mergeFields current inner))
    | _ => some (.map inner)
  | some v => some v

@[simp] theorem mergeHeld_none (held : Option Value) : mergeHeld held none = held := rfl

theorem mergeHeld_of_not_map {v : Value} (hv : v.isMap = false) (held : Option Value) :
    mergeHeld held (some v) = some v := by
  cases v <;> first | rfl | cases hv

/-- A value that is no map, or is merged into none, is taken as it is. -/
theorem mergeHeld_of_no_maps {held : Option Value} {v : Value}
    (hno : ∀ inner current, v = .map inner → held = some (.map current) → False) :
    mergeHeld held (some v) = some v := by
  cases hv : v.isMap with
  | false => exact mergeHeld_of_not_map hv held
  | true =>
    obtain ⟨inner, rfl⟩ := Value.isMap_eq_true_iff.1 hv
    cases held with
    | none => rfl
    | some w => cases w <;> first | rfl | exact (hno inner _ rfl rfl).elim

theorem mergeHeld_over_not_map {w : Value} (hw : w.isMap = false) (v : Value) :
    mergeHeld (some w) (some v) = some v := by
  refine mergeHeld_of_no_maps fun _ current _ hheld => ?_
  rw [Option.some.inj hheld] at hw
  cases hw

theorem mergeFields_cons (base : Fields) (k : Key) (v : Value) (overrides : Fields) :
    ∃ merged, mergeHeld (Assoc.get? k base) (some v) = some merged ∧
      mergeFields base ((k, v) :: overrides) = mergeFields (Assoc.put k merged base) overrides := by
  by_cases hmaps : ∃ inner current, v = .map inner ∧ Assoc.get? k base = some (.map current)
  · obtain ⟨inner, current, rfl, hheld⟩ := hmaps
    exact ⟨_, by rw [hheld]; rfl, mergeFields.eq_2 _ _ _ _ _ hheld⟩
  · have hno : ∀ inner current, v = .map inner → Assoc.get? k base = some (.map current) → False :=
      fun inner current hv hheld => hmaps ⟨inner, current, hv, hheld⟩
    exact ⟨v, mergeHeld_of_no_maps hno, mergeFields.eq_3 _ _ _ _ hno⟩

/-- Each key is merged on its own. -/
theorem get?_mergeFields {base overrides : Fields} (hn : (Assoc.keys overrides).Nodup) (k : Key) :
    Assoc.get? k (mergeFields base overrides) =
      mergeHeld (Assoc.get? k base) (Assoc.get? k overrides) := by
  induction overrides generalizing base with
  | nil =>
    rw [mergeFields]
    rfl
  | cons p overrides ih =>
    obtain ⟨a, v⟩ := p
    obtain ⟨hnew, hrest⟩ := List.nodup_cons.1 hn
    obtain ⟨merged, hmerged, hstep⟩ := mergeFields_cons base a v overrides
    rw [hstep, ih hrest, Assoc.get?_put]
    by_cases ha : a = k
    · subst ha
      rw [if_pos rfl, Assoc.get?_eq_none_iff.2 hnew, mergeHeld_none, Assoc.get?, if_pos rfl,
        hmerged]
    · rw [if_neg ha, Assoc.get?, if_neg ha]

/-- The keys of the base stay where they are, and new ones come behind them in their own order. -/
theorem keys_mergeFields {base overrides : Fields} (hn : (Assoc.keys overrides).Nodup) :
    Assoc.keys (mergeFields base overrides) =
      Assoc.keys base ++ (Assoc.keys overrides).filter (· ∉ Assoc.keys base) := by
  induction overrides generalizing base with
  | nil =>
    rw [mergeFields]
    simp [Assoc.keys]
  | cons p overrides ih =>
    obtain ⟨a, v⟩ := p
    obtain ⟨hnew, hrest⟩ := List.nodup_cons.1 hn
    obtain ⟨merged, -, hstep⟩ := mergeFields_cons base a v overrides
    have hcons : Assoc.keys ((a, v) :: overrides) = a :: Assoc.keys overrides := rfl
    rw [hstep, ih hrest, Assoc.keys_put, hcons, List.filter_cons]
    by_cases ha : a ∈ Assoc.keys base
    · simp only [ha, if_true, not_true_eq_false, decide_false, Bool.false_eq_true, if_false]
    · -- the key that was just added is new to none of the keys after it
      have hsame : (Assoc.keys overrides).filter (· ∉ Assoc.keys base ++ [a]) =
          (Assoc.keys overrides).filter (· ∉ Assoc.keys base) := by
        refine List.filter_congr fun k hk => ?_
        have hne : k ≠ a := fun e => hnew (e ▸ hk)
        simp [hne]
      simp only [ha, if_false, not_false_eq_true, decide_true, if_true, hsame, List.append_assoc,
        List.singleton_append]

theorem nodup_keys_mergeFields {base overrides : Fields} (hb : (Assoc.keys base).Nodup)
    (hn : (Assoc.keys overrides).Nodup) : (Assoc.keys (mergeFields base overrides)).Nodup := by
  rw [keys_mergeFields hn, List.nodup_append]
  refine ⟨hb, hn.filter _, fun k hk k' hk' e => ?_⟩
  have hnew := (List.mem_filter.1 hk').2
  rw [decide_eq_true_eq, ← e] at hnew
  exact hnew hk

@[simp] theorem mergeFields_nil_right (base : Fields) : mergeFields base [] = base := by
  rw [mergeFields]

theorem mergeFields_nil_left {fields : Fields} (hn : (Assoc.keys fields).Nodup) :
    mergeFields [] fields = fields := by
  have hkeys : Assoc.keys (mergeFields [] fields) = Assoc.keys fields := by
    rw [keys_mergeFields hn]
    simp [Assoc.keys]
  refine Assoc.eq_of_get? (hkeys ▸ hn) hkeys fun k => ?_
  rw [get?_mergeFields hn]
  cases Assoc.get? k fields with
  | none => rfl
  | some v => cases v <;> rfl

/-- A map is always merged into the map that is there, which may be empty. -/
theorem mergeHeld_map {inner : Fields} (hn : (Assoc.keys inner).Nodup) (held : Option Value) :
    mergeHeld held (some (.map inner)) = some (.map (mergeFields (heldMap held) inner)) := by
  unfold heldMap
  split
  · rfl
  · next hno =>
    rw [mergeFields_nil_left hn]
    exact mergeHeld_of_no_maps fun _ current _ hheld => hno current hheld

/-- What was merged in once is there, and merging it in again changes nothing. -/
theorem mergeFields_idem {a b : Fields} (ha : a.isObject = true) (hb : b.isObject = true) :
    mergeFields (mergeFields a b) b = mergeFields a b := by
  induction b using Fields.inner_induction generalizing a with
  | step b ih =>
    have hn := Fields.nodup_keys_of_isObject hb
    have hmerged := nodup_keys_mergeFields (Fields.nodup_keys_of_isObject ha) hn
    have hkeys : Assoc.keys (mergeFields (mergeFields a b) b) = Assoc.keys (mergeFields a b) := by
      rw [keys_mergeFields hn, keys_mergeFields hn, List.append_right_eq_self,
        List.filter_eq_nil_iff]
      intro k hk
      by_cases hold : k ∈ Assoc.keys a <;> simp [hk, hold]
    refine Assoc.eq_of_get? (hkeys ▸ hmerged) hkeys fun k => ?_
    rw [get?_mergeFields hn, get?_mergeFields hn]
    cases hk : Assoc.get? k b with
    | none => rfl
    | some v =>
      cases hv : v.isMap with
      | false => rw [mergeHeld_of_not_map hv, mergeHeld_of_not_map hv]
      | true =>
        obtain ⟨inner, rfl⟩ := Value.isMap_eq_true_iff.1 hv
        have hinner := Fields.isObject_of_get? hb hk
        have hinnerKeys := Fields.nodup_keys_of_isObject hinner
        rw [mergeHeld_map hinnerKeys, mergeHeld_map hinnerKeys]
        have hagain := ih k inner hk (Fields.isObject_heldMap ha k) hinner
        exact congrArg (fun fields => some (Value.map fields)) hagain

theorem isText_of_mergeFields {a b : Fields} (ha : ∀ k ∈ Assoc.keys a, k.isText = true)
    (hb : b.isObject = true) : ∀ k ∈ Assoc.keys (mergeFields a b), k.isText = true := by
  intro k hk
  rw [keys_mergeFields (Fields.nodup_keys_of_isObject hb)] at hk
  rcases List.mem_append.1 hk with hk | hk
  · exact ha k hk
  · exact Fields.isText_of_isObject hb (List.mem_of_mem_filter hk)

/-- Objects merge to an object. -/
theorem isObject_mergeFields {a b : Fields} (ha : a.isObject = true) (hb : b.isObject = true) :
    (mergeFields a b).isObject = true := by
  induction b using Fields.inner_induction generalizing a with
  | step b ih =>
    have hn := Fields.nodup_keys_of_isObject hb
    refine Fields.isObject_of_held
      (isText_of_mergeFields (fun k hk => Fields.isText_of_isObject ha hk) hb)
      (nodup_keys_mergeFields (Fields.nodup_keys_of_isObject ha) hn) fun k v hk => ?_
    rw [get?_mergeFields hn] at hk
    cases hB : Assoc.get? k b with
    | none =>
      rw [hB, mergeHeld_none] at hk
      exact Fields.holdsObject_of_get? ha hk
    | some w =>
      rw [hB] at hk
      cases hw : w.isMap with
      | false =>
        rw [mergeHeld_of_not_map hw] at hk
        obtain rfl := Option.some.inj hk
        exact Fields.holdsObject_of_get? hb hB
      | true =>
        obtain ⟨inner, rfl⟩ := Value.isMap_eq_true_iff.1 hw
        have hinner := Fields.isObject_of_get? hb hB
        rw [mergeHeld_map (Fields.nodup_keys_of_isObject hinner)] at hk
        obtain rfl := Option.some.inj hk
        have hmerged := ih k inner hB (Fields.isObject_heldMap ha k) hinner
        simpa [Value.holdsObject] using hmerged

end Playground
