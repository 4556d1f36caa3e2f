import Playground.Proofs.Value.Merge
import Playground.Proofs.Value.Path

namespace Playground

open Value (at?)

/-- A path in what a key holds after a merge. Behind a value that is no map nothing is left; where
the overrides let the path through, both sides are looked at, and merged where they meet. -/
theorem at?_mergeHeld (held : Option Value) {v : Value} (hv : v.holdsObject = true)
    (path : List Key) :
    (v.Blocks path → (mergeHeld held (some v)).bind (at? path) = none) ∧
    (¬ v.Blocks path → (mergeHeld held (some v)).bind (at? path) =
      mergeHeld (held.bind (at? path)) (v.at? path)) := by
  induction path generalizing held v with
  | nil =>
    refine ⟨fun hblocks => (Value.not_blocks_nil hblocks).elim, fun _ => ?_⟩
    have hself (o : Option Value) : o.bind (at? []) = o := by cases o <;> simp
    rw [hself, hself, Value.at?_nil]
  | cons k path ih =>
    cases hmap : v.isMap with
    | false =>
      rw [mergeHeld_of_not_map hmap]
      exact ⟨fun _ => Value.at?_cons_of_not_map hmap,
        fun hfree => (hfree (Value.blocks_cons_of_not_map hmap)).elim⟩
    | true =>
      obtain ⟨fields, rfl⟩ := Value.isMap_eq_true_iff.1 hmap
      have hobject : Fields.isObject fields = true := by simpa [Value.holdsObject] using hv
      have hn := Fields.nodup_keys_of_isObject hobject
      have hbase : held.bind (at? (k :: path)) =
          (Assoc.get? k (heldMap held)).bind (at? path) := (Fields.at?_heldMap_cons held k path).symm
      have hmerged : (mergeHeld held (some (.map fields))).bind (at? (k :: path)) =
          (mergeHeld (Assoc.get? k (heldMap held)) (Assoc.get? k fields)).bind (at? path) := by
        rw [mergeHeld_map hn, ← get?_mergeFields hn]
        rfl
      rw [hmerged, hbase, Value.blocks_map_cons_iff, Value.at?_map_cons]
      cases hk : Assoc.get? k fields with
      | none =>
        refine ⟨?_, fun _ => rfl⟩
        rintro ⟨v, hv, -⟩
        cases hv
      | some w =>
        have hw : w.holdsObject = true := Fields.holdsObject_of_get? hobject hk
        have hblocks : (∃ v, some w = some v ∧ v.Blocks path) ↔ w.Blocks path := by simp
        rw [hblocks]
        exact ih _ hw

/-- What a merge makes of one path. -/
structure MergesAt (a b : Fields) (path : List Key) : Prop where
  taken : ∀ v, b.at? path = some v → v.isMap = false → (mergeFields a b).at? path = some v
  joined : ∀ x y, a.at? path = some (.map x) → b.at? path = some (.map y) →
    (mergeFields a b).at? path = some (.map (mergeFields x y))
  replaced : ∀ y, b.at? path = some (.map y) → (∀ x, a.at? path ≠ some (.map x)) →
    (mergeFields a b).at? path = some (.map y)
  hidden : b.Blocks path → (mergeFields a b).at? path = none
  kept : b.LeavesAlone path → (mergeFields a b).at? path = a.at? path
  /-- Whatever the base is made to hold there comes through nowhere else. -/
  keptOnly : ∀ u, a.at? path = some u →
    ((∀ new, (mergeFields (a.setAt path new) b).at? path = some new) ↔ b.LeavesAlone path)
  keys : ∀ fields, (mergeFields a b).at? path = some (.map fields) →
    Assoc.keys fields = a.keysAt path ++ (b.keysAt path).filter (· ∉ a.keysAt path)

section Laws

variable {a b c : Fields}

theorem at?_mergeFields_of_blocks (hb : b.isObject = true) {path : List Key}
    (hblocks : b.Blocks path) : (mergeFields a b).at? path = none :=
  (at?_mergeHeld (some (.map a)) (v := .map b) hb path).1 hblocks

theorem at?_mergeFields (hb : b.isObject = true) {path : List Key} (hfree : ¬ b.Blocks path) :
    (mergeFields a b).at? path = mergeHeld (a.at? path) (b.at? path) :=
  (at?_mergeHeld (some (.map a)) (v := .map b) hb path).2 hfree

theorem not_blocks_of_at? {v : Value} {path : List Key} (hat : b.at? path = some v) :
    ¬ b.Blocks path := by
  intro hblocks
  have hnone : b.at? path = none := hblocks.at?_eq_none
  rw [hat] at hnone
  cases hnone

/-- What comes through where the overrides do not bind the path is the value of the base. -/
theorem comesThrough_iff (hb : b.isObject = true) {path : List Key} {u : Value}
    (hu : a.at? path = some u) :
    (∀ new, (mergeFields (a.setAt path new) b).at? path = some new) ↔ b.LeavesAlone path := by
  cases path with
  | nil =>
    refine ⟨fun hall => ?_, fun halone => ?_⟩
    · cases hall .null
    · cases halone.1
  | cons k path =>
    have hset (new : Value) : (a.setAt (k :: path) new).at? (k :: path) = some new :=
      Value.at?_setAt hu
    rw [Fields.leavesAlone_iff]
    constructor
    · intro hall
      have hfree : ¬ b.Blocks (k :: path) := by
        intro hblocks
        have hnull := hall .null
        rw [at?_mergeFields_of_blocks hb hblocks] at hnull
        cases hnull
      refine ⟨Option.eq_none_iff_forall_ne_some.2 fun v hv => ?_, hfree⟩
      -- what the overrides hold there cannot be both of two values
      have hover (new : Value) (hnew : new.isMap = false) : v = new := by
        have hall := hall new
        rw [at?_mergeFields hb hfree, hset, hv, mergeHeld_over_not_map hnew] at hall
        exact Option.some.inj hall
      cases (hover .null rfl).symm.trans (hover (.bool true) rfl)
    · rintro ⟨hnone, hfree⟩ new
      rw [at?_mergeFields hb hfree, hset, hnone, mergeHeld_none]

theorem mergesAt (hb : b.isObject = true) (path : List Key) : MergesAt a b path where
  taken v hv hmap := by
    rw [at?_mergeFields hb (not_blocks_of_at? hv), hv, mergeHeld_of_not_map hmap]
  joined x y hx hy := by
    rw [at?_mergeFields hb (not_blocks_of_at? hy), hx, hy]
    rfl
  replaced y hy hno := by
    rw [at?_mergeFields hb (not_blocks_of_at? hy), hy]
    exact mergeHeld_of_no_maps fun _ x _ hx => hno x hx
  hidden := at?_mergeFields_of_blocks hb
  kept halone := by
    obtain ⟨hnone, hfree⟩ := Fields.leavesAlone_iff.1 halone
    rw [at?_mergeFields hb hfree, hnone, mergeHeld_none]
  keptOnly _ := comesThrough_iff hb
  keys fields hfields := by
    have hfree : ¬ b.Blocks path := by
      intro hblocks
      rw [at?_mergeFields_of_blocks hb hblocks] at hfields
      cases hfields
    rw [at?_mergeFields hb hfree] at hfields
    unfold Fields.keysAt
    cases hat : b.at? path with
    | none =>
      rw [hat, mergeHeld_none] at hfields
      rw [hfields]
      simp [heldMap, Assoc.keys]
    | some v =>
      rw [hat] at hfields
      cases hmap : v.isMap with
      | false =>
        rw [mergeHeld_of_not_map hmap] at hfields
        rw [Option.some.inj hfields] at hmap
        cases hmap
      | true =>
        obtain ⟨y, rfl⟩ := Value.isMap_eq_true_iff.1 hmap
        have hn := Fields.nodup_keys_of_isObject (Fields.isObject_of_at? hb hat)
        rw [mergeHeld_map hn] at hfields
        cases hfields
        exact keys_mergeFields hn

/-- Maps of the outer two stand at a path where the middle one holds a value that is no map. -/
def ClashAt (a b c : Fields) (path : List Key) : Prop :=
  (∃ x, a.at? path = some (.map x)) ∧ (∃ v, b.at? path = some v ∧ v.isMap = false) ∧
    ∃ z, c.at? path = some (.map z)

/-- A clash in what is held under a key is a clash. -/
theorem ClashAt.cons {k : Key} {path : List Key}
    (h : ClashAt (heldMap (Assoc.get? k a)) (heldMap (Assoc.get? k b))
      (heldMap (Assoc.get? k c)) path) : ClashAt a b c (k :: path) := by
  cases path with
  | nil =>
    obtain ⟨-, ⟨v, hv, hmap⟩, -⟩ := h
    cases hv
    cases hmap
  | cons k' path =>
    unfold ClashAt at h
    rw [Fields.at?_heldMap_cons, Fields.at?_heldMap_cons, Fields.at?_heldMap_cons] at h
    exact h

/-- The keys that two merges bring in are new to all that came before. -/
theorem filter_not_mem_append (as bs cs : List Key) :
    cs.filter (· ∉ as ++ bs.filter (· ∉ as)) = (cs.filter (· ∉ bs)).filter (· ∉ as) := by
  rw [List.filter_filter]
  refine List.filter_congr fun k _ => ?_
  by_cases hk : k ∈ as <;> simp [hk]

/-- Overrides may be merged with each other first, unless that lets a map through to one that it
would not have met. -/
theorem mergeFields_assoc (ha : a.isObject = true) (hb : b.isObject = true)
    (hc : c.isObject = true) (hclash : ∀ path, ¬ ClashAt a b c path) :
    mergeFields (mergeFields a b) c = mergeFields a (mergeFields b c) := by
  induction c using Fields.inner_induction generalizing a b with
  | step c ih =>
    have hna := Fields.nodup_keys_of_isObject ha
    have hnb := Fields.nodup_keys_of_isObject hb
    have hnc := Fields.nodup_keys_of_isObject hc
    have hnbc := nodup_keys_mergeFields hnb hnc
    have hkeys : Assoc.keys (mergeFields (mergeFields a b) c) =
        Assoc.keys (mergeFields a (mergeFields b c)) := by
      rw [keys_mergeFields hnc, keys_mergeFields hnb, keys_mergeFields hnbc, keys_mergeFields hnc,
        filter_not_mem_append, List.filter_append, List.append_assoc]
    refine Assoc.eq_of_get? (nodup_keys_mergeFields (nodup_keys_mergeFields hna hnb) hnc) hkeys
      fun k => ?_
    rw [get?_mergeFields hnc, get?_mergeFields hnb, get?_mergeFields hnbc, get?_mergeFields hnc]
    cases hC : Assoc.get? k c with
    | none => rfl
    | some v =>
      cases hv : v.isMap with
      | false => simp only [mergeHeld_of_not_map hv]
      | true =>
        obtain ⟨z, rfl⟩ := Value.isMap_eq_true_iff.1 hv
        cases hB : Assoc.get? k b with
        | none => rfl
        | some w =>
          cases hw : w.isMap with
          | false =>
            have hno : ∀ x, Assoc.get? k a ≠ some (.map x) := by
              intro x hx
              refine hclash [k] ⟨⟨x, ?_⟩, ⟨w, ?_, hw⟩, ⟨z, ?_⟩⟩ <;> rwa [Fields.at?_singleton]
            rw [mergeHeld_of_not_map hw, mergeHeld_over_not_map hw,
              mergeHeld_of_no_maps fun _ x _ hx => hno x hx]
          | true =>
            obtain ⟨y, rfl⟩ := Value.isMap_eq_true_iff.1 hw
            have hy := Fields.isObject_of_get? hb hB
            have hz := Fields.isObject_of_get? hc hC
            have hny := Fields.nodup_keys_of_isObject hy
            have hnz := Fields.nodup_keys_of_isObject hz
            have hinner := ih k z hC (Fields.isObject_heldMap ha k) hy hz fun path hbelow => by
              refine hclash (k :: path) (ClashAt.cons ?_)
              rw [hB, hC]
              exact hbelow
            calc mergeHeld (mergeHeld (Assoc.get? k a) (some (.map y))) (some (.map z))
                = some (.map (mergeFields (mergeFields (heldMap (Assoc.get? k a)) y) z)) := by
                  rw [mergeHeld_map hny, mergeHeld_map hnz]
                  rfl
              _ = some (.map (mergeFields (heldMap (Assoc.get? k a)) (mergeFields y z))) := by
                  rw [hinner]
              _ = mergeHeld (Assoc.get? k a) (mergeHeld (some (.map y)) (some (.map z))) := by
                  exact (mergeHeld_map (nodup_keys_mergeFields hny hnz) _).symm

/-- Merging as an algebra. To merge the same overrides again changes nothing. Along a path the
overrides win with all values but maps, maps are joined, and what the base holds comes through where
the overrides do not bind the path and let it pass, and nowhere else. Overrides may be merged with
each other first where no two maps would meet that are kept apart otherwise. -/
theorem mergeFields_algebra (ha : a.isObject = true) (hb : b.isObject = true)
    (hc : c.isObject = true) :
    mergeFields (mergeFields a b) b = mergeFields a b ∧
    (∀ path, MergesAt a b path) ∧
    ((∀ path, ¬ ClashAt a b c path) →
      mergeFields (mergeFields a b) c = mergeFields a (mergeFields b c)) :=
  ⟨mergeFields_idem ha hb, mergesAt hb, mergeFields_assoc ha hb hc⟩

end Laws

/-- The middle one replaces a number by a number, which no map is merged across. -/
theorem mergeFields_algebra_nested :
    let a : Fields := [(.text "style", .map [(.text "width", .int 1), (.text "wrap", .map [])])]
    let b : Fields := [(.text "style", .map [(.text "width", .int 2)])]
    let c : Fields := [(.text "style", .map [(.text "wrap", .map [(.text "at", .null)])])]
    a.isObject = true ∧ b.isObject = true ∧ c.isObject = true ∧ (∀ path, ¬ ClashAt a b c path) ∧
      mergeFields (mergeFields a b) b = mergeFields a b ∧
      (mergeFields a b).at? [.text "style", .text "width"] = some (.int 2) ∧
      mergeFields (mergeFields a b) c = mergeFields a (mergeFields b c) := by
  intro a b c
  have ha : a.isObject = true := by decide
  have hb : b.isObject = true := by decide
  have hc : c.isObject = true := by decide
  have hclash (path : List Key) : ¬ ClashAt a b c path := by
    rintro ⟨⟨x, hx⟩, ⟨v, hv, hmap⟩, -⟩
    rcases path with _ | ⟨k, _ | ⟨k', path⟩⟩
    · cases hv
      cases hmap
    · rw [Fields.at?_singleton] at hv
      obtain ⟨-, rfl⟩ : k = .text "style" ∧ v = .map [(.text "width", .int 2)] := by
        simpa [b] using Assoc.mem_of_get? hv
      cases hmap
    · obtain ⟨w, hw, hbehind⟩ := Option.bind_eq_some_iff.1 hv
      obtain ⟨rfl, rfl⟩ : k = .text "style" ∧ w = .map [(.text "width", .int 2)] := by
        simpa [b] using Assoc.mem_of_get? hw
      obtain ⟨u, hu, -⟩ := Option.bind_eq_some_iff.1 hbehind
      obtain ⟨rfl, -⟩ : k' = .text "width" ∧ u = .int 2 := by simpa using Assoc.mem_of_get? hu
      change (Value.int 1).at? path = some (.map x) at hx
      cases path <;> cases hx
  obtain ⟨hidem, hpaths, hassoc⟩ := mergeFields_algebra ha hb hc
  exact ⟨ha, hb, hc, hclash, hidem, (hpaths _).taken _ rfl rfl, hassoc hclash⟩

end Playground
