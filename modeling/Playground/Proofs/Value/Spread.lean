import Playground.Value.Basic

namespace Playground.Fields

/-- A map that holds under each key what the first of these layers holds that has the key, and
nothing else. -/
structure IsSpread (layers : List Fields) (fields : Fields) : Prop where
  nodup : (Assoc.keys fields).Nodup
  held : ∀ k, Assoc.get? k fields = layers.findSome? (Assoc.get? k)

namespace IsSpread

variable {layers : List Fields} {fields top : Fields}

theorem single (hn : (Assoc.keys fields).Nodup) : IsSpread [fields] fields where
  nodup := hn
  held k := by
    rw [List.findSome?_cons, List.findSome?_nil]
    cases Assoc.get? k fields <;> rfl

/-- What is written over a spread becomes the first of its layers. -/
theorem putAll (h : IsSpread layers fields) (hn : (Assoc.keys top).Nodup) :
    IsSpread (top :: layers) (Assoc.putAll fields top) where
  nodup := Assoc.nodup_keys_putAll h.nodup
  held k := by
    rw [Assoc.get?_putAll hn, h.held, List.findSome?_cons]
    cases Assoc.get? k top <;> rfl

/-- Of a key that is written anyway, nothing is left from before. -/
theorem putAll_erase (h : IsSpread layers fields) (hn : (Assoc.keys top).Nodup) {k : Key}
    (hk : k ∈ Assoc.keys top) :
    IsSpread (top :: layers) (Assoc.putAll (Assoc.erase k fields) top) where
  nodup := Assoc.nodup_keys_putAll (Assoc.nodup_keys_erase h.nodup)
  held k' := by
    rw [← (h.putAll hn).held, Assoc.get?_putAll hn, Assoc.get?_putAll hn, Assoc.get?_erase]
    by_cases hsame : k = k'
    · subst hsame
      obtain ⟨v, hv⟩ := Option.isSome_iff_exists.1 (Assoc.has_iff.2 hk)
      rw [hv, Option.some_or, Option.some_or]
    · rw [if_neg hsame]

end IsSpread

end Playground.Fields
