import Mathlib.Data.List.Nodup
import Playground.Proofs.Options.Reading
import Playground.Proofs.Value.Merge

namespace Playground

def Key.hasHalf : Key → Bool
  | .text s => Text.hasHalf s
  | _ => false

/-- A setting that is null counts as absent. -/
def settled : Option Value → Option Value
  | some .null => none
  | held => held

/-- The settings that do not go by these names. -/
def unknownTo (known : List String) (fields : Fields) : Fields :=
  fields.filter fun p => !known.any fun name => p.1 = .text name

namespace Checked

variable {α β : Type}

theorem each_of_ok {f : α → Checked β} {g : α → β} {as : List α} (h : ∀ a ∈ as, f a = .ok (g a)) :
    each f as = .ok (as.map g) := by
  induction as with
  | nil => rfl
  | cons a as ih =>
    rw [each, h a List.mem_cons_self, ih fun b hb => h b (List.mem_cons_of_mem _ hb)]
    rfl

theorem both_ok (x : Checked α) (b : β) : both x (.ok b) = x.map fun a => (a, b) := by
  cases x <;> rfl

end Checked

/-- Nulls make no difference to what is merged over them. -/
theorem settled_mergeHeld (held new : Option Value) :
    settled (mergeHeld (settled held) new) = settled (mergeHeld held new) := by
  cases held with
  | none => rfl
  | some w =>
    cases w with
    | null =>
      cases new with
      | none => rfl
      | some v => cases v <;> rfl
    | _ => rfl

section Lookups

variable {known : List String} {fields : Fields}

theorem keys_dropNulls_sublist : (Assoc.keys (dropNulls fields)).Sublist (Assoc.keys fields) :=
  List.filter_sublist.map _

theorem keys_unknownTo_sublist :
    (Assoc.keys (unknownTo known fields)).Sublist (Assoc.keys fields) :=
  List.filter_sublist.map _

theorem nodup_keys_dropNulls (hn : (Assoc.keys fields).Nodup) :
    (Assoc.keys (dropNulls fields)).Nodup :=
  hn.sublist keys_dropNulls_sublist

theorem nodup_keys_unknownTo (hn : (Assoc.keys fields).Nodup) :
    (Assoc.keys (unknownTo known fields)).Nodup :=
  hn.sublist keys_unknownTo_sublist

theorem get?_dropNulls (hn : (Assoc.keys fields).Nodup) (k : Key) :
    Assoc.get? k (dropNulls fields) = settled (Assoc.get? k fields) := by
  induction fields with
  | nil => rfl
  | cons p fields ih =>
    obtain ⟨a, v⟩ := p
    obtain ⟨hnew, hrest⟩ := List.nodup_cons.1 hn
    by_cases ha : a = k
    · subst ha
      have hgone : Assoc.get? a (dropNulls fields) = none :=
        Assoc.get?_eq_none_iff.2 fun hmem => hnew (keys_dropNulls_sublist.subset hmem)
      have hhead : Assoc.get? a ((a, v) :: fields) = some v := if_pos rfl
      rw [hhead]
      cases v with
      | null => exact hgone
      | _ => exact if_pos rfl
    · have hskip : Assoc.get? k (dropNulls ((a, v) :: fields)) =
          Assoc.get? k (dropNulls fields) := by
        cases v <;> simp [dropNulls, Value.isNull, Assoc.get?, ha]
      rw [hskip, ih hrest, Assoc.get?, if_neg ha]

theorem get?_unknownTo (k : Key) :
    Assoc.get? k (unknownTo known fields) =
      if ∃ name ∈ known, k = .text name then none else Assoc.get? k fields := by
  induction fields with
  | nil => simp [unknownTo, Assoc.get?]
  | cons p fields ih =>
    obtain ⟨a, v⟩ := p
    rw [unknownTo, List.filter_cons, ← unknownTo]
    by_cases hknown : ∃ name ∈ known, a = .text name
    · have hany : (known.any fun name => a = .text name) = true := by simpa using hknown
      simp only [hany, Bool.not_true, Bool.false_eq_true, if_false]
      rw [ih]
      by_cases ha : a = k
      · rw [if_pos (ha ▸ hknown), if_pos (ha ▸ hknown)]
      · rw [Assoc.get?, if_neg ha]
    · have hany : (known.any fun name => a = .text name) = false := by simpa using hknown
      simp only [hany, Bool.not_false, if_true]
      by_cases ha : a = k
      · rw [Assoc.get?, Assoc.get?, if_pos ha, if_pos ha, if_neg (ha ▸ hknown)]
      · rw [Assoc.get?, Assoc.get?, if_neg ha, if_neg ha, ih]

/-- Where all keys are texts, no setting that a record does not know is refused. -/
theorem extraFields_of_texts (htext : ∀ k ∈ Assoc.keys fields, k.isText = true) :
    extraFields known fields = .ok (unknownTo known fields) := by
  unfold extraFields
  rw [Checked.each_of_ok (g := id), List.map_id]
  · rfl
  · intro p hp
    have hkey := htext p.1 (List.mem_map_of_mem (List.mem_of_mem_filter hp))
    cases hk : p.1 <;> rw [hk] at hkey <;> first | rfl | cases hkey

theorem openRecord_map (name : String) :
    openRecord name (.map fields) =
      if (Assoc.keys fields).any Key.hasHalf then Checked.fail .notUnicode else .ok fields := by
  have hany : (Assoc.keys fields).any Key.hasHalf = fields.any fun p => p.1.hasHalf := List.any_map
  rw [hany]
  rfl

end Lookups

/-- Maps with the same entries, whatever their order. -/
theorem perm_of_get? {fields fields' : Fields} (hn : (Assoc.keys fields).Nodup)
    (hn' : (Assoc.keys fields').Nodup) (h : ∀ k, Assoc.get? k fields = Assoc.get? k fields') :
    fields.Perm fields' := by
  refine (List.perm_ext_iff_of_nodup (List.Nodup.of_map _ hn) (List.Nodup.of_map _ hn')).2 ?_
  rintro ⟨k, v⟩
  constructor
  · exact fun hmem => Assoc.mem_of_get? ((h k).symm.trans (Assoc.get?_of_mem hn hmem))
  · exact fun hmem => Assoc.mem_of_get? ((h k).trans (Assoc.get?_of_mem hn' hmem))

theorem any_hasHalf_mergeFields {base overrides : Fields} (hn : (Assoc.keys overrides).Nodup)
    (hbase : (Assoc.keys base).any Key.hasHalf = false) :
    (Assoc.keys (mergeFields base overrides)).any Key.hasHalf =
      (Assoc.keys overrides).any Key.hasHalf := by
  rw [keys_mergeFields hn, List.any_append, hbase, Bool.false_or, Bool.eq_iff_iff,
    List.any_eq_true, List.any_eq_true]
  constructor
  · rintro ⟨k, hk, hhalf⟩
    exact ⟨k, List.mem_of_mem_filter hk, hhalf⟩
  · rintro ⟨k, hk, hhalf⟩
    refine ⟨k, List.mem_filter.2 ⟨hk, decide_eq_true fun hold => ?_⟩, hhalf⟩
    exact List.any_eq_false.1 hbase k hold hhalf

/-- How a stage reads its settings: those that it knows from their own entries, all others as they
are. `shown` are the known ones as it writes them down again. -/
structure StageForm (α : Type) where
  known : List String
  read : Fields → Checked α
  shown : α → Fields

namespace StageForm

variable {α : Type} (form : StageForm α)

def ofFields (fields : Fields) : Checked (α × Fields) :=
  if (Assoc.keys fields).any Key.hasHalf then Checked.fail .notUnicode
  else (form.read fields).map fun a => (a, unknownTo form.known fields)

def fields (settings : α × Fields) : Fields := form.shown settings.1 ++ dropNulls settings.2

/-- What is written down is merged into like what was read. -/
structure Lawful : Prop where
  plain : ∀ name ∈ form.known, Text.hasHalf name = false
  shown_known : ∀ a, ∀ k ∈ Assoc.keys (form.shown a), ∃ name ∈ form.known, k = .text name
  shown_nodup : ∀ a, (Assoc.keys (form.shown a)).Nodup
  merged : ∀ fields overrides a, fields.isObject = true → overrides.isObject = true →
    form.read fields = .ok a →
    form.read (mergeFields (form.fields (a, unknownTo form.known fields)) overrides) =
      form.read (mergeFields fields overrides)

variable {form} {fields overrides : Fields} {a : α}

theorem ofFields_eq_ok {settings : α × Fields} (h : form.ofFields fields = .ok settings) :
    (Assoc.keys fields).any Key.hasHalf = false ∧
      ∃ a, form.read fields = .ok a ∧ settings = (a, unknownTo form.known fields) := by
  unfold ofFields at h
  split at h
  · cases h
  · next hhalf => exact ⟨Bool.eq_false_iff.2 hhalf, map_eq_ok h⟩

theorem keys_fields_subset (hform : form.Lawful) {k : Key}
    (hk : k ∈ Assoc.keys (form.fields (a, unknownTo form.known fields))) :
    (∃ name ∈ form.known, k = .text name) ∨ k ∈ Assoc.keys fields := by
  unfold StageForm.fields Assoc.keys at hk
  rw [List.map_append] at hk
  rcases List.mem_append.1 hk with hshown | hother
  · exact .inl (hform.shown_known a k hshown)
  · exact .inr ((keys_dropNulls_sublist.trans keys_unknownTo_sublist).subset hother)

theorem nodup_keys_fields (hform : form.Lawful) (hn : (Assoc.keys fields).Nodup) :
    (Assoc.keys (form.fields (a, unknownTo form.known fields))).Nodup := by
  unfold StageForm.fields Assoc.keys
  rw [List.map_append, List.nodup_append]
  refine ⟨hform.shown_nodup a, nodup_keys_dropNulls (nodup_keys_unknownTo hn), ?_⟩
  rintro k hk k' hk' rfl
  have hnone : Assoc.get? k (unknownTo form.known fields) = none := by
    rw [get?_unknownTo, if_pos (hform.shown_known a k hk)]
  exact Assoc.get?_eq_none_iff.1 hnone (keys_dropNulls_sublist.subset hk')

/-- Beside the known settings, nulls are all that is not written down again. -/
theorem get?_fields (hform : form.Lawful) (hn : (Assoc.keys fields).Nodup) {k : Key}
    (hk : ¬ ∃ name ∈ form.known, k = .text name) :
    Assoc.get? k (form.fields (a, unknownTo form.known fields)) =
      settled (Assoc.get? k fields) := by
  have hshown : Assoc.get? k (form.shown a) = none :=
    Assoc.get?_eq_none_iff.2 fun hmem => hk (hform.shown_known a k hmem)
  rw [StageForm.fields, Assoc.get?_append, hshown, Option.none_or,
    get?_dropNulls (nodup_keys_unknownTo hn), get?_unknownTo, if_neg hk]

/-- To merge overrides into what was read and written down again is to merge them before it is
read. -/
theorem ofFields_merged (hform : form.Lawful) {settings : α × Fields}
    (hf : fields.isObject = true) (ho : overrides.isObject = true)
    (hread : form.ofFields fields = .ok settings) :
    SameEnd (fun s s' => (form.fields s).Perm (form.fields s'))
      (form.ofFields (mergeFields (form.fields settings) overrides))
      (form.ofFields (mergeFields fields overrides)) := by
  have hnf := Fields.nodup_keys_of_isObject hf
  have hno := Fields.nodup_keys_of_isObject ho
  obtain ⟨hhalf, a, ha, rfl⟩ := ofFields_eq_ok hread
  have hnw := nodup_keys_fields hform (a := a) hnf
  have hplain : (Assoc.keys (form.fields (a, unknownTo form.known fields))).any Key.hasHalf =
      false := by
    rw [List.any_eq_false]
    intro k hk
    rcases keys_fields_subset hform hk with ⟨name, hname, rfl⟩ | hk
    · simpa [Key.hasHalf] using hform.plain name hname
    · exact List.any_eq_false.1 hhalf k hk
  unfold ofFields
  rw [any_hasHalf_mergeFields hno hplain, any_hasHalf_mergeFields hno hhalf,
    hform.merged fields overrides a hf ho ha]
  split
  · exact .error _
  cases form.read (mergeFields fields overrides) with
  | error problems => exact .error problems
  | ok b =>
    -- the known settings were read alike, and of the others only nulls may differ
    have hnl : (Assoc.keys (unknownTo form.known _)).Nodup :=
      nodup_keys_unknownTo (nodup_keys_mergeFields hnw hno)
    have hnr : (Assoc.keys (unknownTo form.known _)).Nodup :=
      nodup_keys_unknownTo (nodup_keys_mergeFields hnf hno)
    refine .ok (List.Perm.append_left _
      (perm_of_get? (nodup_keys_dropNulls hnl) (nodup_keys_dropNulls hnr) fun k => ?_))
    rw [get?_dropNulls hnl, get?_dropNulls hnr, get?_unknownTo, get?_unknownTo]
    split
    · rfl
    next hk =>
      rw [get?_mergeFields hno, get?_mergeFields hno, get?_fields hform hnf hk, settled_mergeHeld]

end StageForm

end Playground
