import Playground.Proofs.Options.Overrides

namespace Playground

variable {α σ : Type}

namespace Checked

variable {α' β β' : Type} {R : α → α' → Prop} {S : β → β' → Prop}

theorem sameEnd_under {x : Checked α} {x' : Checked α'} (h : SameEnd R x x') (key : Key) :
    SameEnd R (under key x) (under key x') := by
  cases h with
  | ok hab => exact .ok hab
  | error problems => exact .error _

theorem sameEnd_both {x : Checked α} {x' : Checked α'} {y : Checked β} {y' : Checked β'}
    (hx : SameEnd R x x') (hy : SameEnd S y y') :
    SameEnd (fun p p' => R p.1 p'.1 ∧ S p.2 p'.2) (both x y) (both x' y') := by
  cases hx with
  | ok ha =>
    cases hy with
    | ok hb => exact .ok ⟨ha, hb⟩
    | error problems => exact .error _
  | error problems =>
    cases hy with
    | ok hb => exact .error _
    | error problems => exact .error _

end Checked

theorem Setting.ofHeld_eq_ok {name : String} {default : α} {f : Value → Checked α} {v : Value}
    {a : α} (h : ofHeld name default f (some v) = .ok a) : f v = .ok a :=
  Checked.under_eq_ok h

/-- A stage whose settings are read and written down in this form. -/
structure StageForm.Describes (form : StageForm α) (default : σ) (ofValue : Value → Checked σ)
    (make : α × Fields → σ) (written : σ → Fields) : Prop where
  lawful : form.Lawful
  ofValue_map : ∀ fields, (∀ k ∈ Assoc.keys fields, k.isText = true) →
    ofValue (.map fields) = (form.ofFields fields).map make
  ofValue_not_map : ∀ v, v.isMap = false → ∃ problems, ofValue v = .error problems
  ofValue_empty : ofValue (.map []) = .ok default
  written_make : ∀ settings, written (make settings) = form.fields settings

namespace StageForm

section Describes

variable {form : StageForm α} {default : σ} {ofValue : Value → Checked σ} {make : α × Fields → σ}
  {written : σ → Fields} {name : String}

/-- What was read of a stage was read from a map, which was empty if there was none. -/
theorem Describes.exists_settings (h : form.Describes default ofValue make written)
    {held : Option Value} (hheld : ∀ v, held = some v → v.holdsObject = true) {s : σ}
    (hread : Setting.ofHeld name default ofValue held = .ok s) :
    (heldMap held).isObject = true ∧
      ∃ settings, form.ofFields (heldMap held) = .ok settings ∧ s = make settings := by
  have hmap : ∃ fields, heldMap held = fields ∧ fields.isObject = true ∧
      ofValue (.map fields) = .ok s := by
    cases held with
    | none =>
      obtain rfl : default = s := Except.ok.inj hread
      exact ⟨[], rfl, rfl, h.ofValue_empty⟩
    | some v =>
      have hv := Setting.ofHeld_eq_ok hread
      cases hkind : v.isMap with
      | false =>
        obtain ⟨problems, herror⟩ := h.ofValue_not_map v hkind
        rw [herror] at hv
        cases hv
      | true =>
        obtain ⟨fields, rfl⟩ := Value.isMap_eq_true_iff.1 hkind
        exact ⟨fields, rfl, by simpa [Value.holdsObject] using hheld _ rfl, hv⟩
  obtain ⟨fields, rfl, hobject, hfields⟩ := hmap
  rw [h.ofValue_map _ fun k hk => Fields.isText_of_isObject hobject hk] at hfields
  exact ⟨hobject, map_eq_ok hfields⟩

theorem Describes.ofValue_merged (h : form.Describes default ofValue make written)
    {fields overrides : Fields} (hf : fields.isObject = true) (ho : overrides.isObject = true)
    {settings : α × Fields} (hread : form.ofFields fields = .ok settings) :
    SameEnd (fun s s' => (written s).Perm (written s'))
      (ofValue (.map (mergeFields (written (make settings)) overrides)))
      (ofValue (.map (mergeFields fields overrides))) := by
  have hplain : ∀ k ∈ Assoc.keys fields, k.isText = true := fun k hk =>
    Fields.isText_of_isObject hf hk
  have hwritten : ∀ k ∈ Assoc.keys (form.fields settings), k.isText = true := by
    obtain ⟨-, a, -, rfl⟩ := ofFields_eq_ok hread
    intro k hk
    rcases keys_fields_subset h.lawful hk with ⟨name, -, rfl⟩ | hk
    · rfl
    · exact hplain k hk
  rw [h.written_make, h.ofValue_map _ (isText_of_mergeFields hwritten ho),
    h.ofValue_map _ (isText_of_mergeFields hplain ho)]
  refine (ofFields_merged h.lawful hf ho hread).map fun s s' hperm => ?_
  rw [h.written_make, h.written_make]
  exact hperm

/-- A stage of merged options is read as from the merged payload. -/
theorem Describes.ofHeld_merged (h : form.Describes default ofValue make written)
    {held new : Option Value} (hheld : ∀ v, held = some v → v.holdsObject = true)
    (hnew : ∀ v, new = some v → v.holdsObject = true) {s : σ}
    (hread : Setting.ofHeld name default ofValue held = .ok s) :
    SameEnd (fun s s' => (written s).Perm (written s'))
      (Setting.ofHeld name default ofValue (mergeHeld (some (.map (written s))) new))
      (Setting.ofHeld name default ofValue (mergeHeld held new)) := by
  obtain ⟨hobject, settings, hsettings, rfl⟩ := h.exists_settings hheld hread
  cases new with
  | none =>
    -- to leave a stage alone is to merge no overrides into it, and then the payload's side is known
    have hnone : Fields.isObject [] = true := rfl
    have hagain := h.ofValue_merged hobject hnone hsettings
    have hplain : ofValue (.map (heldMap held)) = .ok (make settings) := by
      rw [h.ofValue_map _ fun k hk => Fields.isText_of_isObject hobject hk, hsettings]
      rfl
    rw [mergeFields_nil_right, mergeFields_nil_right, hplain] at hagain
    rw [mergeHeld_none, mergeHeld_none, hread]
    exact Checked.sameEnd_under hagain (.text name)
  | some v =>
    cases hkind : v.isMap with
    | false =>
      obtain ⟨problems, herror⟩ := h.ofValue_not_map v hkind
      rw [mergeHeld_of_not_map hkind, mergeHeld_of_not_map hkind, Setting.ofHeld, herror]
      exact .error _
    | true =>
      obtain ⟨overrides, rfl⟩ := Value.isMap_eq_true_iff.1 hkind
      have ho : Fields.isObject overrides = true := by simpa [Value.holdsObject] using hnew _ rfl
      have hn := Fields.nodup_keys_of_isObject ho
      rw [mergeHeld_map hn, mergeHeld_map hn]
      exact Checked.sameEnd_under (h.ofValue_merged hobject ho hsettings) (.text name)

end Describes

theorem ofValue_eq_of_openRecord {name : String} {fields : Fields} {form : StageForm α}
    {ofRecord : Fields → Checked σ} {make : α × Fields → σ}
    (hread : ofRecord fields =
      (form.read fields).map fun a => make (a, unknownTo form.known fields)) :
    (openRecord name (.map fields) >>= ofRecord) = (form.ofFields fields).map make := by
  rw [openRecord_map, ofFields]
  split
  · rfl
  · change ofRecord fields = _
    rw [hread]
    cases form.read fields <;> rfl

theorem describes_scripts :
    scripts.Describes {} ScriptOptions.ofValue (fun p => ⟨p.1, p.2⟩) ScriptOptions.fields where
  lawful := lawful_scripts
  ofValue_map fields htext := by
    refine ofValue_eq_of_openRecord ?_
    rw [extraFields_of_texts htext, Checked.both_ok]
    change _ = (Setting.field "inline_template" none (Setting.optional Setting.truth) fields).map _
    cases Setting.field "inline_template" none (Setting.optional Setting.truth) fields <;> rfl
  ofValue_not_map v hv := by
    cases v <;> first | exact ⟨_, rfl⟩ | cases hv
  ofValue_empty := rfl
  written_make settings := by
    obtain ⟨inline, extra⟩ := settings
    cases inline <;> rfl

theorem describes_templates :
    templates.Describes {} TemplateOptions.ofValue (fun p => ⟨p.1, p.2⟩)
      TemplateOptions.fields where
  lawful := lawful_templates
  ofValue_map fields htext := by
    refine ofValue_eq_of_openRecord ?_
    rw [extraFields_of_texts htext, Checked.both_ok]
    change _ = (Setting.field "compiler_options" [] readEntries fields).map _
    change Except.map _ (Setting.field "compiler_options" [] readEntries fields) >>= _ = _
    cases Setting.field "compiler_options" [] readEntries fields <;> rfl
  ofValue_not_map v hv := by
    cases v <;> first | exact ⟨_, rfl⟩ | cases hv
  ofValue_empty := rfl
  written_make _ := rfl

theorem describes_styles :
    styles.Describes {} StyleOptions.ofValue (fun p => ⟨p.2⟩) StyleOptions.fields where
  lawful := lawful_styles
  ofValue_map fields htext := by
    refine ofValue_eq_of_openRecord ?_
    rw [extraFields_of_texts htext]
    rfl
  ofValue_not_map v hv := by
    cases v <;> first | exact ⟨_, rfl⟩ | cases hv
  ofValue_empty := rfl
  written_make _ := rfl

end StageForm

namespace CompileOptions

/-- Options that make the same settings for each stage, whatever their order. -/
structure SameSettings (o o' : CompileOptions) : Prop where
  script : o.script.fields.Perm o'.script.fields
  template : o.template.fields.Perm o'.template.fields
  style : o.style.fields.Perm o'.style.fields

theorem SameSettings.refl (o : CompileOptions) : SameSettings o o :=
  ⟨.refl _, .refl _, .refl _⟩

theorem ofValue_map (fields : Fields) :
    ofValue (.map fields) =
      (Checked.both
        (Setting.ofHeld "script" {} ScriptOptions.ofValue (Fields.get? "script" fields))
        (Checked.both
          (Setting.ofHeld "template" {} TemplateOptions.ofValue (Fields.get? "template" fields))
          (Setting.ofHeld "style" {} StyleOptions.ofValue (Fields.get? "style" fields)))).map
        fun p => ⟨p.1, p.2.1, p.2.2⟩ := by
  simp only [← Setting.field_eq_ofHeld]
  change Checked.both _ _ >>= _ = _
  cases Checked.both (Setting.field "script" {} ScriptOptions.ofValue fields)
    (Checked.both (Setting.field "template" {} TemplateOptions.ofValue fields)
      (Setting.field "style" {} StyleOptions.ofValue fields)) <;> rfl

variable {payload overrides : Fields} {o : CompileOptions}

/-- Options that were read were read stage by stage. -/
theorem ofValue_eq_ok (hread : ofValue (.map payload) = .ok o) :
    Setting.ofHeld "script" {} ScriptOptions.ofValue (Fields.get? "script" payload) =
        .ok o.script ∧
      Setting.ofHeld "template" {} TemplateOptions.ofValue (Fields.get? "template" payload) =
        .ok o.template ∧
      Setting.ofHeld "style" {} StyleOptions.ofValue (Fields.get? "style" payload) =
        .ok o.style := by
  rw [ofValue_map] at hread
  obtain ⟨⟨script, template, style⟩, hstages, rfl⟩ := map_eq_ok hread
  obtain ⟨hscript, hrest⟩ := Checked.both_eq_ok hstages
  exact ⟨hscript, Checked.both_eq_ok hrest⟩

theorem ofValue_merged (hp : payload.isObject = true) (ho : overrides.isObject = true)
    (hread : ofValue (.map payload) = .ok o) :
    SameEnd SameSettings (ofValue (.map (mergeFields o.fields overrides)))
      (ofValue (.map (mergeFields payload overrides))) := by
  obtain ⟨hscript, htemplate, hstyle⟩ := ofValue_eq_ok hread
  have hn := Fields.nodup_keys_of_isObject ho
  have hheld : ∀ name v, Fields.get? name payload = some v → v.holdsObject = true :=
    fun _ _ hv => Fields.holdsObject_of_get? hp hv
  have hnew : ∀ name v, Fields.get? name overrides = some v → v.holdsObject = true :=
    fun _ _ hv => Fields.holdsObject_of_get? ho hv
  have hmerged : ∀ base name, Fields.get? name (mergeFields base overrides) =
      mergeHeld (Fields.get? name base) (Fields.get? name overrides) :=
    fun _ _ => get?_mergeFields hn _
  rw [ofValue_map, ofValue_map]
  simp only [hmerged]
  have hscripts := StageForm.describes_scripts.ofHeld_merged (hheld _) (hnew "script") hscript
  have htemplates :=
    StageForm.describes_templates.ofHeld_merged (hheld _) (hnew "template") htemplate
  have hstyles := StageForm.describes_styles.ofHeld_merged (hheld _) (hnew "style") hstyle
  exact (Checked.sameEnd_both hscripts (Checked.sameEnd_both htemplates hstyles)).map
    fun _ _ hstages => ⟨hstages.1, hstages.2.1, hstages.2.2⟩

theorem merged_map (o : CompileOptions) (overrides : Fields) (h : overrides ≠ []) :
    o.merged (.map overrides) =
      (ofValue (.map (mergeFields o.fields overrides))).mapError .invalid := by
  have hfull : (Value.map overrides).isEmpty = false := by
    cases overrides with
    | nil => exact (h rfl).elim
    | cons => rfl
  unfold merged
  rw [if_neg (by rw [hfull]; exact Bool.false_ne_true)]
  dsimp only
  generalize ofValue (.map (mergeFields o.fields overrides)) = x
  cases x <;> rfl

theorem sameEnd_merged (hp : payload.isObject = true) (ho : overrides.isObject = true)
    (hread : ofValue (.map payload) = .ok o) :
    SameEnd SameSettings (o.merged (.map overrides))
      ((ofValue (.map (mergeFields payload overrides))).mapError .invalid) := by
  by_cases hempty : overrides = []
  · subst hempty
    rw [mergeFields_nil_right, hread]
    exact .ok (.refl o)
  · rw [merged_map o overrides hempty]
    exact (ofValue_merged hp ho hread).mapError OverrideError.invalid

/-- Overrides that are merged into options that were read come to what the payload comes to when
they are merged into it before it is read: to the same problems, or to the same settings. -/
theorem merged_of_ofValue (hp : payload.isObject = true) (ho : overrides.isObject = true)
    (hread : ofValue (.map payload) = .ok o) :
    ((∃ m, o.merged (.map overrides) = .ok m) ↔
        ∃ r, ofValue (.map (mergeFields payload overrides)) = .ok r) ∧
      (∀ m r, o.merged (.map overrides) = .ok m →
        ofValue (.map (mergeFields payload overrides)) = .ok r → SameSettings m r) ∧
      ∀ problems, o.merged (.map overrides) = .error (.invalid problems) ↔
        ofValue (.map (mergeFields payload overrides)) = .error problems := by
  have hends := sameEnd_merged hp ho hread
  refine ⟨?_, fun m r hm hr => hends.of_ok hm (mapError_eq_ok_iff.2 hr), fun problems => ?_⟩
  · rw [hends.exists_ok_iff]
    exact exists_congr fun r => mapError_eq_ok_iff
  · rw [hends.error_iff]
    exact mapError_eq_error_iff fun _ _ h => OverrideError.invalid.inj h

/-- A payload with a truth value in words, nulls in a stage and below one, and unknown settings. -/
def loosePayload : Fields :=
  [(.text "script", .map [(.text "inline_template", .text "No"), (.text "lang", .null),
      (.text "deep", .map [(.text "a", .null)])]),
    (.text "template", .map [(.text "compiler_options", .map [(.text "mode", .null)])]),
    (.text "later", .int 3)]

def looseOverrides : Fields :=
  [(.text "script", .map [(.text "deep", .map [(.text "b", .null)])]),
    (.text "template", .map [(.text "compiler_options", .map [(.text "mode", .text "module")])]),
    (.text "style", .map [(.text "trim", .null)])]

theorem mergeFields_loose :
    mergeFields loosePayload looseOverrides =
      [(.text "script", .map [(.text "inline_template", .text "No"), (.text "lang", .null),
          (.text "deep", .map [(.text "a", .null), (.text "b", .null)])]),
        (.text "template", .map [(.text "compiler_options", .map [(.text "mode", .text "module")])]),
        (.text "later", .int 3), (.text "style", .map [(.text "trim", .null)])] := by
  simp [loosePayload, looseOverrides, mergeFields, Assoc.get?, Assoc.put]

theorem ofValue_wordedScript (deep : Fields) :
    ScriptOptions.ofValue (.map [(.text "inline_template", .text "No"), (.text "lang", .null),
        (.text "deep", .map deep)]) =
      .ok ⟨some false, [(.text "lang", .null), (.text "deep", .map deep)]⟩ := by
  have htruth : Setting.truth (.text "No") = .ok false := by decide +kernel
  have hkeys : ([.text "inline_template", .text "lang", .text "deep"] : List Key).any Key.hasHalf =
      false := by decide
  rw [StageForm.describes_scripts.ofValue_map _ (by simp [Assoc.keys, Key.isText]),
    StageForm.ofFields, Assoc.keys]
  simp only [List.map_cons, List.map_nil, hkeys]
  simp [StageForm.scripts, StageForm.single, Setting.field, Fields.get?, Assoc.get?,
    Setting.optional, htruth, Checked.inField, Checked.under, Except.map, unknownTo]

theorem merged_of_ofValue_loosePayload :
    loosePayload.isObject = true ∧ looseOverrides.isObject = true ∧
      ∃ o m r, ofValue (.map loosePayload) = .ok o ∧ o.merged (.map looseOverrides) = .ok m ∧
        ofValue (.map (mergeFields loosePayload looseOverrides)) = .ok r ∧ SameSettings m r := by
  have hp : loosePayload.isObject = true := by decide
  have ho : looseOverrides.isObject = true := by decide
  have hscript : ∀ deep, Setting.ofHeld "script" {} ScriptOptions.ofValue
      (some (.map [(.text "inline_template", .text "No"), (.text "lang", .null),
        (.text "deep", .map deep)])) = .ok ⟨some false, _⟩ :=
    fun deep => congrArg (Checked.inField "script") (ofValue_wordedScript deep)
  have hread := ofValue_map loosePayload
  have hmerged := ofValue_map (mergeFields loosePayload looseOverrides)
  rw [mergeFields_loose] at hmerged
  simp only [loosePayload, Fields.get?, Assoc.get?, Key.text.injEq, String.reduceEq, if_true,
    if_false, hscript] at hread hmerged
  obtain ⟨hsucceeds, hsame, -⟩ := merged_of_ofValue hp ho hread
  rw [← mergeFields_loose] at hmerged
  obtain ⟨m, hm⟩ := hsucceeds.2 ⟨_, hmerged⟩
  exact ⟨hp, ho, _, m, _, hread, hm, hmerged, hsame m _ hm hmerged⟩

end CompileOptions

end Playground
