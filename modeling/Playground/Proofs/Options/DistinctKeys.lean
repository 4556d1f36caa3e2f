import Playground.Proofs.Options.Merged

namespace Playground

variable {α σ : Type}

theorem StageForm.Describes.nodup_written {form : StageForm α} {default : σ}
    {ofValue : Value → Checked σ} {make : α × Fields → σ} {written : σ → Fields}
    (h : form.Describes default ofValue make written) {name : String} {held : Option Value}
    (hheld : ∀ v, held = some v → v.holdsObject = true) {s : σ}
    (hread : Setting.ofHeld name default ofValue held = .ok s) :
    (Assoc.keys (written s)).Nodup := by
  obtain ⟨hobject, settings, hsettings, rfl⟩ := h.exists_settings hheld hread
  obtain ⟨-, a, -, rfl⟩ := ofFields_eq_ok hsettings
  rw [h.written_make]
  exact nodup_keys_fields h.lawful (Fields.nodup_keys_of_isObject hobject)

theorem nodup_readEntries {name : String} {held : Option Value}
    (hheld : ∀ v, held = some v → v.holdsObject = true) {fields : Fields}
    (hread : Setting.ofHeld name [] readEntries held = .ok fields) :
    (Assoc.keys fields).Nodup := by
  cases held with
  | none =>
    obtain rfl : [] = fields := Except.ok.inj hread
    exact List.nodup_nil
  | some v =>
    cases v with
    | map inner =>
      have hinner : Fields.isObject inner = true := by
        simpa [Value.holdsObject] using hheld _ rfl
      rw [Setting.ofHeld, StageForm.readEntries_map hinner] at hread
      obtain rfl := Except.ok.inj hread
      exact Fields.nodup_keys_of_isObject hinner
    | _ => cases hread

namespace CompileOptions

/-- No stage has two settings of one name. -/
structure HasDistinctKeys (o : CompileOptions) : Prop where
  script : (Assoc.keys o.script.fields).Nodup
  template : (Assoc.keys o.template.fields).Nodup
  compilerOptions : (Assoc.keys o.template.compilerOptions).Nodup
  style : (Assoc.keys o.style.fields).Nodup

variable {payload overrides : Fields} {o m : CompileOptions}

/-- Options that are read from an object have no two settings of one name. -/
theorem hasDistinctKeys_of_ofValue (hp : payload.isObject = true)
    (hread : ofValue (.map payload) = .ok o) : o.HasDistinctKeys := by
  obtain ⟨hscript, htemplate, hstyle⟩ := ofValue_eq_ok hread
  have hheld : ∀ name v, Fields.get? name payload = some v → v.holdsObject = true :=
    fun _ _ hv => Fields.holdsObject_of_get? hp hv
  obtain ⟨hobject, settings, hsettings, hmade⟩ :=
    StageForm.describes_templates.exists_settings (hheld _) htemplate
  obtain ⟨-, nested, hnested, rfl⟩ := StageForm.ofFields_eq_ok hsettings
  refine ⟨StageForm.describes_scripts.nodup_written (hheld _) hscript,
    StageForm.describes_templates.nodup_written (hheld _) htemplate, ?_,
    StageForm.describes_styles.nodup_written (hheld _) hstyle⟩
  have hnested : Setting.field "compiler_options" [] readEntries _ = .ok nested := hnested
  rw [Setting.field_eq_ofHeld] at hnested
  dsimp only at hmade ⊢
  rw [hmade]
  exact nodup_readEntries (fun _ hv => Fields.holdsObject_of_get? hobject hv) hnested

theorem SameSettings.hasDistinctKeys (hsame : SameSettings m o) (ho : o.HasDistinctKeys) :
    m.HasDistinctKeys := by
  have hentry : (.text "compiler_options", .map m.template.compilerOptions) ∈ o.template.fields :=
    hsame.template.mem_iff.1 List.mem_cons_self
  have hheld : some (Value.map o.template.compilerOptions) =
      some (.map m.template.compilerOptions) :=
    Assoc.get?_of_mem ho.template hentry
  refine ⟨(hsame.script.map _).nodup_iff.2 ho.script, (hsame.template.map _).nodup_iff.2 ho.template,
    ?_, (hsame.style.map _).nodup_iff.2 ho.style⟩
  rw [← Value.map.inj (Option.some.inj hheld)]
  exact ho.compilerOptions

/-- Overrides bring no name in twice. -/
theorem hasDistinctKeys_of_merged (hp : payload.isObject = true) (ho : overrides.isObject = true)
    (hread : ofValue (.map payload) = .ok o) (hmerged : o.merged (.map overrides) = .ok m) :
    m.HasDistinctKeys := by
  have hends := sameEnd_merged hp ho hread
  obtain ⟨r, hr⟩ := hends.exists_ok_iff.1 ⟨m, hmerged⟩
  have hdistinct := hasDistinctKeys_of_ofValue (isObject_mergeFields hp ho) (mapError_eq_ok hr)
  exact (hends.of_ok hmerged hr).hasDistinctKeys hdistinct

end CompileOptions

end Playground
