import Playground.Proofs.Compile.Requests
import Playground.Proofs.Options.DistinctKeys
import Playground.Proofs.Value.Spread

namespace Playground

open Fields (IsSpread)

namespace CompileOptions

section Requests

variable (o : CompileOptions) (d : Descriptor) (id : String) (target : Target) (typed : Bool)

/-- The script service gets the id and the settings of the template from the component and all
others from the caller, who may also leave the template inline. The settings of the template that
it gets are the caller's, up to what the component decides of them. -/
def AsksScript (asked : Fields) : Prop :=
  ∃ nested template,
    IsSpread [[(.text "expression_plugins", pluginsValue typed)], o.template.compilerOptions]
      nested ∧
    IsSpread
      [[(.text "ssr", .bool target.isSsr), (.text "ssr_css_vars", Value.texts d.cssVars),
          (.text "compiler_options", .map nested)],
        o.template.fields] template ∧
    IsSpread
      [[(.text "id", .text id), (.text "template_options", .map template)], o.script.fields,
        [(.text "inline_template", .bool true)]] asked

def AsksTemplate (template : Block) (bindings : Option Bindings) (asked : Fields) : Prop :=
  ∃ nested,
    IsSpread
      [[(.text "binding_metadata", bindingsValue bindings),
          (.text "expression_plugins", pluginsValue typed)],
        o.template.compilerOptions] nested ∧
    IsSpread
      [[(.text "source", .text template.content), (.text "filename", .text d.filename),
          (.text "id", .text id), (.text "scoped", .bool d.hasScopedStyle),
          (.text "slotted", .bool d.slotted), (.text "ssr", .bool target.isSsr),
          (.text "ssr_css_vars", Value.texts d.cssVars), (.text "is_prod", .bool false),
          (.text "compiler_options", .map nested)],
        o.template.fields] asked

def AsksStyle (style : StyleBlock) (asked : Fields) : Prop :=
  IsSpread
    [[(.text "source", .text style.content), (.text "filename", .text d.filename),
        (.text "id", .text id), (.text "scoped", .bool style.isScoped),
        (.text "modules", .bool style.cssModule.isOn)],
      o.style.fields] asked

variable {o}

theorem asksScript_scriptRequest (ho : o.HasDistinctKeys) :
    o.AsksScript d id target typed (scriptRequest o d id target typed) := by
  have hinline : IsSpread [[(.text "inline_template", .bool true)]]
      [(.text "inline_template", .bool true)] := .single (by decide)
  refine ⟨_, _, (IsSpread.single ho.compilerOptions).putAll ?_,
    (IsSpread.single ho.template).putAll_erase (k := .text "compiler_options") ?_ ?_,
    (hinline.putAll ho.script).putAll ?_⟩
  all_goals simp [Assoc.keys]

theorem templateRequest_eq_putAll (template : Block) (bindings : Option Bindings) :
    templateRequest o d template id bindings target typed =
      Assoc.putAll (Assoc.erase (.text "compiler_options") o.template.fields)
        [(.text "source", .text template.content), (.text "filename", .text d.filename),
          (.text "id", .text id), (.text "scoped", .bool d.hasScopedStyle),
          (.text "slotted", .bool d.slotted), (.text "ssr", .bool target.isSsr),
          (.text "ssr_css_vars", Value.texts d.cssVars), (.text "is_prod", .bool false),
          (.text "compiler_options", .map (Assoc.putAll o.template.compilerOptions
            [(.text "binding_metadata", bindingsValue bindings),
              (.text "expression_plugins", pluginsValue typed)]))] := by
  simp only [templateRequest, Fields.put, Assoc.putAll, List.foldl_cons, List.foldl_nil]

theorem asksTemplate_templateRequest (ho : o.HasDistinctKeys) (template : Block)
    (bindings : Option Bindings) :
    o.AsksTemplate d id target typed template bindings
      (templateRequest o d template id bindings target typed) := by
  rw [templateRequest_eq_putAll]
  refine ⟨_, (IsSpread.single ho.compilerOptions).putAll ?_,
    (IsSpread.single ho.template).putAll_erase (k := .text "compiler_options") ?_ ?_⟩
  all_goals simp [Assoc.keys]

theorem styleRequest_eq_putAll (style : StyleBlock) :
    styleRequest o d id style =
      Assoc.putAll o.style.fields
        [(.text "source", .text style.content), (.text "filename", .text d.filename),
          (.text "id", .text id), (.text "scoped", .bool style.isScoped),
          (.text "modules", .bool style.cssModule.isOn)] := by
  simp only [styleRequest, Fields.put, Assoc.putAll, List.foldl_cons, List.foldl_nil]

theorem asksStyle_styleRequest (ho : o.HasDistinctKeys) (style : StyleBlock) :
    o.AsksStyle d id style (styleRequest o d id style) := by
  rw [styleRequest_eq_putAll]
  refine (IsSpread.single ho.style).putAll ?_
  simp [Assoc.keys]

end Requests

/-- Whatever settings the caller chose, each stage service is asked with all of them, except for
those that the component decides. -/
theorem stages_ask_as_callers (o : CompileOptions) (ho : o.HasDistinctKeys) (t : Toolchain)
    (d : Descriptor) (id : String) (target : Target) (typed : Bool) (h : List Call) :
    (∃ asked, o.AsksScript d id target typed asked ∧
      requests ((compileScript t o d id target typed).run.run h).2 =
        requests h ++ if d.primaryScript.isSome then [(.script, asked)] else []) ∧
    (∀ template bindings, ∃ asked,
      o.AsksTemplate d id target typed template bindings asked ∧
      requests ((compileTemplate t o d template id bindings target typed).run.run h).2 =
        requests h ++ [(.template, asked)]) ∧
    ∃ asked : StyleBlock → Fields, (∀ style, o.AsksStyle d id style (asked style)) ∧
      requests ((compileStyles t o d id).run.run h).2 =
        requests h ++
          (d.styles.takeWhile fun s => !s.cssModule.isOn).map fun s => (.style, asked s) := by
  refine ⟨⟨_, asksScript_scriptRequest d id target typed ho, requests_compileScript rfl⟩,
    fun template bindings => ⟨_, asksTemplate_templateRequest d id target typed ho template bindings,
      requests_compileTemplate rfl⟩,
    ⟨_, asksStyle_styleRequest d id ho, ?_⟩⟩
  rw [history_compileStyles, requests_append]
  refine congrArg _ ?_
  rw [requests, List.filterMap_map]
  exact congrFun List.filterMap_eq_map _

/-- Settings with names that the components decide. -/
def reservedNames : CompileOptions where
  script :=
    { extra := [(.text "id", .text "mine"), (.text "template_options", .text "mine"),
        (.text "hoist", .bool false)] }
  template :=
    { compilerOptions := [(.text "expression_plugins", .text "mine"), (.text "mode", .text "module")]
      extra := [(.text "ssr", .text "mine"), (.text "source", .text "mine"),
        (.text "preamble", .text "kept")] }
  style := { extra := [(.text "modules", .bool true), (.text "trim", .bool true)] }

/-- The script and the style are asked for with what the component decides, and with the other
settings of the caller. -/
theorem stages_ask_as_callers_reservedNames :
    let d : Descriptor :=
      { filename := "App.vue", script := some {}, template := some {}, styles := [{}] }
    let t : Toolchain := ⟨false, fun _ _ => .error { kind := "ValueError" }⟩
    reservedNames.HasDistinctKeys ∧ ∃ asked template nested style,
      requests ((compileScript t reservedNames d "a1" .client false).run.run []).2 =
        [(.script, asked)] ∧
      Fields.get? "id" asked = some (.text "a1") ∧
      Fields.get? "hoist" asked = some (.bool false) ∧
      Fields.get? "inline_template" asked = some (.bool true) ∧
      Fields.get? "template_options" asked = some (.map template) ∧
      Fields.get? "ssr" template = some (.bool false) ∧
      Fields.get? "preamble" template = some (.text "kept") ∧
      Fields.get? "compiler_options" template = some (.map nested) ∧
      Fields.get? "expression_plugins" nested = some .null ∧
      Fields.get? "mode" nested = some (.text "module") ∧
      requests ((compileStyles t reservedNames d "a1").run.run []).2 = [(.style, style)] ∧
      Fields.get? "modules" style = some (.bool false) ∧
      Fields.get? "trim" style = some (.bool true) := by
  intro d t
  have ho : reservedNames.HasDistinctKeys := ⟨by decide, by decide, by decide, by decide⟩
  obtain ⟨⟨asked, ⟨nested, template, hnested, htemplate, hasked⟩, hscript⟩, -, style, hstyle,
    hstyles⟩ := stages_ask_as_callers reservedNames ho t d "a1" .client false []
  exact ⟨ho, asked, template, nested, style {}, hscript, hasked.held _, hasked.held _,
    hasked.held _, hasked.held _, htemplate.held _, htemplate.held _, htemplate.held _,
    hnested.held _, hnested.held _, hstyles, (hstyle {}).held _, (hstyle {}).held _⟩

end CompileOptions

end Playground
