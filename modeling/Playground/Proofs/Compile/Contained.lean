import Playground.Compile.Component
import Playground.Proofs.Session

namespace Playground

/-! No failure leaves the stages of a component. Each call of a service is guarded, and the settings
of a template are made only where there is one. -/

section Stages

variable (t : Toolchain) (o : CompileOptions) (d : Descriptor) (id : String)

theorem contained_compileScript (target : Target) (typed : Bool) :
    Contained (compileScript t o d id target typed) := by
  unfold compileScript
  cases d.primaryScript with
  | none => exact .pure _
  | some script =>
    refine .bind (.stageAsk t _) fun compiled => .bind (.stageAsk t _) fun body => ?_
    dsimp only
    split
    · exact .bind (.stageAsk t _) fun code => .pure _
    · exact .pure _

theorem contained_compileTemplate (template : Block) (bindings : Option Bindings) (target : Target)
    (typed : Bool) : Contained (compileTemplate t o d template id bindings target typed) := by
  unfold compileTemplate
  refine .bind (.stageAsk t _) fun compiled => ?_
  cases compiled.errors with
  | cons e es => exact .throw _
  | nil =>
    dsimp only
    split
    · exact .stageAsk t _
    · exact .pure _

theorem templateStage_of_some {template : Block} (htemplate : d.template = some template)
    (bindings : Option Bindings) (target : Target) (typed : Bool) :
    templateStage t o d id bindings target typed =
      compileTemplate t o d template id bindings target typed := by
  rw [templateStage, htemplate]

theorem contained_compileStyleBlocks (styles : List StyleBlock) :
    Contained (compileStyleBlocks t o d id styles) := by
  induction styles with
  | nil => exact .pure _
  | cons style styles ih =>
    unfold compileStyleBlocks
    split
    · exact .throw _
    · exact .lift_bind fun answer => .bind ih fun _ => .pure _

theorem contained_compileStyles : Contained (compileStyles t o d id) :=
  .bind (contained_compileStyleBlocks t o d id d.styles) fun _ => .pure _

end Stages

namespace Pipeline

variable {α : Type} {stage : Stage α}

theorem contained_ofStage (hstage : Contained stage) : Contained (ofStage stage) := hstage.adapt _

theorem run_outcome {h h' : List Call} {result : Except StageErrors α}
    (hrun : stage.run.run h = (result.mapError .reported, h')) :
    (outcome stage).run.run h = (.ok result, h') := by
  unfold outcome
  rw [ExceptT.run_mk, session_bind, hrun]
  cases result <;> rfl

/-- What a stage comes to has no say in how the run ends. -/
theorem fault?_outcome (stage : Stage α) (h : List Call) : fault? (outcome stage) h = none := by
  unfold fault? outcome
  rw [ExceptT.run_mk, session_bind]
  rcases stage.run.run h with ⟨(_ | _) | _, _⟩ <;> rfl

section Outcome

variable {β : Type} {f : Except StageErrors α → β} (h : List Call)

theorem fault?_outcome_bind : fault? (do return f (← outcome stage)) h = none :=
  (fault?_bind_of_none (fun _ _ => rfl) h).trans (fault?_outcome stage h)

/-- A build that is made of what a stage comes to, or of nothing more, has no say either. -/
theorem fault?_optional_outcome (p : Prop) [Decidable p] (b : β) :
    fault? (if p then do return f (← outcome stage) else return b) h = none := by
  split
  · exact fault?_outcome_bind h
  · rfl

end Outcome

theorem contained_outcome (hstage : Contained stage) : Contained (outcome stage) := by
  intro h failure h' hrun
  obtain ⟨result, h₁, hstage⟩ := hstage.exists_run h
  rw [run_outcome hstage] at hrun
  cases hrun

end Pipeline

namespace Compiler

variable (c : Compiler) (d : Descriptor) (id : String)

theorem contained_parse (filename code : String) : Contained (c.parse filename code) := by
  refine .lift_bind fun answer => ?_
  cases answer with
  | error f => exact .throw _
  | ok parsed =>
    dsimp only
    split
    · exact .pure _
    · exact .throw _

theorem contained_checkLanguages : Contained (checkLanguages d) := by
  unfold checkLanguages
  cases d.languageFault with
  | some fault => exact .throw _
  | none => exact .pure _

theorem contained_scriptPart : Contained (c.scriptPart d id) := by
  have hscript := fun target => contained_compileScript c.toolchain c.options d id target d.isTyped
  refine .bind (Pipeline.contained_ofStage (hscript .client)) fun script => ?_
  dsimp only
  split
  · exact .bind (Pipeline.contained_outcome (hscript .ssr)) fun _ => .pure _
  · exact .pure _

theorem exists_template_of_needsTemplate {c : Compiler} {d : Descriptor}
    (hneeds : c.needsTemplate d = true) : ∃ template, d.template = some template :=
  Option.isSome_iff_exists.1 (Bool.and_eq_true_iff.1 hneeds).1

/-- A template is asked for only where there is one. -/
theorem contained_templatePart (bindings : Option Bindings) (builds : Builds) :
    Contained (c.templatePart d id bindings builds) := by
  unfold templatePart
  cases hneeds : c.needsTemplate d with
  | false => exact .pure _
  | true =>
    obtain ⟨template, htemplate⟩ := exists_template_of_needsTemplate hneeds
    simp only [Bool.not_true, Bool.false_eq_true, if_false,
      templateStage_of_some c.toolchain c.options d id htemplate]
    have hstage := fun target =>
      contained_compileTemplate c.toolchain c.options d id template bindings target d.isTyped
    exact .bind (Pipeline.contained_ofStage (hstage .client)) fun client =>
      .bind (Pipeline.contained_outcome (hstage .ssr)) fun _ => .pure _

theorem contained_stages (filename code : String) : Contained (c.stages id filename code) := by
  unfold stages
  refine .bind (c.contained_parse filename code) fun d =>
    .bind (contained_checkLanguages d) fun _ => ?_
  refine .bind (c.contained_scriptPart d id) fun ⟨builds, bindings⟩ =>
    .bind (c.contained_templatePart d id bindings builds) fun builds => ?_
  exact .bind ((contained_compileStyles c.toolchain c.options d id).adapt _) fun _ => .pure _

end Compiler

end Playground
