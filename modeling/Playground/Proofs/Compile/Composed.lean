import Playground.Compile.Compiler
import Playground.Proofs.Compile.ClientCalls

namespace Playground

/-- A call that goes by the scope id, if it has settings, and does not ask for one. -/
def Call.Carries (id : String) : Call → Prop
  | .scopeId _ => False
  | .compileScript _ settings => Fields.get? "id" settings = some (.text id)
  | .compileTemplate settings => Fields.get? "id" settings = some (.text id)
  | .compileStyle settings => Fields.get? "id" settings = some (.text id)
  | _ => True

/-- A property that sessions have when they are put together from calls with this id. -/
structure Composes (t : Toolchain) (id : String) (Q : (α : Type) → Session α → Prop) : Prop where
  pure : ∀ {α : Type} (a : α), Q α (Pure.pure a)
  bind : ∀ {α β : Type} {x : Session α} {f : α → Session β},
    Q α x → (∀ a, Q β (f a)) → Q β (x >>= f)
  ask : ∀ {call : Call}, call.Carries id → Q _ (t.ask call)

namespace Composes

variable {t : Toolchain} {id : String} {Q : (α : Type) → Session α → Prop} {ε ε' α β : Type}
  (hQ : Composes t id Q)
include hQ

theorem throw (e : ε) : Q _ (throw e : ExceptT ε Session α).run := hQ.pure (Except.error e)

theorem run_pure (a : α) : Q _ (Pure.pure a : ExceptT ε Session α).run := hQ.pure (Except.ok a)

theorem run_bind {x : ExceptT ε Session α} {f : α → ExceptT ε Session β} (hx : Q _ x.run)
    (hf : ∀ a, Q _ (f a).run) : Q _ (x >>= f).run := by
  rw [ExceptT.run_bind]
  refine hQ.bind hx fun r => ?_
  cases r with
  | error e => exact hQ.pure _
  | ok a => exact hf a

theorem lift_bind {x : Session α} {f : α → ExceptT ε Session β} (hx : Q _ x)
    (hf : ∀ a, Q _ (f a).run) : Q _ ((liftM x : ExceptT ε Session α) >>= f).run :=
  hQ.bind hx hf

theorem adapt {x : ExceptT ε Session α} (hx : Q _ x.run) (g : ε → ε') : Q _ (x.adapt g).run :=
  hQ.bind hx fun r => hQ.pure (r.mapError g)

theorem demand {call : Call} (hcall : call.Carries id) : Q _ (t.demand call).run := hQ.ask hcall

theorem stageAsk {call : Call} (hcall : call.Carries id) : Q _ (Stage.ask t call).run :=
  hQ.adapt (hQ.demand hcall) _

theorem outcome {stage : Stage α} (hstage : Q _ stage.run) : Q _ (Pipeline.outcome stage).run :=
  hQ.bind hstage fun _ => hQ.pure _

end Composes

/-! All that a compile asks, but for the scope id itself, goes by the id that was given. -/

section Carrying

variable {o : CompileOptions} {d : Descriptor} {id : String}

theorem carries_scriptRequest (target : Target) (typed : Bool) :
    (Call.compileScript d (scriptRequest o d id target typed)).Carries id := by
  simp [Call.Carries, scriptRequest]

theorem carries_templateRequest (template : Block) (bindings : Option Bindings) (target : Target)
    (typed : Bool) :
    (Call.compileTemplate (templateRequest o d template id bindings target typed)).Carries id := by
  simp [Call.Carries, templateRequest]

theorem carries_styleRequest (style : StyleBlock) :
    (Call.compileStyle (styleRequest o d id style)).Carries id := by
  simp [Call.Carries, styleRequest]

theorem carries_stripTypes (code : String) : (Call.stripTypes code).Carries id := trivial

end Carrying

namespace Composes

variable {c : Compiler} {id : String} {Q : (α : Type) → Session α → Prop}
  (hQ : Composes c.toolchain id Q) (d : Descriptor)
include hQ

theorem compileScript (target : Target) (typed : Bool) :
    Q _ (compileScript c.toolchain c.options d id target typed).run := by
  unfold Playground.compileScript
  cases d.primaryScript with
  | none => exact hQ.run_pure _
  | some script =>
    refine hQ.run_bind (hQ.stageAsk (carries_scriptRequest target typed)) fun compiled =>
      hQ.run_bind (hQ.stageAsk trivial) fun body => ?_
    dsimp only
    split
    · exact hQ.run_bind (hQ.stageAsk trivial) fun code => hQ.run_pure _
    · exact hQ.run_pure _

theorem compileTemplate (template : Block) (bindings : Option Bindings) (target : Target)
    (typed : Bool) :
    Q _ (compileTemplate c.toolchain c.options d template id bindings target typed).run := by
  unfold Playground.compileTemplate
  refine hQ.run_bind (hQ.stageAsk (carries_templateRequest template bindings target typed))
    fun compiled => ?_
  cases compiled.errors with
  | cons e es => exact hQ.throw _
  | nil =>
    dsimp only
    split
    · exact hQ.stageAsk (carries_stripTypes _)
    · exact hQ.run_pure _

theorem templateStage (bindings : Option Bindings) (target : Target) (typed : Bool) :
    Q _ (templateStage c.toolchain c.options d id bindings target typed).run := by
  unfold Playground.templateStage
  cases d.template with
  | none => exact hQ.throw _
  | some template => exact hQ.compileTemplate d template bindings target typed

theorem compileStyleBlocks (styles : List StyleBlock) :
    Q _ (compileStyleBlocks c.toolchain c.options d id styles).run := by
  induction styles with
  | nil => exact hQ.run_pure _
  | cons style styles ih =>
    unfold Playground.compileStyleBlocks
    split
    · exact hQ.throw _
    · exact hQ.lift_bind (hQ.ask (carries_styleRequest style)) fun answer =>
        hQ.run_bind ih fun _ => hQ.run_pure _

theorem compileStyles : Q _ (compileStyles c.toolchain c.options d id).run :=
  hQ.run_bind (hQ.compileStyleBlocks d d.styles) fun _ => hQ.run_pure _

theorem parse (filename code : String) : Q _ (c.parse filename code).run := by
  have hcall : (Call.parse code filename true).Carries id := trivial
  refine hQ.lift_bind (hQ.ask hcall) fun answer => ?_
  cases answer with
  | error f => exact hQ.throw _
  | ok parsed =>
    dsimp only
    split
    · exact hQ.run_pure _
    · exact hQ.throw _

theorem checkLanguages : Q _ (Compiler.checkLanguages d).run := by
  unfold Compiler.checkLanguages
  cases d.languageFault with
  | some fault => exact hQ.throw _
  | none => exact hQ.run_pure _

theorem scriptPart : Q _ (c.scriptPart d id).run := by
  unfold Compiler.scriptPart
  refine hQ.run_bind (hQ.adapt (hQ.compileScript d .client d.isTyped) _) fun script => ?_
  dsimp only
  split
  · exact hQ.run_bind (hQ.outcome (hQ.compileScript d .ssr d.isTyped)) fun server => hQ.run_pure _
  · exact hQ.run_pure _

theorem templatePart (bindings : Option Bindings) (builds : Builds) :
    Q _ (c.templatePart d id bindings builds).run := by
  have hstage := fun target => hQ.templateStage d bindings target d.isTyped
  unfold Compiler.templatePart
  split
  · exact hQ.run_pure _
  · exact hQ.run_bind (hQ.adapt (hstage .client) _) fun client =>
      hQ.run_bind (hQ.outcome (hstage .ssr)) fun server => hQ.run_pure _

theorem stages (filename code : String) : Q _ (c.stages id filename code).run := by
  unfold Compiler.stages
  refine hQ.run_bind (hQ.parse filename code) fun d =>
    hQ.run_bind (hQ.checkLanguages d) fun _ => ?_
  refine hQ.run_bind (hQ.scriptPart d) fun ⟨builds, bindings⟩ =>
    hQ.run_bind (hQ.templatePart d bindings builds) fun builds => ?_
  exact hQ.run_bind (hQ.adapt (hQ.compileStyles d) _) fun sheet => hQ.run_pure _

omit d in
theorem scriptFile (file : VirtualFile) : Q _ (c.scriptFile file).run := by
  have hstrip (code : String) : Q _ (if Compiler.isTypedName file.filename = true then do
      let code ← c.toolchain.demand (.stripTypes code)
      return Import.anchor file.filename code
    else do
      let code ← Pure.pure code
      return Import.anchor file.filename code : ExceptT Failure Session String).run := by
    split
    · exact hQ.run_bind (hQ.demand trivial) fun _ => hQ.run_pure _
    · exact hQ.run_bind (hQ.run_pure _) fun _ => hQ.run_pure _
  unfold Compiler.scriptFile
  dsimp only
  by_cases hrefs : c.toolchain.transformsRefs = true
  · rw [if_pos hrefs]
    refine hQ.run_bind (hQ.demand trivial) fun wanted => ?_
    by_cases hwanted : wanted = true
    · rw [if_pos hwanted]
      exact hQ.run_bind (hQ.demand trivial) hstrip
    · rw [if_neg hwanted]
      exact hQ.run_bind (hQ.run_pure _) hstrip
  · rw [if_neg hrefs]
    exact hQ.run_bind (hQ.run_pure _) hstrip

end Composes

end Playground
