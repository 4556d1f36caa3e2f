import Playground.Proofs.Compile.Composed

namespace Playground

/-- The services that are asked with settings, one for each stage. -/
inductive Service
  | script
  | template
  | style
  deriving DecidableEq, Repr

/-- The settings that a stage asks its service with. -/
def Call.request? : Call → Option (Service × Fields)
  | .compileScript _ settings => some (.script, settings)
  | .compileTemplate settings => some (.template, settings)
  | .compileStyle settings => some (.style, settings)
  | _ => none

def requests (calls : List Call) : List (Service × Fields) := calls.filterMap Call.request?

/-- The requests of one component, stage by stage. -/
structure Requests where
  scripts : List Fields := []
  templates : List Fields := []
  styles : List Fields := []

theorem requests_append (h calls : List Call) :
    requests (h ++ calls) = requests h ++ requests calls := List.filterMap_append

theorem requests_concat (h : List Call) (call : Call) :
    requests (h ++ [call]) = requests h ++ call.request?.toList := by
  rw [requests_append]
  cases hcall : call.request? <;> simp [requests, hcall]

/-- A session that asks nothing but what goes by the id. -/
def AsksFor (id : String) {α : Type} (x : Session α) : Prop :=
  ∀ h, ∃ calls, (x.run h).2 = h ++ calls ∧ ∀ call ∈ calls, call.Carries id

theorem composes_asksFor (t : Toolchain) (id : String) : Composes t id (@AsksFor id) where
  pure _ h := ⟨[], (List.append_nil h).symm, fun _ hcall => nomatch hcall⟩
  bind := by
    intro α β x f hx hf h
    obtain ⟨first, hfirst, hcalls⟩ := hx h
    obtain ⟨rest, hrest, hcalls'⟩ := hf (x.run h).1 (x.run h).2
    refine ⟨first ++ rest, ?_, ?_⟩
    · rw [session_bind, hrest, hfirst, List.append_assoc]
    · intro call hcall
      exact (List.mem_append.1 hcall).elim (hcalls call) (hcalls' call)
  ask hcall h := ⟨[_], rfl, fun _ hmem => List.mem_singleton.1 hmem ▸ hcall⟩

/-- A session that asks no stage service. -/
def AsksNone {α : Type} (x : Session α) : Prop := ∀ h, requests (x.run h).2 = requests h

section Stages

variable {t : Toolchain} {ε α β : Type}

theorem asksNone_stageAsk {call : Call} (hcall : call.request? = none) :
    AsksNone (Stage.ask t call).run := by
  intro h
  rw [run_stageAsk, requests_concat, hcall]
  exact List.append_nil _

theorem asksNone_bind {x : ExceptT ε Session α} {f : α → ExceptT ε Session β}
    (hx : AsksNone x.run) (hf : ∀ a, AsksNone (f a).run) : AsksNone (x >>= f).run := by
  intro h
  have hfirst := hx h
  rw [run_bind]
  rcases hr : x.run.run h with ⟨e | a, h₁⟩
  · rw [hr] at hfirst
    exact hfirst
  · rw [hr] at hfirst
    exact (hf a h₁).trans hfirst

/-- A stage asks its service first, and the rest of it asks none. -/
theorem requests_ask_bind {call : Call} {f : call.Answer → Stage α}
    (hf : ∀ a, AsksNone (f a).run) (h : List Call) :
    requests ((Stage.ask t call >>= f).run.run h).2 = requests h ++ call.request?.toList := by
  rw [run_bind, run_stageAsk, ← requests_concat]
  cases t.respond h call with
  | error f => rfl
  | ok a => exact hf a _

variable {o : CompileOptions} {d : Descriptor} {id : String} {target : Target} {typed : Bool}
  {h h' : List Call}

theorem requests_compileScript {result : Except (Halt StageErrors) ScriptCode}
    (hrun : (compileScript t o d id target typed).run.run h = (result, h')) :
    requests h' = requests h ++
      if d.primaryScript.isSome then [(.script, scriptRequest o d id target typed)] else [] := by
  obtain rfl : _ = h' := congrArg Prod.snd hrun
  unfold compileScript
  cases d.primaryScript with
  | none => exact (List.append_nil _).symm
  | some script =>
    refine requests_ask_bind (fun compiled => ?_) h
    refine asksNone_bind (asksNone_stageAsk rfl) fun body => ?_
    dsimp only
    split
    · exact asksNone_bind (asksNone_stageAsk rfl) fun code _ => rfl
    · exact fun _ => rfl

theorem requests_compileTemplate {template : Block} {bindings : Option Bindings}
    {result : Except (Halt StageErrors) String}
    (hrun : (compileTemplate t o d template id bindings target typed).run.run h = (result, h')) :
    requests h' =
      requests h ++ [(.template, templateRequest o d template id bindings target typed)] := by
  obtain rfl : _ = h' := congrArg Prod.snd hrun
  unfold compileTemplate
  refine requests_ask_bind (fun compiled => ?_) h
  cases compiled.errors with
  | cons e es => exact fun _ => rfl
  | nil =>
    dsimp only
    split
    · exact asksNone_stageAsk rfl
    · exact fun _ => rfl

/-- The blocks before the first module are compiled in their order, whatever becomes of each. -/
theorem history_compileStyleBlocks (styles : List StyleBlock) (h : List Call) :
    ((compileStyleBlocks t o d id styles).run.run h).2 =
      h ++ (styles.takeWhile fun s => !s.cssModule.isOn).map
        fun s => .compileStyle (styleRequest o d id s) := by
  induction styles generalizing h with
  | nil => exact (List.append_nil h).symm
  | cons style styles ih =>
    by_cases hmodule : style.cssModule.isOn = true
    · simp only [compileStyleBlocks, hmodule, List.takeWhile_cons, Bool.not_true, if_true,
        Bool.false_eq_true, if_false]
      exact (List.append_nil h).symm
    · simp only [compileStyleBlocks, hmodule, List.takeWhile_cons, Bool.not_false, if_true,
        Bool.false_eq_true, if_false, List.map_cons]
      have hrest := ih (h ++ [.compileStyle (styleRequest o d id style)])
      rw [List.append_assoc, List.singleton_append] at hrest
      rw [run_lift_bind, run_ask, ← hrest]
      exact history_bind (fun _ _ => rfl) _

theorem history_compileStyles (h : List Call) :
    ((compileStyles t o d id).run.run h).2 =
      h ++ (d.styles.takeWhile fun s => !s.cssModule.isOn).map
        fun s => .compileStyle (styleRequest o d id s) := by
  unfold compileStyles
  rw [history_bind fun _ _ => rfl, history_compileStyleBlocks]

end Stages

section Failures

variable {t : Toolchain} {α β : Type}

variable {o : CompileOptions} {d : Descriptor} {id : String}

end Failures

end Playground
