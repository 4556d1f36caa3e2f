import Playground.Compile.Stage

namespace Playground

variable {σ ε ε' α β : Type}

/-- A run goes on from the state that its first part leaves, or stops there. -/
theorem run_bind (x : ExceptT ε (StateM σ) α) (f : α → ExceptT ε (StateM σ) β) (h : σ) :
    (x >>= f).run.run h = match x.run.run h with
      | (.ok a, h') => (f a).run.run h'
      | (.error e, h') => (.error e, h') := by
  rw [ExceptT.run_bind, StateT.run_bind]
  rcases x.run.run h with ⟨_ | _, h'⟩ <;> rfl

/-- If the rest of a run asks nothing, its first part has asked all. -/
theorem history_bind {x : ExceptT ε Session α} {f : α → ExceptT ε Session β}
    (hf : ∀ a h, ((f a).run.run h).2 = h) (h : List Call) :
    ((x >>= f).run.run h).2 = (x.run.run h).2 := by
  rw [run_bind]
  rcases x.run.run h with ⟨e | a, h'⟩
  · rfl
  · exact hf a h'

/-- A run that comes to its end has come through its first part. -/
theorem run_bind_eq_ok {x : ExceptT ε Session α} {f : α → ExceptT ε Session β} {h h' : List Call}
    {b : β} (hrun : (x >>= f).run.run h = (.ok b, h')) :
    ∃ a h₁, x.run.run h = (.ok a, h₁) ∧ (f a).run.run h₁ = (.ok b, h') := by
  rw [run_bind] at hrun
  rcases hx : x.run.run h with ⟨e | a, h₁⟩
  · rw [hx] at hrun
    cases hrun
  · rw [hx] at hrun
    exact ⟨a, h₁, rfl, hrun⟩

theorem run_lift_bind (x : Session α) (f : α → ExceptT ε Session β) (h : List Call) :
    ((liftM x : ExceptT ε Session α) >>= f).run.run h = (f (x.run h).1).run.run (x.run h).2 := rfl

theorem run_adapt (g : ε → ε') (x : ExceptT ε (StateM σ) α) (h : σ) :
    (x.adapt g).run.run h = ((x.run.run h).1.mapError g, (x.run.run h).2) := by
  change (ExceptT.mk (Except.mapError g <$> x.run)).run.run h = _
  rw [ExceptT.run_mk, StateT.run_map]
  rfl

theorem run_adapt_eq_ok {g : ε → ε'} {x : ExceptT ε Session α} {h h' : List Call} {a : α}
    (hrun : (x.adapt g).run.run h = (.ok a, h')) : x.run.run h = (.ok a, h') := by
  rw [run_adapt] at hrun
  rcases hx : x.run.run h with ⟨e | a', h₁⟩
  · rw [hx] at hrun
    cases hrun
  · rw [hx] at hrun
    cases hrun
    rfl

theorem session_bind (x : Session α) (f : α → Session β) (h : List Call) :
    (x >>= f).run h = (f (x.run h).1).run (x.run h).2 := rfl

theorem run_ask (t : Toolchain) (call : Call) (h : List Call) :
    (t.ask call).run h = (t.respond h call, h ++ [call]) := rfl

theorem run_demand (t : Toolchain) (call : Call) (h : List Call) :
    (t.demand call).run.run h = (t.respond h call, h ++ [call]) := rfl

theorem run_stageAsk (t : Toolchain) (call : Call) (h : List Call) :
    (Stage.ask t call).run.run h =
      ((t.respond h call).mapError fun f => .reported (.ofFailure f), h ++ [call]) := by
  rw [Stage.ask, Stage.guarded, run_adapt, run_demand]

theorem run_stageAsk_eq_ok {t : Toolchain} {call : Call} {h h' : List Call} {a : call.Answer}
    (hrun : (Stage.ask t call).run.run h = (.ok a, h')) :
    t.respond h call = .ok a ∧ h' = h ++ [call] := by
  rw [run_stageAsk] at hrun
  cases hr : t.respond h call with
  | error f =>
    rw [hr] at hrun
    cases hrun
  | ok a' =>
    rw [hr] at hrun
    cases hrun
    exact ⟨rfl, rfl⟩

/-- A run that no failure leaves. -/
def Contained (x : ExceptT (Halt ε) Session α) : Prop :=
  ∀ h f h', x.run.run h ≠ (.error (.raised f), h')

namespace Contained

theorem pure (a : α) : Contained (Pure.pure a : ExceptT (Halt ε) Session α) := nofun

theorem throw (e : ε) : Contained (throw (.reported e) : ExceptT (Halt ε) Session α) := nofun

theorem bind {x : ExceptT (Halt ε) Session α} {f : α → ExceptT (Halt ε) Session β}
    (hx : Contained x) (hf : ∀ a, Contained (f a)) : Contained (x >>= f) := by
  intro h failure h' hrun
  rw [run_bind] at hrun
  rcases hr : x.run.run h with ⟨halt | a, h₁⟩
  · rw [hr] at hrun
    cases hrun
    exact hx h failure _ hr
  · rw [hr] at hrun
    exact hf a h₁ failure h' hrun

theorem lift_bind {x : Session α} {f : α → ExceptT (Halt ε) Session β}
    (hf : ∀ a, Contained (f a)) : Contained ((liftM x : ExceptT (Halt ε) Session α) >>= f) :=
  fun h => hf (x.run h).1 (x.run h).2

theorem adapt {x : ExceptT (Halt ε) Session α} (hx : Contained x) (g : ε → ε') :
    Contained (x.adapt (Halt.map g)) := by
  intro h failure h' hrun
  rw [run_adapt] at hrun
  rcases hr : x.run.run h with ⟨(errors | f) | a, h₁⟩
  · rw [hr] at hrun
    cases hrun
  · exact hx h f h₁ hr
  · rw [hr] at hrun
    cases hrun

theorem stageAsk (t : Toolchain) (call : Call) : Contained (Stage.ask t call) := by
  intro h failure h' hrun
  rw [run_stageAsk] at hrun
  cases hr : t.respond h call <;> rw [hr] at hrun <;> cases hrun

variable {x : ExceptT (Halt ε) Session α} (hx : Contained x) (h : List Call)
include hx

/-- Such a run ends with errors that it reports or with a result. -/
theorem ends : (∃ e h', x.run.run h = (.error (.reported e), h')) ∨
    ∃ a h', x.run.run h = (.ok a, h') := by
  rcases hr : x.run.run h with ⟨(e | f) | a, h'⟩
  · exact .inl ⟨e, h', rfl⟩
  · exact (hx h f h' hr).elim
  · exact .inr ⟨a, h', rfl⟩

theorem exists_run : ∃ (result : Except ε α) (h' : List Call),
    x.run.run h = (result.mapError .reported, h') := by
  rcases hx.ends h with ⟨e, h', hr⟩ | ⟨a, h', hr⟩
  · exact ⟨.error e, h', hr⟩
  · exact ⟨.ok a, h', hr⟩

end Contained

/-- The errors that a run reports, if it ends early. -/
def fault? (x : ExceptT (Halt ε) Session α) (h : List Call) : Option ε :=
  match (x.run.run h).1 with
  | .error (.reported e) => some e
  | _ => none

section Faults

variable {x : ExceptT (Halt ε) Session α} {f : α → ExceptT (Halt ε) Session β} {h : List Call}

theorem fault?_eq_some_iff {e : ε} :
    fault? x h = some e ↔ (x.run.run h).1 = .error (.reported e) := by
  unfold fault?
  split
  · next hr =>
    rw [hr]
    simp
  · next hne => exact iff_of_false nofun fun hr => hne _ hr

theorem fault?_of_run {h' : List Call} {e : ε}
    (hrun : x.run.run h = (.error (.reported e), h')) :
    fault? x h = some e ∧ (x.run.run h).2 = h' :=
  ⟨fault?_eq_some_iff.2 (congrArg Prod.fst hrun), congrArg Prod.snd hrun⟩

theorem fault?_of_ok {a : α} {h' : List Call} (hrun : x.run.run h = (.ok a, h')) :
    fault? x h = none := by
  unfold fault?
  rw [hrun]

/-- The first part of a run that fails decides how it ends. -/
theorem fault?_bind {rest : Option ε} (hx : Contained x)
    (hf : ∀ a h', x.run.run h = (.ok a, h') → fault? (f a) h' = rest) :
    fault? (x >>= f) h = (fault? x h).or rest := by
  rcases hx.ends h with ⟨e, h', hr⟩ | ⟨a, h', hr⟩
  · simp only [fault?, run_bind x f, hr, Option.some_or]
  · rw [fault?_of_ok hr, Option.none_or, ← hf a h' hr]
    simp only [fault?, run_bind x f, hr]

theorem fault?_bind_of_none (hf : ∀ a h', fault? (f a) h' = none) (h : List Call) :
    fault? (x >>= f) h = fault? x h := by
  rcases hr : x.run.run h with ⟨(e | failure) | a, h'⟩
  · simp only [fault?, run_bind x f, hr]
  · simp only [fault?, run_bind x f, hr]
  · rw [fault?_of_ok hr, ← hf a h']
    simp only [fault?, run_bind x f, hr]

theorem fault?_lift_bind (x : Session α) (f : α → ExceptT (Halt ε) Session β) (h : List Call) :
    fault? ((liftM x : ExceptT (Halt ε) Session α) >>= f) h = fault? (f (x.run h).1) (x.run h).2 :=
  rfl

theorem fault?_adapt (g : ε → ε') (x : ExceptT (Halt ε) Session α) (h : List Call) :
    fault? (x.adapt (Halt.map g)) h = (fault? x h).map g := by
  unfold fault?
  rw [run_adapt]
  rcases x.run.run h with ⟨(_ | _) | _, _⟩ <;> rfl

end Faults

end Playground
