import Playground.Compile.Component
import Playground.Proofs.Except
import Playground.Proofs.Session
import Playground.Toolchain.Scripted

namespace Playground

def Fields.isOff (name : String) (fields : Fields) : Bool :=
  match Fields.get? name fields with
  | some (.bool false) => true
  | _ => false

@[simp] theorem Fields.get?_put (name name' : String) (v : Value) (fields : Fields) :
    Fields.get? name (Fields.put name' v fields) =
      if name' = name then some v else Fields.get? name fields := by
  unfold Fields.get? Fields.put
  rw [Assoc.get?_put]
  simp only [Key.text.injEq]

namespace Call

/-- A request whose answer the client build uses. Which build a script or a template is compiled for
stands in its options. -/
def servesClient : Call → Bool
  | .scopeId _ | .parse .. | .compileStyle _ | .bindDefault .. | .stripTypes _ => true
  | .compileScript _ options => Fields.isOff "ssr" (Fields.mapOf "template_options" options)
  | .compileTemplate options => Fields.isOff "ssr" options
  | .shouldTransform _ | .transform .. => false

/-- Both builds put these requests about their own code. -/
def isShared : Call → Bool
  | .bindDefault .. | .stripTypes _ => true
  | _ => false

end Call

/-- What was asked for the client build alone. -/
def clientCalls (h : List Call) : List Call := h.filter fun c => c.servesClient && !c.isShared

/-- Services that give the client build the same answers. An answer may depend on what was asked for
the client before, but on nothing else. -/
def Toolchain.AgreesForClient (t u : Toolchain) : Prop :=
  ∀ c : Call, c.servesClient = true → ∀ h h', clientCalls h = clientCalls h' →
    t.respond h c = u.respond h' c

variable {ε ε' α β γ δ : Type} {R : α → β → Prop} {S : γ → δ → Prop}

/-- Two sessions that cannot be told apart, up to `R`, by what is asked for the client. -/
def SessionsAgree (R : α → β → Prop) (x : Session α) (y : Session β) : Prop :=
  ∀ h h', clientCalls h = clientCalls h' →
    R (x.run h).1 (y.run h').1 ∧ clientCalls (x.run h).2 = clientCalls (y.run h').2

def RunsAgree (R : α → β → Prop) (x : ExceptT ε Session α) (y : ExceptT ε Session β) : Prop :=
  SessionsAgree (SameEnd R) x.run y.run

namespace RunsAgree

theorem pure {a : α} {b : β} (hab : R a b) :
    RunsAgree R (Pure.pure a : ExceptT ε Session α) (Pure.pure b) :=
  fun _ _ hh => ⟨.ok hab, hh⟩

theorem throw (e : ε) : RunsAgree R (throw e : ExceptT ε Session α) (throw e) :=
  fun _ _ hh => ⟨.error e, hh⟩

theorem bind {x : ExceptT ε Session α} {y : ExceptT ε Session β} {f : α → ExceptT ε Session γ}
    {g : β → ExceptT ε Session δ} (hxy : RunsAgree R x y)
    (hfg : ∀ a b, R a b → RunsAgree S (f a) (g b)) : RunsAgree S (x >>= f) (y >>= g) := by
  intro h h' hh
  obtain ⟨hend, hcalls⟩ := hxy h h' hh
  rw [run_bind, run_bind]
  rcases hx : x.run.run h with ⟨rx, h₁⟩
  rcases hy : y.run.run h' with ⟨ry, h₂⟩
  rw [hx, hy] at hend hcalls
  cases hend with
  | ok hab => exact hfg _ _ hab h₁ h₂ hcalls
  | error e => exact ⟨.error e, hcalls⟩

theorem lift_bind {x : Session α} {y : Session β} {f : α → ExceptT ε Session γ}
    {g : β → ExceptT ε Session δ} (hxy : SessionsAgree R x y)
    (hfg : ∀ a b, R a b → RunsAgree S (f a) (g b)) :
    RunsAgree S ((liftM x : ExceptT ε Session α) >>= f) (liftM y >>= g) := by
  intro h h' hh
  obtain ⟨hab, hcalls⟩ := hxy h h' hh
  rw [run_lift_bind, run_lift_bind]
  exact hfg _ _ hab _ _ hcalls

theorem adapt {x : ExceptT ε Session α} {y : ExceptT ε Session β} (hxy : RunsAgree R x y)
    (k : ε → ε') : RunsAgree R (x.adapt k) (y.adapt k) := by
  intro h h' hh
  obtain ⟨hend, hcalls⟩ := hxy h h' hh
  rw [run_adapt, run_adapt]
  refine ⟨?_, hcalls⟩
  generalize (x.run.run h).1 = rx at hend
  generalize (y.run.run h').1 = ry at hend
  cases hend with
  | ok hab => exact .ok hab
  | error e => exact .error (k e)

end RunsAgree

theorem clientCalls_append (h : List Call) (c : Call) :
    clientCalls (h ++ [c]) = clientCalls h ++ clientCalls [c] := List.filter_append ..

theorem clientCalls_append_congr {h h' : List Call} (hh : clientCalls h = clientCalls h')
    (c : Call) : clientCalls (h ++ [c]) = clientCalls (h' ++ [c]) := by
  rw [clientCalls_append, clientCalls_append, hh]

namespace Toolchain.AgreesForClient

variable {t u : Toolchain}

theorem ask (ha : t.AgreesForClient u) (c : Call) (hc : c.servesClient = true) :
    SessionsAgree (· = ·) (t.ask c) (u.ask c) :=
  fun h h' hh => ⟨ha c hc h h' hh, clientCalls_append_congr hh c⟩

theorem stageAsk (ha : t.AgreesForClient u) (c : Call) (hc : c.servesClient = true) :
    RunsAgree (· = ·) (Stage.ask t c) (Stage.ask u c) := by
  intro h h' hh
  rw [run_stageAsk, run_stageAsk, ha c hc h h' hh]
  refine ⟨?_, clientCalls_append_congr hh c⟩
  cases u.respond h' c with
  | ok a => exact .ok rfl
  | error f => exact .error _

end Toolchain.AgreesForClient

/-- A session that asks nothing for the client alone. -/
def AsksForServer (x : Session α) : Prop := ∀ h, clientCalls (x.run h).2 = clientCalls h

namespace AsksForServer

theorem pure (a : α) : AsksForServer (Pure.pure a : ExceptT ε Session α).run := fun _ => rfl

theorem throw (e : ε) : AsksForServer (throw e : ExceptT ε Session α).run := fun _ => rfl

theorem bind {x : ExceptT ε Session α} {f : α → ExceptT ε Session γ} (hx : AsksForServer x.run)
    (hf : ∀ a, AsksForServer (f a).run) : AsksForServer (x >>= f).run := by
  intro h
  have hcalls := hx h
  rw [run_bind]
  rcases hr : x.run.run h with ⟨e | a, h₁⟩
  · rw [hr] at hcalls
    exact hcalls
  · rw [hr] at hcalls
    exact (hf a h₁).trans hcalls

theorem stageAsk (t : Toolchain) {c : Call} (hc : (c.servesClient && !c.isShared) = false) :
    AsksForServer (Stage.ask t c).run := by
  intro h
  rw [run_stageAsk, clientCalls_append, clientCalls, clientCalls,
    List.filter_cons_of_neg (by simp [hc])]
  exact List.append_nil _

/-- Whatever comes of two server builds, they leave the client alone. -/
theorem agree {x : Session α} {y : Session β} (hx : AsksForServer x) (hy : AsksForServer y) :
    SessionsAgree (fun _ _ => True) x y :=
  fun h h' hh => ⟨trivial, (hx h).trans (hh.trans (hy h').symm)⟩

end AsksForServer

theorem filter_isStyle_clientCalls (h : List Call) :
    (clientCalls h).filter Call.isStyle = h.filter Call.isStyle := by
  rw [clientCalls, List.filter_filter]
  refine List.filter_congr fun c _ => ?_
  cases c <;> simp [Call.isStyle, Call.servesClient, Call.isShared]

/-- Scripted services agree for the client if their scripts differ in the server's answers only. -/
theorem ToolchainScript.agreesForClient (s : ToolchainScript)
    {script : Bool → Except Failure CompiledScript} {template : Bool → Except Failure CompiledBlock}
    (hscript : script false = s.script false) (htemplate : template false = s.template false) :
    s.toolchain.AgreesForClient { s with script, template }.toolchain := by
  intro c hc h h' hh
  have hoff {fields : Fields} (hf : Fields.isOff "ssr" fields = true) :
      Fields.isOn "ssr" fields = false := by
    unfold Fields.isOff at hf
    unfold Fields.isOn
    split at hf
    · next hget => rw [hget]; rfl
    · cases hf
  cases c with
  | compileScript d options =>
    change s.script (Fields.isOn "ssr" (Fields.mapOf "template_options" options)) =
      script (Fields.isOn "ssr" (Fields.mapOf "template_options" options))
    rw [hoff hc, hscript]
  | compileTemplate options =>
    change s.template (Fields.isOn "ssr" options) = template (Fields.isOn "ssr" options)
    rw [hoff hc, htemplate]
  | compileStyle options =>
    change (s.styleAnswer h options).mapError _ = (s.styleAnswer h' options).mapError _
    have hstyles : h.filter Call.isStyle = h'.filter Call.isStyle := by
      rw [← filter_isStyle_clientCalls h, hh, filter_isStyle_clientCalls h']
    rw [styleAnswer, hstyles]
    rfl
  | shouldTransform => cases hc
  | transform => cases hc
  | _ => rfl

end Playground
