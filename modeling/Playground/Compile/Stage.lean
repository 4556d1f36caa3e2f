import Playground.Options.Basic
import Playground.Toolchain.Basic

namespace Playground

/-- The errors of a stage that failed; there is at least one. -/
structure StageErrors where
  first : String
  others : List String := []
  deriving DecidableEq, Repr

def StageErrors.toList (e : StageErrors) : List String := e.first :: e.others

def StageErrors.ofFailure (f : Failure) : StageErrors := ⟨f.trace, []⟩

/-- What stops a part of a compile: the errors that it reports, or a failure that leaves it. -/
inductive Halt (ε : Type)
  | reported (errors : ε)
  | raised (failure : Failure)
  deriving DecidableEq, Repr

def Halt.map {ε ε' : Type} (f : ε → ε') : Halt ε → Halt ε'
  | .reported errors => .reported (f errors)
  | .raised failure => .raised failure

/-- A stage run: it may stop, and the calls it made stay in the history. -/
abbrev Stage := ExceptT (Halt StageErrors) Session

/-- What is raised in here stops the stage and is reported with its trace. -/
def Stage.guarded {α : Type} (x : ExceptT Failure Session α) : Stage α :=
  x.adapt fun f => .reported (.ofFailure f)

def Stage.ask (t : Toolchain) (c : Call) : Stage c.Answer := .guarded (t.demand c)

/-- The name that the component object has in every module. -/
def componentName : String := "__sfc__"

/-- The two builds of a component. -/
inductive Target
  | client
  | ssr
  deriving DecidableEq, Repr

def Target.isSsr : Target → Bool
  | .client => false
  | .ssr => true

def Target.renderName : Target → String
  | .client => "render"
  | .ssr => "ssrRender"

def plugins (typed : Bool) : Option (List String) := if typed then some ["typescript"] else none

def pluginsValue (typed : Bool) : Value := Value.ofOption Value.texts (plugins typed)

def bindingsValue (bindings : Option Bindings) : Value :=
  Value.ofOption (fun b => .map (b.map fun p => (.text p.1, .text p.2))) bindings

end Playground
