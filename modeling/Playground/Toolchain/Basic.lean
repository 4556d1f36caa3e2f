import Playground.Component.Descriptor
import Playground.Toolchain.Failure
import Playground.Value.Basic

namespace Playground

/-- Names bound by a script and their kinds. -/
abbrev Bindings := List (String × String)

structure Parsed where
  descriptor : Descriptor
  errors : List Diagnostic := []
  deriving DecidableEq, Repr

structure CompiledScript where
  content : String
  bindings : Option Bindings := none
  deriving DecidableEq, Repr

structure CompiledBlock where
  code : String
  errors : List Diagnostic := []
  deriving DecidableEq, Repr

/-- One request to the services. -/
inductive Call
  | scopeId (filename : String)
  | parse (source filename : String) (sourceMap : Bool)
  | compileScript (descriptor : Descriptor) (options : Fields)
  | compileTemplate (options : Fields)
  | compileStyle (options : Fields)
  | bindDefault (code identifier : String) (plugins : Option (List String))
  | stripTypes (code : String)
  | shouldTransform (code : String)
  | transform (code filename : String)

abbrev Call.Answer : Call → Type
  | .scopeId _ => String
  | .parse .. => Parsed
  | .compileScript .. => CompiledScript
  | .compileTemplate _ => CompiledBlock
  | .compileStyle _ => CompiledBlock
  | .bindDefault .. => String
  | .stripTypes _ => String
  | .shouldTransform _ => Bool
  | .transform .. => String

/-- The external services. An answer may depend on the calls that came before. -/
structure Toolchain where
  transformsRefs : Bool
  respond : List Call → (c : Call) → Except Failure c.Answer

/-- Services that answer by the request alone. -/
def Toolchain.IsPure (t : Toolchain) : Prop := ∀ h h' c, t.respond h c = t.respond h' c

/-- A run that asks services and keeps the history of its calls. -/
abbrev Session := StateM (List Call)

def Toolchain.ask (t : Toolchain) (c : Call) : Session (Except Failure c.Answer) :=
  fun history => (t.respond history c, history ++ [c])

/-- Asks a service and stops with what it raises. -/
def Toolchain.demand (t : Toolchain) (c : Call) : ExceptT Failure Session c.Answer :=
  ExceptT.mk (t.ask c)

end Playground
