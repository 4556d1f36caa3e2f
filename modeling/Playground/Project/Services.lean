import Playground.Project.Basic
import Playground.Toolchain.Basic

namespace Playground

/-- What a module offers under a name: a toolchain, something that makes one when it is called, or
a plain value. A factory may raise, or make something else. -/
inductive Offer
  | toolchain (t : Toolchain)
  | factory (make : Except Failure (Toolchain ⊕ String))
  | plain (kind : String)

/-- The modules that a manifest can name services from. A module inside a package has the name of
the package and a dot in front. -/
structure Registry where
  packages : List String := []
  modules : List (String × List (String × Offer)) := []

inductive ServicesError
  | unnamed
  | badReference (reference : String)
  | relativeModule (name : String)
  | noModule (name : String)
  | notPackage (name parent : String)
  | noOffer (moduleName name : String)
  | notCallable (kind : String)
  | raised (failure : Failure)
  | notServices (reference kind : String)
  deriving DecidableEq, Repr

def ServicesError.message : ServicesError → String
  | .unnamed =>
    "Project does not name compiler services. " ++
      "Fix: set `services: package.module:factory` in the manifest."
  | .badReference reference =>
    "Invalid services reference " ++ Text.quote reference ++ ". " ++
      "Fix: use the form `package.module:factory`."
  | .relativeModule name =>
    "the 'package' argument is required to perform a relative import for " ++ Text.quote name
  | .noModule name => "No module named " ++ Text.quote name
  | .notPackage name parent =>
    "No module named " ++ Text.quote name ++ "; " ++ Text.quote parent ++ " is not a package"
  | .noOffer moduleName name =>
    "module " ++ Text.quote moduleName ++ " has no attribute " ++ Text.quote name
  | .notCallable kind => "'" ++ kind ++ "' object is not callable"
  | .raised failure => failure.text
  | .notServices reference kind =>
    reference ++ " produced <class '" ++ kind ++ "'>, expected CompilerServices."

namespace Registry

def isPackage (r : Registry) (name : String) : Bool := r.packages.contains name

def isKnown (r : Registry) (name : String) : Bool := r.isPackage name || Assoc.has name r.modules

/-- The names of the packages around a module and its own, from the outside in. -/
def chain (name : String) : List String :=
  let parts := Text.splitOn '.' name.toList
  (List.range parts.length).map fun n => String.ofList (['.'].intercalate (parts.take (n + 1)))

/-- Walks down to a module; each one but the last has to be a package. -/
def checkChain (r : Registry) : Option String → List String → Except ServicesError Unit
  | _, [] => .ok ()
  | outer, name :: names =>
    match outer with
    | some parent =>
      if !r.isPackage parent then .error (.notPackage name parent)
      else if r.isKnown name then r.checkChain (some name) names
      else .error (.noModule name)
    | none => if r.isKnown name then r.checkChain (some name) names else .error (.noModule name)

def offer (r : Registry) (moduleName name : String) : Except ServicesError Offer :=
  if moduleName.startsWith "." then .error (.relativeModule moduleName)
  else match r.checkChain none (chain moduleName) with
    | .error e => .error e
    | .ok () =>
      match (Assoc.get? moduleName r.modules).bind (Assoc.get? name) with
      | some offer => .ok offer
      | none => .error (.noOffer moduleName name)

def make (reference : String) : Offer → Except ServicesError Toolchain
  | .toolchain t => .ok t
  | .plain kind => .error (.notCallable kind)
  | .factory (.error failure) => .error (.raised failure)
  | .factory (.ok (.inl t)) => .ok t
  | .factory (.ok (.inr kind)) => .error (.notServices reference kind)

/-- Resolves a reference: the name of a module, a colon, and the name of what it offers. -/
def load (r : Registry) (reference : Option String) : Except ServicesError Toolchain :=
  match reference with
  | none => .error .unnamed
  | some reference =>
    if reference.isEmpty then .error .unnamed
    else match Text.cutAt ':' reference.toList with
      | none => .error (.badReference reference)
      | some (moduleName, name) =>
        if moduleName.isEmpty || name.isEmpty then .error (.badReference reference)
        else (r.offer (String.ofList moduleName) (String.ofList name)).bind (make reference)

end Registry

end Playground
