import Playground.Path.Virtual

namespace Playground

/-- The compiled output of one file. A stage that does not run leaves its slot as it was. -/
structure Artifact where
  js : String := ""
  ssr : String := ""
  css : String := ""
  deriving DecidableEq, Repr

structure VirtualFile where
  filename : String
  code : String := ""
  compiled : Artifact := {}
  deriving DecidableEq, Repr

def VirtualFile.suffix (f : VirtualFile) : String := Path.suffix f.filename

/-- What a compile did: nothing to do, artifact updated, or artifact left alone. -/
inductive Outcome
  | skipped
  | compiled
  | aborted
  deriving DecidableEq, Repr

def Outcome.label : Outcome → String
  | .skipped => "skipped"
  | .compiled => "compiled"
  | .aborted => "aborted"

/-- A compiled file may still have errors, those of single styles. Warnings tell of a degraded SSR
build. -/
structure Report where
  filename : String
  outcome : Outcome
  errors : List String := []
  warnings : List String := []
  deriving DecidableEq, Repr

def Report.ok (r : Report) : Bool := r.outcome ≠ .aborted && r.errors.isEmpty

end Playground
