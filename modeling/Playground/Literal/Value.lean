import Playground.Literal.Expr

namespace Playground.Literal

/-- Why an expression is no literal. -/
inductive Refusal
  | notExpression (fault : Fault)
  | notLiteral
  | mergedMap
  | notHashable (kind : String)
  deriving DecidableEq, Repr

def Refusal.message : Refusal → String
  | .notExpression fault => fault.message
  | .notLiteral => "malformed node or string on line 1"
  | .mergedMap => "malformed node or string: None"
  | .notHashable kind => "unhashable type: '" ++ kind ++ "'"

/-- What keeps a literal from being a key: the kind of the first part of it that can change. -/
abbrev Changeable := Option String

namespace Expr

def isReal : Expr → Bool
  | .number imaginary => !imaginary
  | .signed (.number imaginary) => !imaginary
  | _ => false

/-- A sum is a literal when it is a complex number. -/
def isComplexSum (left right : Expr) : Bool :=
  isReal left && match right with
    | .number imaginary => imaginary
    | _ => false

mutual

/-- Whether an expression is a literal, which is looked through from the left. -/
def literal : Expr → Except Refusal Changeable
  | .constant _ => .ok none
  | .ellipsis => .ok none
  | .number _ => .ok none
  | .text => .ok none
  | .tuple items => literals items
  | .set items => do
    keys items
    return some "set"
  | .dict entries => do
    literalEntries entries
    return some "dict"
  | .signed (.number _) => .ok none
  | .sum left right => if isComplexSum left right then .ok none else .error .notLiteral
  | .emptySet => .ok (some "set")
  | _ => .error .notLiteral

def literals : List Expr → Except Refusal Changeable
  | [] => .ok none
  | e :: es => do
    let first ← literal e
    let rest ← literals es
    return first.or rest

def keys : List Expr → Except Refusal Unit
  | [] => .ok ()
  | e :: es => do
    match ← literal e with
    | some kind => throw (.notHashable kind)
    | none => keys es

def literalEntries : List (Option Expr × Expr) → Except Refusal Unit
  | [] => .ok ()
  | (none, _) :: _ => .error .mergedMap
  | (some k, v) :: entries => do
    let key ← literal k
    let _ ← literal v
    match key with
    | some kind => throw (.notHashable kind)
    | none => literalEntries entries

end

end Expr

/-- Checks that a text is a literal. -/
def check (s : List Char) : Except Refusal Unit := do
  let e ← (Expr.ofText s).mapError .notExpression
  let _ ← e.literal
  return ()

end Playground.Literal
