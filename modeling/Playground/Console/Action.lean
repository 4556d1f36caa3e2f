import Playground.Literal.Value

namespace Playground.Console

/-- Why the parameters of an action cannot be read: which part of them, and the cause. -/
structure ActionFault where
  parameters : String
  read : String
  cause : Literal.Refusal
  deriving DecidableEq, Repr

def ActionFault.message (f : ActionFault) : String :=
  match f.cause with
  | .notExpression fault =>
    "error parsing " ++ Text.quote f.read ++ " in " ++ Text.quote f.parameters ++ "; " ++
      fault.message
  | cause => "error parsing " ++ Text.quote f.parameters ++ "; " ++ cause.message

def isHandlerChar (c : Char) : Bool := Text.isWordChar c || c == '.'

/-- The literal in the parameters of an action. After the name of a handler it stands in brackets
on one line, and where nothing follows the name there is an empty one; all else is a literal. -/
def actionLiteral (parameters : List Char) : List Char :=
  let s := Text.trim parameters
  let rest := s.dropWhile isHandlerChar
  if rest.isEmpty then ['(', ')']
  else if rest.head? = some '(' ∧ rest.getLast? = some ')' ∧ !rest.contains '\n' then rest
  else s

def checkAction (parameters : String) : Except ActionFault Unit :=
  let read := actionLiteral parameters.toList
  (Literal.check (read.dropWhile fun c => c == ' ' || c == '\t')).mapError fun cause =>
    ⟨parameters, String.ofList read, cause⟩

end Playground.Console
