import Playground.Text.Blank

/-! Whole numbers as the validation library is assumed to read them from a text: blanks around them,
a sign, zeros in front, low lines between digits and a fraction of zeros are let through. -/

namespace Playground.WholeText

/-- Why a text is no whole number. -/
inductive Refusal
  | malformed
  | tooLong
  deriving DecidableEq, Repr

def isDigit (c : Char) : Bool := '0' ≤ c && c ≤ '9'

/-- A plus sign says nothing, and no other sign follows it. -/
def withoutPlus : List Char → Option (List Char)
  | '+' :: '-' :: _ => none
  | '+' :: r => some r
  | s => some s

/-- The rest of a number after the zeros in front of it, which low lines may join. The last zero
stays before a point and when nothing else is left; `last` is the character before the rest. -/
def pastZeros (last : Char) : List Char → Option (List Char)
  | [] => some [last]
  | c :: r =>
    if c = '0' ∨ c = '_' then pastZeros c r
    else if c = '.' then some (last :: c :: r)
    else if c = '-' ∨ isDigit c then some (c :: r)
    else none

def withoutZeros : List Char → Option (List Char)
  | '0' :: r => pastZeros '0' r
  | c :: r => if c = '-' ∨ isDigit c then some (c :: r) else none
  | [] => none

/-- A fraction of nothing but zeros says nothing; a point without a fraction is kept. -/
def withoutFraction (s : List Char) : List Char :=
  let fraction := (s.dropWhile (· ≠ '.')).drop 1
  if !fraction.isEmpty && fraction.all (· = '0') then s.takeWhile (· ≠ '.') else s

/-- Whether two low lines stand side by side. -/
def doublesLine : List Char → Bool
  | '_' :: '_' :: _ => true
  | _ :: r => doublesLine r
  | [] => false

/-- Low lines are left out where each stands alone between two other characters. -/
def withoutLines (s : List Char) : List Char :=
  if s.head? = some '_' ∨ s.getLast? = some '_' ∨ doublesLine s then s else s.filter (· ≠ '_')

def natOf (digits : List Char) : Nat := digits.foldl (fun n c => n * 10 + (c.toNat - 48)) 0

/-- Longer numbers are refused, since reading them takes too long. The sign counts. -/
def maxLength : Nat := 4300

/-- Digits, perhaps after a minus sign. The length is looked at before what follows the digits. -/
def number (s : List Char) : Except Refusal Int :=
  let (sign, r) := match s with
    | '-' :: r => (1, r)
    | r => (0, r)
  let digits := r.takeWhile isDigit
  if maxLength < sign + digits.length then .error .tooLong
  else if digits.isEmpty ∨ digits.length < r.length then .error .malformed
  else .ok (if sign = 1 then -(natOf digits : Int) else natOf digits)

/-- Reads a whole number as a setting may write it: with blanks around it, a sign, zeros in front,
low lines between its digits and a fraction of zeros. -/
def read (s : List Char) : Except Refusal Int :=
  match (withoutPlus (Text.trimPadding s)).bind withoutZeros with
  | some r => number (withoutLines (withoutFraction r))
  | none => .error .malformed

end Playground.WholeText
