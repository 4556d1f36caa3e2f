namespace Playground.Number

/-- A double: a signed significand below 2^53 times a power of two, or one of the special values.
The exponent is the smallest one that the significand allows. -/
inductive Binary64
  | finite (neg : Bool) (significand : Nat) (exponent : Int)
  | infinite (neg : Bool)
  | nan
  deriving DecidableEq, Repr

/-- The quotient rounded to the nearest whole number, a half to the even neighbour. -/
def roundHalfEven (num den : Nat) : Nat :=
  let q := num / den
  let r := num % den
  if 2 * r > den ∨ (2 * r = den ∧ q % 2 = 1) then q + 1 else q

def scaled (num den : Nat) (exponent : Int) : Nat × Nat :=
  if exponent < 0 then (num * Nat.pow 2 exponent.natAbs, den)
  else (num, den * Nat.pow 2 exponent.natAbs)

namespace Binary64

def zero (neg : Bool) : Binary64 := .finite neg 0 (-1074)

/-- The double nearest to a quotient. -/
def ofRatio (neg : Bool) (num den : Nat) : Binary64 :=
  if num = 0 then zero neg
  else
    let guess : Int := (num.log2 : Int) - den.log2
    let (a, b) := scaled num den guess
    let log := if a < b then guess - 1 else guess
    let exponent := max (log - 52) (-1074)
    let (a, b) := scaled num den exponent
    let q := roundHalfEven a b
    let (q, exponent) :=
      if q = 9007199254740992 then (4503599627370496, exponent + 1) else (q, exponent)
    if exponent > 971 then .infinite neg else .finite neg q exponent

def digitCount (n : Nat) : Nat := (Nat.toDigits 10 n).length

/-- The double nearest to `digits` times a power of ten. -/
def ofDecimal (neg : Bool) (digits : Nat) (exponent : Int) : Binary64 :=
  let size := exponent + digitCount digits
  if digits = 0 ∨ size < -330 then zero neg
  else if size > 310 then .infinite neg
  else if exponent < 0 then ofRatio neg digits (Nat.pow 10 exponent.natAbs)
  else ofRatio neg (digits * Nat.pow 10 exponent.natAbs) 1

def ofNat (neg : Bool) (n : Nat) : Binary64 := ofRatio neg n 1

/-- The whole number that a double is, if it is one. -/
def toInt? : Binary64 → Option Int
  | .finite neg m e =>
    let (a, b) := if e < 0 then (m, Nat.pow 2 e.natAbs) else (m * Nat.pow 2 e.natAbs, 1)
    if a % b = 0 then some (if neg then -(a / b : Nat) else (a / b : Nat)) else none
  | _ => none

def isZero : Binary64 → Bool
  | .finite _ m _ => m == 0
  | _ => false

end Binary64

end Playground.Number
