import Playground.Number.Binary64

namespace Playground.Number

/-- A positive quotient: `num / den`. -/
structure Ratio where
  num : Nat
  den : Nat

def Ratio.scale10 (r : Ratio) (power : Int) : Ratio :=
  if power < 0 then ⟨r.num, r.den * Nat.pow 10 power.natAbs⟩
  else ⟨r.num * Nat.pow 10 power.natAbs, r.den⟩

def leadingZeros (r : Ratio) : Nat → Nat → Nat
  | 0, j => j
  | fuel + 1, j => if r.den ≤ r.num * Nat.pow 10 j then j else leadingZeros r fuel (j + 1)

/-- How many digits stand before the point; below 0.1 it counts the zeros after the point. -/
def Ratio.magnitude (r : Ratio) : Int :=
  if r.den ≤ r.num then Binary64.digitCount (r.num / r.den) else 1 - leadingZeros r 400 1

/-- The reals that read back as one double lie between two bounds, which belong to them when the
significand is even. The three numbers have a common denominator. -/
structure Interval where
  low : Nat
  value : Nat
  high : Nat
  den : Nat
  closed : Bool

def Interval.ofDouble (m : Nat) (e : Int) : Interval :=
  let below := if m = 4503599627370496 ∧ e > -1074 then 1 else 2
  let unit := if e < 2 then 1 else Nat.pow 2 (e - 2).natAbs
  let den := if e < 2 then Nat.pow 2 (2 - e).natAbs else 1
  ⟨(4 * m - below) * unit, 4 * m * unit, (4 * m + 2) * unit, den, m % 2 == 0⟩

def Interval.holds (i : Interval) (n : Nat) (power : Int) : Bool :=
  let (a, b) := if power < 0 then (n * i.den, Nat.pow 10 power.natAbs)
    else (n * Nat.pow 10 power.natAbs * i.den, 1)
  (i.low * b < a && a < i.high * b) || (i.closed && (a == i.low * b || a == i.high * b))

/-- With `count` digits: the neighbour of the value on that grid that reads back, the nearer of
two. -/
def Interval.candidate (i : Interval) (power : Int) : Option Nat :=
  let r := Ratio.scale10 ⟨i.value, i.den⟩ (-power)
  let d := r.num / r.den
  let nearer := if 2 * (r.num % r.den) < r.den ∨ (2 * (r.num % r.den) = r.den ∧ d % 2 = 0)
    then [d, d + 1] else [d + 1, d]
  nearer.find? fun n => i.holds n power

def Interval.shortest (i : Interval) (magnitude : Int) : Nat → Nat → Nat × Int
  | 0, count => ((i.candidate (magnitude - count)).getD 0, magnitude - count)
  | fuel + 1, count =>
    match i.candidate (magnitude - count) with
    | some n => (n, magnitude - count)
    | none => i.shortest magnitude fuel (count + 1)

def trimZeros : Nat → Nat × Int → Nat × Int
  | 0, p => p
  | fuel + 1, (n, power) =>
    if n ≠ 0 ∧ n % 10 = 0 then trimZeros fuel (n / 10, power + 1) else (n, power)

/-- The fewest digits that read back as the double, and the power of ten that they count. -/
def shortest (m : Nat) (e : Int) : Nat × Int :=
  let i := Interval.ofDouble m e
  trimZeros 20 (i.shortest (Ratio.magnitude ⟨i.value, i.den⟩) 17 1)

def zeros (n : Nat) : List Char := List.replicate n '0'

/-- Positional notation stands from 0.0001 up to 10^16, always with a point; else one digit stands
before the point and the exponent has a sign and two digits or more. -/
def layout (digits : List Char) (power : Int) : List Char :=
  let point := digits.length + power
  if -4 < point ∧ point ≤ 16 then
    if point ≤ 0 then '0' :: '.' :: zeros point.natAbs ++ digits
    else if digits.length ≤ point then digits ++ zeros power.natAbs ++ ['.', '0']
    else digits.take point.natAbs ++ '.' :: digits.drop point.natAbs
  else
    let exponent := point - 1
    let shown := Nat.toDigits 10 exponent.natAbs
    let head := match digits with
      | [] => []
      | [d] => [d]
      | d :: r => d :: '.' :: r
    head ++ 'e' :: (if exponent < 0 then '-' else '+') :: zeros (2 - shown.length) ++ shown

def Binary64.text : Binary64 → String
  | .nan => "nan"
  | .infinite neg => if neg then "-inf" else "inf"
  | .finite neg m e =>
    let body := if m = 0 then ['0', '.', '0']
      else
        let (n, power) := shortest m e
        layout (Nat.toDigits 10 n) power
    String.ofList (if neg then '-' :: body else body)

end Playground.Number
