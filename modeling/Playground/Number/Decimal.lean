import Playground.Number.Binary64
import Playground.Text.Blank
import Playground.Text.Letter

namespace Playground.Number

/-- Longer whole numbers are refused, since reading them takes too long. -/
def maxDigits : Nat := 4300

def tooManyDigitsMessage (count : Nat) : String :=
  "Exceeds the limit (4300 digits) for integer string conversion: value has " ++ toString count ++
    " digits; use sys.set_int_max_str_digits() to increase the limit"

/-- A whole number of more digits is not shown. -/
def isUnshown (n : Int) : Bool := Nat.pow 10 maxDigits ≤ n.natAbs

def unshownMessage : String :=
  "Exceeds the limit (4300 digits) for integer string conversion; " ++
    "use sys.set_int_max_str_digits() to increase the limit"

/-- The text shown is at fault. -/
def badWholeMessage (base : Nat) (shown : String) : String :=
  "invalid literal for int() with base " ++ toString base ++ ": " ++ shown

/-- A decimal digit of any script as the ASCII digit of its value. -/
def asciiDigit (c : Char) : Char :=
  match Text.digitValue? c with
  | some n => Char.ofNat (48 + n)
  | none => c

def asciiDigits (s : List Char) : List Char := (Text.trimPadding s).map asciiDigit

def signed (s : List Char) : Bool × List Char :=
  match s with
  | '-' :: r => (true, r)
  | '+' :: r => (false, r)
  | r => (false, r)

def digitOf? (base : Nat) (c : Char) : Option Nat :=
  let value? := if '0' ≤ c ∧ c ≤ '9' then some (c.toNat - 48)
    else if 'a' ≤ c ∧ c ≤ 'f' then some (c.toNat - 87)
    else if 'A' ≤ c ∧ c ≤ 'F' then some (c.toNat - 55)
    else none
  value?.filter (· < base)

def digitsOf? (base : Nat) (s : List Char) : Option Nat :=
  if s.isEmpty then none
  else s.foldlM (fun sum c => (digitOf? base c).map (sum * base + ·)) 0

/-- The letter after a zero that announces a base. -/
def baseMark : Nat → List Char
  | 2 => ['b', 'B']
  | 8 => ['o', 'O']
  | 16 => ['x', 'X']
  | _ => []

def withoutMark (base : Nat) (s : List Char) : List Char :=
  match s with
  | '0' :: m :: r => if (baseMark base).contains m then r else s
  | s => s

/-- A whole number with a sign or none, blanks around it, and perhaps the mark of its base. -/
def whole? (base : Nat) (s : List Char) : Option Int :=
  let (neg, r) := signed (asciiDigits s)
  (digitsOf? base (withoutMark base r)).map fun n => if neg then -(n : Int) else n

def isAsciiDigit (c : Char) : Bool := '0' ≤ c && c ≤ '9'

def exponent? (s : List Char) : Option Int :=
  match s with
  | [] => some 0
  | e :: r =>
    if e = 'e' ∨ e = 'E' then
      let (neg, digits) := signed r
      if digits.all isAsciiDigit then
        (digitsOf? 10 digits).map fun n => if neg then -(n : Int) else n
      else none
    else none

def special? (neg : Bool) (s : List Char) : Option Binary64 :=
  let word := String.ofList (s.map Char.toLower)
  if word = "inf" ∨ word = "infinity" then some (.infinite neg)
  else if word = "nan" then some .nan
  else none

/-- A number with a point, an exponent or neither, blanks around it, or the name of a special
value. -/
def real? (s : List Char) : Option Binary64 :=
  let (neg, r) := signed (asciiDigits s)
  let whole := r.takeWhile isAsciiDigit
  let rest := r.dropWhile isAsciiDigit
  let (fraction, rest) := match rest with
    | '.' :: t => (t.takeWhile isAsciiDigit, t.dropWhile isAsciiDigit)
    | t => ([], t)
  match digitsOf? 10 (whole ++ fraction), exponent? rest with
  | some n, some e => some (.ofDecimal neg n (e - fraction.length))
  | some _, none => none
  | none, _ => special? neg r

namespace Binary64

def negate : Binary64 → Binary64
  | .finite neg m e => .finite (!neg) m e
  | .infinite neg => .infinite (!neg)
  | .nan => .nan

/-- A sum of whole numbers over a power of two, rounded to the nearest double. -/
def ofScaledInt (n : Int) (e : Int) : Binary64 :=
  if e < 0 then ofRatio (n < 0) n.natAbs (Nat.pow 2 e.natAbs)
  else ofRatio (n < 0) (n.natAbs * Nat.pow 2 e.natAbs) 1

def signedBy (neg : Bool) (m : Nat) : Int := if neg then -(m : Int) else m

def add : Binary64 → Binary64 → Binary64
  | .finite n₁ m₁ e₁, .finite n₂ m₂ e₂ =>
    if m₁ = 0 ∧ m₂ = 0 then zero (n₁ && n₂)
    else
      let e := min e₁ e₂
      let a := signedBy n₁ (m₁ * Nat.pow 2 (e₁ - e).toNat)
      let b := signedBy n₂ (m₂ * Nat.pow 2 (e₂ - e).toNat)
      ofScaledInt (a + b) e
  | .infinite n₁, .infinite n₂ => if n₁ = n₂ then .infinite n₁ else .nan
  | .infinite n, .finite .. => .infinite n
  | .finite .., .infinite n => .infinite n
  | _, _ => .nan

def mul : Binary64 → Binary64 → Binary64
  | .finite n₁ m₁ e₁, .finite n₂ m₂ e₂ =>
    if m₁ = 0 ∨ m₂ = 0 then zero (n₁ != n₂)
    else ofScaledInt (signedBy (n₁ != n₂) (m₁ * m₂)) (e₁ + e₂)
  | .infinite n₁, .infinite n₂ => .infinite (n₁ != n₂)
  | .infinite n₁, .finite n₂ m _ => if m = 0 then .nan else .infinite (n₁ != n₂)
  | .finite n₁ m _, .infinite n₂ => if m = 0 then .nan else .infinite (n₁ != n₂)
  | _, _ => .nan

end Binary64

end Playground.Number
