import Playground.Number.Decimal
import Playground.Text.Base64
import Playground.Text.Letter
import Playground.Text.Quoted
import Playground.Value.Basic
import Playground.Yaml.Timestamp

/-! The values of texts, each with the failure that the constructor of the library is assumed to end
with. -/

namespace Playground.Yaml.Scalar

open Number (Binary64)

def longestShown : Nat := 200

def badWhole {α : Type} (base : Nat) (s : List Char) : Reading α :=
  .error (.badWhole base (String.ofList ((Text.quoteChars s).take longestShown)))

/-- A whole number in a base. A decimal of very many digits is refused. -/
def wholeIn (base : Nat) (s : List Char) : Reading Int :=
  match Number.whole? base s with
  | none => badWhole base s
  | some n =>
    let digits := (Number.signed (Number.asciiDigits s)).2.length
    if base = 10 ∧ Number.maxDigits < digits then .error (.tooManyDigits digits) else .ok n

def withoutLowLines (s : List Char) : List Char := s.filter (· ≠ '_')

def signAndRest (s : List Char) : Reading (Bool × List Char) :=
  match s with
  | [] => .error .emptyNumber
  | '-' :: r => .ok (true, r)
  | '+' :: r => .ok (false, r)
  | r => .ok (false, r)

def inBase60 (parts : List Int) : Int := parts.foldl (fun n d => n * 60 + d) 0

def absolute (s : List Char) : Reading Int :=
  match s with
  | [] => .error .emptyNumber
  | ['0'] => .ok 0
  | '0' :: 'b' :: r => wholeIn 2 r
  | '0' :: 'x' :: r => wholeIn 16 r
  | '0' :: _ => wholeIn 8 s
  | _ =>
    if s.contains ':' then do return inBase60 (← (Text.splitOn ':' s).mapM (wholeIn 10))
    else wholeIn 10 s

/-- Low lines between digits count for nothing. Whole numbers may be binary, octal, decimal,
hexadecimal or, with colons, in base sixty. -/
def whole (s : List Char) : Reading Int := do
  let (neg, r) ← signAndRest (withoutLowLines s)
  let n ← absolute r
  return if neg then -n else n

def realPart (s : List Char) : Reading Binary64 :=
  match Number.real? s with
  | some x => .ok x
  | none => .error (.badReal (String.ofList (Text.quoteChars s)))

/-- Adds up parts in base sixty from the last one on, rounding after every step. -/
def sumBase60 (unit : Nat) (sum : Binary64) : List Binary64 → Reading Binary64
  | [] => .ok sum
  | x :: xs =>
    match Binary64.ofNat false unit with
    | .infinite _ => .error .hugeReal
    | u => sumBase60 (unit * 60) (sum.add (x.mul u)) xs

def absoluteReal (s : List Char) : Reading Binary64 :=
  if s = ".inf".toList then .ok (.infinite false)
  else if s = ".nan".toList then .ok .nan
  else if s.contains ':' then do
    sumBase60 1 (.zero false) (← (Text.splitOn ':' s).mapM realPart).reverse
  else realPart s

/-- Small and capital letters say the same, and low lines nothing. The low lines go first, because
the small form of a letter may depend on what stands beside it. -/
def real (s : List Char) : Reading Binary64 := do
  let (neg, r) ← signAndRest (Text.lower (withoutLowLines s))
  let x ← absoluteReal r
  return if neg then x.negate else x

def trueWords : List String := ["yes", "true", "on"]

def falseWords : List String := ["no", "false", "off"]

def truth (s : List Char) : Reading Bool :=
  let word := String.ofList (Text.lower s)
  if trueWords.contains word then .ok true
  else if falseWords.contains word then .ok false
  else .error (.badTruth word)

def timestamp (s : List Char) : Reading Value :=
  match Timestamp.read? 1 (Text.withoutLineEnd s) with
  | none => .error .notDate
  | some t =>
    match t.fault with
    | some reason => .error (.badDate reason)
    | none => .ok (.other t.kindName t.shown)

def binary (s : List Char) : Reading Value :=
  if s.any fun c => 0x80 ≤ c.toNat then malformed
  else match Text.decodeBase64 s with
    | some data => .ok (.bytes data)
    | none => malformed

/-- The value of a text of some kind. Texts are no collections. -/
def ofKind (kind : Kind) (s : List Char) : Reading Value :=
  match kind with
  | .null => .ok .null
  | .truth => return .bool (← truth s)
  | .whole => return .int (← whole s)
  | .real => return .real (← real s)
  | .text => .ok (.text (String.ofList s))
  | .binary => binary s
  | .timestamp => timestamp s
  | _ => malformed

end Playground.Yaml.Scalar
