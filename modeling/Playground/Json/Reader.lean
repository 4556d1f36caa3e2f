import Playground.Number.Decimal
import Playground.Value.Basic

namespace Playground.Json

/-- Why a text is no value. Whole numbers of very many digits and very deep values are refused. -/
inductive ReadError
  | malformed
  | tooManyDigits (count : Nat)
  | tooDeep (isMap : Bool)
  deriving DecidableEq, Repr

def ReadError.message : ReadError → String
  | .malformed => "malformed document"
  | .tooManyDigits count => Number.tooManyDigitsMessage count
  | .tooDeep isMap =>
    "maximum recursion depth exceeded while decoding a JSON " ++
      (if isMap then "object" else "array") ++ " from a unicode string"

/-- So many brackets may be open at once. -/
def deepest : Nat := 990

abbrev Reading := Except ReadError

def isSpace (c : Char) : Bool := c == ' ' || c == '\t' || c == '\n' || c == '\r'

def skip (s : List Char) : List Char := s.dropWhile isSpace

def hexValue? (c : Char) : Option Nat :=
  if '0' ≤ c ∧ c ≤ '9' then some (c.toNat - 48)
  else if 'a' ≤ c ∧ c ≤ 'f' then some (c.toNat - 87)
  else if 'A' ≤ c ∧ c ≤ 'F' then some (c.toNat - 55)
  else none

def unit? : List Char → Option (Nat × List Char)
  | a :: b :: c :: d :: r => do
    let a ← hexValue? a
    let b ← hexValue? b
    let c ← hexValue? c
    let d ← hexValue? d
    return (((a * 16 + b) * 16 + c) * 16 + d, r)
  | _ => none

def isHigh (n : Nat) : Bool := 0xD800 ≤ n && n ≤ 0xDBFF

def isLow (n : Nat) : Bool := 0xDC00 ≤ n && n ≤ 0xDFFF

def shortEscape? : Char → Option Char
  | '"' => some '"'
  | '\\' => some '\\'
  | '/' => some '/'
  | 'b' => some '\x08'
  | 'f' => some '\x0c'
  | 'n' => some '\n'
  | 'r' => some '\r'
  | 't' => some '\t'
  | _ => none

/-- The code points of a string literal up to its closing quote. Two units of a pair are one code
point; a unit without its other half stays as it is. -/
def codePoints : Nat → List Char → Reading (List Nat × List Char)
  | 0, _ => .error .malformed
  | fuel + 1, s =>
    match s with
    | [] => .error .malformed
    | '"' :: r => .ok ([], r)
    | '\\' :: 'u' :: r =>
      match unit? r with
      | none => .error .malformed
      | some (high, r) =>
        let pair := match r with
          | '\\' :: 'u' :: t =>
            match unit? t with
            | some (low, t) => if isHigh high && isLow low then some (low, t) else none
            | none => none
          | _ => none
        match pair with
        | some (low, t) => do
          let (rest, t) ← codePoints fuel t
          return ((0x10000 + (high - 0xD800) * 0x400 + (low - 0xDC00)) :: rest, t)
        | none => do
          let (rest, t) ← codePoints fuel r
          return (high :: rest, t)
    | '\\' :: e :: r =>
      match shortEscape? e with
      | none => .error .malformed
      | some c => do
        let (rest, t) ← codePoints fuel r
        return (c.toNat :: rest, t)
    | c :: r =>
      if c.toNat < 0x20 ∨ c = '\\' then .error .malformed
      else do
        let (rest, t) ← codePoints fuel r
        return (c.toNat :: rest, t)

def text (points : List Nat) : String := String.ofList (Text.ofPoints points)

def isDigit (c : Char) : Bool := '0' ≤ c && c ≤ '9'

def natOf (digits : List Char) : Nat := digits.foldl (fun n c => n * 10 + (c.toNat - 48)) 0

def fraction? : List Char → List Char × List Char
  | '.' :: r =>
    if (r.takeWhile isDigit).isEmpty then ([], '.' :: r)
    else (r.takeWhile isDigit, r.dropWhile isDigit)
  | s => ([], s)

def exponent? (s : List Char) : Option Int × List Char :=
  match s with
  | e :: r =>
    if e = 'e' ∨ e = 'E' then
      let (neg, t) := match r with
        | '-' :: t => (true, t)
        | '+' :: t => (false, t)
        | t => (false, t)
      let digits := t.takeWhile isDigit
      if digits.isEmpty then (none, s)
      else
        let n : Int := natOf digits
        (some (if neg then -n else n), t.dropWhile isDigit)
    else (none, s)
  | [] => (none, s)

def number (neg : Bool) (s : List Char) : Reading (Value × List Char) :=
  let whole := match s with
    | '0' :: _ => ['0']
    | _ => s.takeWhile isDigit
  if whole.isEmpty then .error .malformed
  else
    let rest := s.drop whole.length
    let (frac, rest) := fraction? rest
    match frac, exponent? rest with
    | [], (none, rest) =>
      if Number.maxDigits < whole.length then .error (.tooManyDigits whole.length)
      else
        let n : Int := natOf whole
        .ok (.int (if neg then -n else n), rest)
    | frac, (e, rest) =>
      .ok (.real (.ofDecimal neg (natOf (whole ++ frac)) (e.getD 0 - frac.length)), rest)

def word? (word : String) (s : List Char) : Option (List Char) :=
  if word.toList.isPrefixOf s then some (s.drop word.length) else none

def constants : List (String × Value) :=
  [("null", .null), ("true", .bool true), ("false", .bool false), ("NaN", .real .nan),
    ("Infinity", .real (.infinite false)), ("-Infinity", .real (.infinite true))]

def scalar (s : List Char) : Reading (Value × List Char) :=
  match constants.findSome? fun (w, v) => (word? w s).map (v, ·) with
  | some found => .ok found
  | none =>
    match s with
    | '-' :: r => number true r
    | s => number false s

mutual

/-- A value in which `depth` brackets may still be opened. -/
def value (depth : Nat) : Nat → List Char → Reading (Value × List Char)
  | 0, _ => .error .malformed
  | fuel + 1, s =>
    match s with
    | '"' :: r => do
      let (points, r) ← codePoints (r.length + 1) r
      return (.text (text points), r)
    | '[' :: r =>
      if depth = 0 then .error (.tooDeep false)
      else match skip r with
      | ']' :: r => .ok (.list [], r)
      | r => do
        let (items, r) ← items (depth - 1) fuel r
        return (.list items, r)
    | '{' :: r =>
      if depth = 0 then .error (.tooDeep true)
      else match skip r with
      | '}' :: r => .ok (.map [], r)
      | r => do
        let (fields, r) ← entries (depth - 1) fuel r
        return (.map (Assoc.ofPairs fields), r)
    | s => scalar s

def items (depth : Nat) : Nat → List Char → Reading (List Value × List Char)
  | 0, _ => .error .malformed
  | fuel + 1, s => do
    let (v, r) ← value depth fuel s
    match skip r with
    | ']' :: r => return ([v], r)
    | ',' :: r => do
      let (vs, r) ← items depth fuel (skip r)
      return (v :: vs, r)
    | _ => .error .malformed

def entries (depth : Nat) : Nat → List Char → Reading (List (Key × Value) × List Char)
  | 0, _ => .error .malformed
  | fuel + 1, s =>
    match s with
    | '"' :: r => do
      let (points, r) ← codePoints (r.length + 1) r
      match skip r with
      | ':' :: r => do
        let (v, r) ← value depth fuel (skip r)
        match skip r with
        | '}' :: r => return ([(.text (text points), v)], r)
        | ',' :: r => do
          let (more, r) ← entries depth fuel (skip r)
          return ((.text (text points), v) :: more, r)
        | _ => .error .malformed
      | _ => .error .malformed
    | _ => .error .malformed

end

/-- Reads one value with nothing but blanks around it. Of entries with one key the first gives the
place and the last the value. -/
def read (s : List Char) : Except ReadError Value := do
  let (v, rest) ← value deepest (2 * s.length + 2) (skip s)
  if (skip rest).isEmpty then return v else throw .malformed

end Playground.Json
