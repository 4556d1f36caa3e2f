import Playground.Text.CodePoint

namespace Playground.Text

inductive Utf8Fault
  | badStart
  | badContinuation
  | endOfData
  deriving DecidableEq, Repr

def Utf8Fault.message : Utf8Fault → String
  | .badStart => "invalid start byte"
  | .badContinuation => "invalid continuation byte"
  | .endOfData => "unexpected end of data"

/-- Bytes that are no text: the bytes from `start` up to `stop` are at fault, `byte` is the
first. -/
structure Utf8Error where
  fault : Utf8Fault
  start : Nat
  stop : Nat
  byte : Nat
  deriving DecidableEq, Repr

def isTail (b : Nat) : Bool := 0x80 ≤ b && b ≤ 0xBF

/-- The second byte of a longer character is narrower after four of the first bytes. -/
def isSecond (a b : Nat) : Bool :=
  isTail b && !(a == 0xE0 && b < 0xA0) && !(a == 0xED && 0xA0 ≤ b) && !(a == 0xF0 && b < 0x90) &&
    !(a == 0xF4 && 0x90 ≤ b)

/-- How many bytes the character with this first byte has. -/
def utf8Width (a : Nat) : Option Nat :=
  if a < 0x80 then some 1
  else if 0xC2 ≤ a && a ≤ 0xDF then some 2
  else if 0xE0 ≤ a && a ≤ 0xEF then some 3
  else if 0xF0 ≤ a && a ≤ 0xF4 then some 4
  else none

/-- The first character of a byte sequence, or the fault and how many bytes it covers. -/
def utf8Char (a : Nat) (r : List Nat) : Except (Utf8Fault × Nat) Nat :=
  match utf8Width a with
  | none => .error (.badStart, 1)
  | some 1 => .ok a
  | some 2 =>
    match r with
    | [] => .error (.endOfData, 1)
    | b :: _ => if isTail b then .ok ((a - 0xC0) * 0x40 + (b - 0x80)) else .error (.badContinuation, 1)
  | some 3 =>
    match r with
    | [] => .error (.endOfData, 1)
    | [b] => .error (if isSecond a b then (.endOfData, 2) else (.badContinuation, 1))
    | b :: c :: _ =>
      if !isSecond a b then .error (.badContinuation, 1)
      else if !isTail c then .error (.badContinuation, 2)
      else .ok ((a - 0xE0) * 0x1000 + (b - 0x80) * 0x40 + (c - 0x80))
  | some _ =>
    match r with
    | [] => .error (.endOfData, 1)
    | [b] => .error (if isSecond a b then (.endOfData, 2) else (.badContinuation, 1))
    | [b, c] =>
      .error (if !isSecond a b then (.badContinuation, 1)
        else if isTail c then (.endOfData, 3) else (.badContinuation, 2))
    | b :: c :: d :: _ =>
      if !isSecond a b then .error (.badContinuation, 1)
      else if !isTail c then .error (.badContinuation, 2)
      else if !isTail d then .error (.badContinuation, 3)
      else .ok ((a - 0xF0) * 0x40000 + (b - 0x80) * 0x1000 + (c - 0x80) * 0x40 + (d - 0x80))

def decodeFrom (start : Nat) : List Nat → Except Utf8Error (List Char)
  | [] => .ok []
  | a :: r =>
    match utf8Char a r with
    | .error (fault, width) => .error ⟨fault, start, start + width, a⟩
    | .ok n =>
      let more := (utf8Width a).getD 1 - 1
      (decodeFrom (start + 1 + more) (r.drop more)).map (ofPoint n ++ ·)
termination_by bs => bs.length
decreasing_by simp only [List.length_drop, List.length_cons]; omega

def decodeUtf8 (bytes : List Nat) : Except Utf8Error (List Char) := decodeFrom 0 bytes

def utf8Bytes (s : String) : List Nat := (plain s).toUTF8.toList.map (·.toNat)

/-- Every line end becomes a line feed: a carriage return alone, or with the line feed after it. -/
def normalizeLineEnds : List Char → List Char
  | [] => []
  | '\r' :: '\n' :: r => '\n' :: normalizeLineEnds r
  | c :: r => (if c = '\r' then '\n' else c) :: normalizeLineEnds r

theorem normalizeLineEnds_no_return (s : List Char) : '\r' ∉ normalizeLineEnds s := by
  fun_induction normalizeLineEnds s with
  | case1 => simp
  | case2 r ih => simpa using ih
  | case3 c r _ ih =>
    by_cases h : c = '\r'
    · simp [h, ih]
    · simp [h, ih, Ne.symm h]

end Playground.Text
