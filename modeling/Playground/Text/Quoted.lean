import Playground.Text.CodePoint
import Playground.Text.Printable

namespace Playground.Text

def hexDigit (n : Nat) : Char := if n < 10 then Char.ofNat (48 + n) else Char.ofNat (87 + n)

/-- The last `width` hexadecimal digits of a number. -/
def hexDigits : Nat → Nat → List Char
  | 0, _ => []
  | width + 1, n => hexDigits width (n / 16) ++ [hexDigit (n % 16)]

def hexEscape (n : Nat) : List Char :=
  if n < 0x100 then '\\' :: 'x' :: hexDigits 2 n
  else if n < 0x10000 then '\\' :: 'u' :: hexDigits 4 n
  else '\\' :: 'U' :: hexDigits 8 n

def quotedChar (mark c : Char) : List Char :=
  if c = mark ∨ c = '\\' then ['\\', c]
  else if c = '\n' then ['\\', 'n']
  else if c = '\r' then ['\\', 'r']
  else if c = '\t' then ['\\', 't']
  else if isPrintable c then [c]
  else hexEscape c.toNat

def quotedPoint (mark : Char) (n : Nat) : List Char :=
  if isHalf n then hexEscape n else quotedChar mark (Char.ofNat n)

/-- Single quotes stand around a text unless it holds one and no double quote. -/
def quoteMark (s : List Char) : Char :=
  if s.contains '\'' && !s.contains '"' then '"' else '\''

/-- A text as messages show it: in quotes, with escapes for what cannot be printed. -/
def quoteChars (s : List Char) : List Char :=
  let mark := quoteMark s
  mark :: (points s).flatMap (quotedPoint mark) ++ [mark]

def quote (s : String) : String := String.ofList (quoteChars s.toList)

def quotedByte (mark : Char) (n : Nat) : List Char :=
  let c := Char.ofNat n
  if n < 0x80 ∧ (isPrintable c ∨ n = 9 ∨ n = 10 ∨ n = 13) then quotedChar mark c
  else '\\' :: 'x' :: hexDigits 2 n

/-- Bytes as messages show them: like a text, with escapes for all but printable ASCII. -/
def quoteBytes (data : List Nat) : String :=
  let mark := quoteMark (data.map Char.ofNat)
  String.ofList ('b' :: mark :: data.flatMap (quotedByte mark) ++ [mark])

end Playground.Text
