import Playground.Number.Decimal
import Playground.Text.Quoted

namespace Playground.Literal

/-- How a number is written. -/
inductive NumberForm
  | decimal
  | hexadecimal
  | octal
  | binary
  | imaginary
  deriving DecidableEq, Repr

def NumberForm.name : NumberForm → String
  | .decimal => "decimal"
  | .hexadecimal => "hexadecimal"
  | .octal => "octal"
  | .binary => "binary"
  | .imaginary => "imaginary"

/-- Why a text is no expression. -/
inductive Fault
  | zeroInText
  | unknownChar (c : Char)
  | unterminated (triple : Bool) (line : Nat)
  | badNumber (form : NumberForm)
  | badDigit (digit : Char) (form : NumberForm)
  | leadingZeros
  | longNumber (digits : Nat)
  | deepBrackets
  | unmatched (closing : Char)
  | mismatched (closing opening : Char) (line : Option Nat)
  | neverClosed (opening : Char)
  | strayBackslash
  | earlyEnd
  | mixedTexts
  | bytesNotAscii
  | shortEscape (start stop : Nat) (shape : String)
  | largeEscape (start stop : Nat)
  | shortByteEscape (position : Nat)
  | malformed
  | indented
  | missingComma
  | missingElse
  | missingBrackets (name : String)
  | singleEquals
  | assignment (shape : String)
  | namedAssignment (shape : String)
  | argumentAssignment
  | constantAssignment (word : String)
  | loneStar
  | starInBrackets
  | doubleStarInBrackets
  | starredLoop
  | bareTargets
  | target (shape : String)
  | starredValue
  | missingColon
  | missingValue
  deriving DecidableEq, Repr

/-- The number of a character in at least four capital hexadecimal digits. -/
def pointName (n : Nat) : String :=
  let width := if n < 0x10000 then 4 else if n < 0x100000 then 5 else 6
  "U+" ++ String.ofList ((Text.hexDigits width n).map Char.toUpper)

def unknownMessage (c : Char) : String :=
  if Text.isPrintable c then
    "invalid character '" ++ String.singleton c ++ "' (" ++ pointName c.toNat ++ ")"
  else "invalid non-printable character " ++ pointName c.toNat

def escapeMessage (start stop : Nat) (reason : String) : String :=
  "(unicode error) 'unicodeescape' codec can't decode bytes in position " ++ toString start ++ "-" ++
    toString stop ++ ": " ++ reason

def Fault.message : Fault → String
  | .zeroInText => "source code string cannot contain null bytes"
  | .unknownChar c => unknownMessage c
  | .unterminated triple line =>
    "unterminated " ++ (if triple then "triple-quoted " else "") ++
      "string literal (detected at line " ++ toString line ++ ")"
  | .badNumber form => "invalid " ++ form.name ++ " literal"
  | .badDigit digit form =>
    "invalid digit '" ++ String.singleton digit ++ "' in " ++ form.name ++ " literal"
  | .leadingZeros =>
    "leading zeros in decimal integer literals are not permitted; " ++
      "use an 0o prefix for octal integers"
  | .longNumber digits =>
    Number.tooManyDigitsMessage digits ++ " - Consider hexadecimal for huge integer literals " ++
      "to avoid decimal conversion limits."
  | .deepBrackets => "too many nested parentheses"
  | .unmatched closing => "unmatched '" ++ String.singleton closing ++ "'"
  | .mismatched closing opening line =>
    "closing parenthesis '" ++ String.singleton closing ++ "' does not match opening parenthesis '" ++
      String.singleton opening ++ "'" ++
      match line with
      | some n => " on line " ++ toString n
      | none => ""
  | .neverClosed opening => "'" ++ String.singleton opening ++ "' was never closed"
  | .strayBackslash => "unexpected character after line continuation character"
  | .earlyEnd => "unexpected EOF while parsing"
  | .mixedTexts => "cannot mix bytes and nonbytes literals"
  | .bytesNotAscii => "bytes can only contain ASCII literal characters"
  | .shortEscape start stop shape => escapeMessage start stop ("truncated " ++ shape ++ " escape")
  | .largeEscape start stop => escapeMessage start stop "illegal Unicode character"
  | .shortByteEscape position => "(value error) invalid \\x escape at position " ++ toString position
  | .malformed => "invalid syntax"
  | .indented => "unexpected indent"
  | .missingComma => "invalid syntax. Perhaps you forgot a comma?"
  | .missingElse => "expected 'else' after 'if' expression"
  | .missingBrackets name =>
    "Missing parentheses in call to '" ++ name ++ "'. Did you mean " ++ name ++ "(...)?"
  | .singleEquals => "invalid syntax. Maybe you meant '==' or ':=' instead of '='?"
  | .assignment shape => "cannot assign to " ++ shape ++ " here. Maybe you meant '==' instead of '='?"
  | .namedAssignment shape => "cannot use assignment expressions with " ++ shape
  | .argumentAssignment =>
    "expression cannot contain assignment, perhaps you meant \"==\"?"
  | .constantAssignment word => "cannot assign to " ++ word
  | .loneStar => "Invalid star expression"
  | .starInBrackets => "cannot use starred expression here"
  | .doubleStarInBrackets => "cannot use double starred expression here"
  | .starredLoop => "iterable unpacking cannot be used in comprehension"
  | .bareTargets => "did you forget parentheses around the comprehension target?"
  | .target shape => "cannot assign to " ++ shape
  | .starredValue => "cannot use a starred expression in a dictionary value"
  | .missingColon => "':' expected after dictionary key"
  | .missingValue => "expression expected after dictionary key and ':'"

end Playground.Literal
