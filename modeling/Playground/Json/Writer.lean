import Playground.Text.Quoted
import Playground.Value.Basic

namespace Playground.Json

def unitEscape (n : Nat) : List Char := '\\' :: 'u' :: Text.hexDigits 4 n

/-- A code point in a string literal of plain ASCII; beyond the first plane it takes two units. -/
def escapePoint (n : Nat) : List Char :=
  if n = 0x22 ∨ n = 0x5C then ['\\', Char.ofNat n]
  else if n = 10 then ['\\', 'n']
  else if n = 13 then ['\\', 'r']
  else if n = 9 then ['\\', 't']
  else if n = 8 then ['\\', 'b']
  else if n = 12 then ['\\', 'f']
  else if 0x20 ≤ n ∧ n ≤ 0x7E then [Char.ofNat n]
  else if n < 0x10000 then unitEscape n
  else unitEscape (0xD800 + (n - 0x10000) / 0x400) ++ unitEscape (0xDC00 + (n - 0x10000) % 0x400)

def literalChars (s : List Char) : List Char := '"' :: (Text.points s).flatMap escapePoint ++ ['"']

/-- A text as a string literal. -/
def literal (s : String) : String := String.ofList (literalChars s.toList)

def real (x : Number.Binary64) : String :=
  match x with
  | .nan => "NaN"
  | .infinite neg => if neg then "-Infinity" else "Infinity"
  | .finite .. => x.text

def keyText : Key → String
  | .null => "null"
  | .bool b => if b then "true" else "false"
  | .int n => toString n
  | .real x => real x
  | .text s => s
  | .bytes data => Text.quoteBytes data
  | .other _ shown => shown

mutual

/-- A value on one line, without blanks. -/
def render : Value → String
  | .null => "null"
  | .bool b => if b then "true" else "false"
  | .int n => toString n
  | .real x => real x
  | .text s => literal s
  | .bytes data => literal (Text.quoteBytes data)
  | .list items => "[" ++ ",".intercalate (renderItems items) ++ "]"
  | .map fields => "\x7b" ++ ",".intercalate (renderFields fields) ++ "\x7d"
  | .other _ shown => literal shown

def renderItems : List Value → List String
  | [] => []
  | v :: vs => render v :: renderItems vs

def renderFields : List (Key × Value) → List String
  | [] => []
  | (k, v) :: fields => (literal (keyText k) ++ ":" ++ render v) :: renderFields fields

end

/-- A map of texts with one entry a line, each two blanks in. -/
def renderTexts (entries : List (String × String)) : String :=
  if entries.isEmpty then "\x7b\x7d"
  else
    let line := fun (p : String × String) => "  " ++ literal p.1 ++ ": " ++ literal p.2
    "\x7b\n" ++ ",\n".intercalate (entries.map line) ++ "\n\x7d"

end Playground.Json
