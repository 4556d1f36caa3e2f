import Playground.Console.Colour
import Playground.Number.Decimal
import Playground.Text.Search

/-! Words that the library which draws on the console is assumed to take as styles, and how it
writes a style. The names of tags are compared as it writes them. -/

namespace Playground.Console

/-- Ways to set text, in the order in which a style names them. -/
def effects : List String :=
  ["bold", "dim", "italic", "underline", "blink", "blink2", "reverse", "conceal", "strike",
    "underline2", "frame", "encircle", "overline"]

def shortEffects : List (String × String) :=
  [("b", "bold"), ("d", "dim"), ("i", "italic"), ("u", "underline"), ("r", "reverse"),
    ("c", "conceal"), ("s", "strike"), ("uu", "underline2"), ("o", "overline")]

def effect? (word : String) : Option String :=
  if effects.contains word then some word
  else (shortEffects.find? fun p => p.1 = word).map (·.2)

/-- What a style says: effects that are on or off, colours of text and ground, a link. -/
structure Style where
  effects : List (String × Bool) := []
  colour : Option String := none
  ground : Option String := none
  link : Option String := none
  deriving DecidableEq, Repr

def lowerText (s : String) : String := String.ofList (Text.lower s.toList)

def isDigit (c : Char) : Bool := '0' ≤ c && c ≤ '9'

def isHexDigit (c : Char) : Bool := isDigit c || ('a' ≤ c && c ≤ 'f')

def isByte (digits : List Char) : Bool :=
  !digits.isEmpty && digits.all isDigit &&
    digits.foldl (fun n d => n * 10 + (d.toNat - 48)) 0 ≤ 255

/-- What stands between brackets after a name. -/
def argument? (name : String) (s : List Char) : Option (List Char) :=
  if name.toList.isPrefixOf s ∧ s.getLast? = some ')' then
    some ((s.drop name.length).dropLast)
  else none

/-- Why a text is no style: a word of it says nothing, or a part of a colour is no number. -/
inductive StyleFault
  | unknownWord
  | emptyPart
  | longPart (digits : Nat)
  deriving DecidableEq, Repr

def StyleFault.message : StyleFault → String
  | .unknownWord => "unknown style"
  | .emptyPart => Number.badWholeMessage 10 "''"
  | .longPart digits => Number.tooManyDigitsMessage digits

/-- A part of a colour, in digits of any script. -/
def part (digits : List Char) : Except StyleFault Nat :=
  if digits.isEmpty then .error .emptyPart
  else if Number.maxDigits < digits.length then .error (.longPart digits.length)
  else .ok (digits.foldl (fun n d => n * 10 + (Text.digitValue? d).getD 0) 0)

/-- Whether a text between brackets is a colour in three parts. Anything but digits and commas makes
it none, before a part is read. -/
def isColourParts (s : List Char) : Except StyleFault Bool :=
  let parts := Text.splitOn ',' s
  if s.isEmpty ∨ parts.length ≠ 3 ∨ s.any (fun c => c ≠ ',' && (Text.digitValue? c).isNone) then
    .ok false
  else (parts.mapM part).map fun values => values.all fun n => decide (n ≤ 255)

def isColourForm (s : List Char) : Except StyleFault Bool :=
  match argument? "rgb(" s with
  | some parts => isColourParts parts
  | none =>
    .ok <| (s.length == 7 && s.head? == some '#' && (s.drop 1).all isHexDigit) ||
      match argument? "color(" s with
      | some digits => digits.length ≤ 3 && isByte digits
      | none => false

/-- A colour: by name, by six hexadecimal digits, by number or by three parts. -/
def colourOf (word : String) : Except StyleFault String := do
  let name := lowerText word
  if name = "default" ∨ colourNames.contains name then return name
  if ← isColourForm name.toList then return name else throw .unknownWord

namespace Style

def withEffect (name : String) (isOn : Bool) (s : Style) : Style :=
  { s with effects := (s.effects.filter fun p => p.1 ≠ name) ++ [(name, isOn)] }

def parseWord (word : String) (s : Style) : Except StyleFault Style :=
  match effect? word with
  | some name => .ok (s.withEffect name true)
  | none => (colourOf word).map fun c => { s with colour := some c }

/-- Reads a style word by word; three words take the next one as their object. -/
def parseWords (s : Style) : List String → Except StyleFault Style
  | [] => .ok s
  | [word] => parseWord (lowerText word) s
  | word :: next :: words =>
    if lowerText word = "on" then
      (colourOf next).bind fun c => parseWords { s with ground := some c } words
    else if lowerText word = "not" then
      match effect? next with
      | some name => parseWords (s.withEffect name false) words
      | none => .error .unknownWord
    else if lowerText word = "link" then parseWords { s with link := some next } words
    else (parseWord (lowerText word) s).bind fun s => parseWords s (next :: words)

/-- The words of a text, which blanks separate. -/
def wordsOf : List Char → List (List Char)
  | [] => []
  | c :: r =>
    if Text.isBlank c then wordsOf r
    else match r with
      | [] => [[c]]
      | d :: _ =>
        if Text.isBlank d then [c] :: wordsOf r
        else match wordsOf r with
          | [] => [[c]]
          | w :: ws => (c :: w) :: ws

def parse (name : String) : Except StyleFault Style :=
  if Text.strip name = "none" then .ok {}
  else parseWords {} ((wordsOf name.toList).map String.ofList)

def shownEffect (s : Style) (name : String) : List String :=
  match s.effects.find? fun p => p.1 = name with
  | some (_, isOn) => [if isOn then name else "not " ++ name]
  | none => []

/-- A style in its usual words. -/
def shown (s : Style) : String :=
  let words := Console.effects.flatMap s.shownEffect ++ s.colour.toList ++
    (s.ground.toList.flatMap fun c => ["on", c]) ++ (s.link.toList.flatMap fun l => ["link", l])
  if words.isEmpty then "none" else " ".intercalate words

end Style

/-- The name under which a style is looked up: its usual words, or the name in small letters when a
word of it says nothing. -/
def styleName (name : String) : Except StyleFault String :=
  match Style.parse name with
  | .ok s => .ok s.shown
  | .error .unknownWord => .ok (lowerText (Text.strip name))
  | .error fault => .error fault

end Playground.Console
