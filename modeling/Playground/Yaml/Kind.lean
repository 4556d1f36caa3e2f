import Playground.Text.Lines
import Playground.Text.Search
import Playground.Yaml.Label

/-! What plain words stand for by the resolver of the library, which is assumed to follow version
1.1: yes and no are truth values, and colons make numbers in base sixty. -/

namespace Playground.Yaml

/-- What a node stands for. -/
inductive Kind
  | null
  | truth
  | whole
  | real
  | text
  | binary
  | timestamp
  | sequence
  | mapping
  | set
  | orderedMap
  | pairs
  | merge
  | default
  | unknown
  deriving DecidableEq, Repr

namespace Kind

def standard : List (String × Kind) :=
  [("null", .null), ("bool", .truth), ("int", .whole), ("float", .real), ("str", .text),
    ("binary", .binary), ("timestamp", .timestamp), ("seq", .sequence), ("map", .mapping),
    ("set", .set), ("omap", .orderedMap), ("pairs", .pairs), ("merge", .merge), ("value", .default)]

def standardStart : List Char := "tag:yaml.org,2002:".toList

/-- The kind that a full tag names. -/
def ofTag (tag : List Char) : Kind :=
  match standard.find? fun p => standardStart ++ p.1.toList = tag with
  | some (_, k) => k
  | none => .unknown

def nullWords : List String := ["~", "null", "Null", "NULL", ""]

def truthWords : List String :=
  ["yes", "Yes", "YES", "no", "No", "NO", "true", "True", "TRUE", "false", "False", "FALSE",
    "on", "On", "ON", "off", "Off", "OFF"]

def withoutSign : List Char → List Char
  | '-' :: r => r
  | '+' :: r => r
  | r => r

def isDigitOrLine (c : Char) : Bool := isDigit c || c == '_'

def isHexOrLine (c : Char) : Bool := (hexValue? c).isSome || c == '_'

/-- One part of a number in base sixty after its first. -/
def isSixtieth : List Char → Bool
  | [d] => isDigit d
  | [t, d] => '0' ≤ t && t ≤ '5' && isDigit d
  | _ => false

/-- Digits, then parts in base sixty, each after a colon. -/
def isSexagesimal (leads : Char → Bool) (s : List Char) : Bool :=
  match Text.splitOn ':' s with
  | (d :: r) :: part :: parts => leads d && r.all isDigitOrLine && (part :: parts).all isSixtieth
  | _ => false

def isNonZeroDigit (c : Char) : Bool := isDigit c && c != '0'

def isWhole (s : List Char) : Bool :=
  let r := withoutSign s
  isSexagesimal isNonZeroDigit r ||
    match r with
    | ['0'] => true
    | '0' :: 'b' :: d :: r => (d :: r).all fun c => c == '0' || c == '1' || c == '_'
    | '0' :: 'x' :: d :: r => (d :: r).all isHexOrLine
    | '0' :: d :: r => (d :: r).all fun c => ('0' ≤ c && c ≤ '7') || c == '_'
    | d :: r => isNonZeroDigit d && r.all isDigitOrLine
    | [] => false

/-- Nothing, or an exponent, which always has a sign. -/
def isExponentTail : List Char → Bool
  | [] => true
  | e :: sign :: d :: r =>
    (e == 'e' || e == 'E') && (sign == '-' || sign == '+') && (d :: r).all isDigit
  | _ => false

def isFraction (s : List Char) : Bool := isExponentTail (s.dropWhile isDigitOrLine)

def infinityWords : List String := [".inf", ".Inf", ".INF"]

def nanWords : List String := [".nan", ".NaN", ".NAN"]

def isReal (s : List Char) : Bool :=
  let r := withoutSign s
  infinityWords.contains (String.ofList r) || nanWords.contains (String.ofList s) ||
    match Text.cutAt '.' r with
    | none => false
    | some ([], d :: fraction) => r.length = s.length && isDigit d && isFraction (d :: fraction)
    | some ([], []) => false
    | some (d :: digits, fraction) =>
      (isDigit d && digits.all isDigitOrLine && isFraction fraction) ||
        (isSexagesimal isDigit (d :: digits) && fraction.all isDigitOrLine)

end Kind

end Playground.Yaml
