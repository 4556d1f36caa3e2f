import Playground.Number.Decimal
import Playground.Path.Virtual
import Playground.Value.Basic

/-! The problems of a setting under the labels, the places and the words of the validation library
that checks settings. The library stands outside; what it reports is assumed here as it documents
it. -/

namespace Playground

/-- What is wrong with a setting. -/
inductive Fault
  | notText
  | notUnicode
  | notWhole
  | notWholeText
  | wholeTooLong
  | fractional
  | notFinite
  | notTruth
  | notTruthWord
  | notMap
  | notRecord (name : String)
  | notPath
  | keyNotText
  | notPositive (n : Int)
  | badPath (fault : Path.VirtualFault)
  deriving DecidableEq, Repr

def Fault.label : Fault → String
  | .notText => "string_type"
  | .notUnicode => "string_unicode"
  | .notWhole => "int_type"
  | .notWholeText => "int_parsing"
  | .wholeTooLong => "int_parsing_size"
  | .fractional => "int_from_float"
  | .notFinite => "finite_number"
  | .notTruth => "bool_type"
  | .notTruthWord => "bool_parsing"
  | .notMap => "dict_type"
  | .notRecord _ => "model_type"
  | .notPath => "path_type"
  | .keyNotText => "invalid_key"
  | .notPositive _ => "value_error"
  | .badPath _ => "value_error"

def notPositiveMessage (n : Int) : String :=
  if Number.isUnshown n then Number.unshownMessage
  else "Validation failed: SHOULD_BE_POSITIVE: " ++ toString n ++ " <= 0"

def Fault.message : Fault → String
  | .notText => "Input should be a valid string"
  | .notUnicode => "Input should be a valid string, unable to parse raw data as a unicode string"
  | .notWhole => "Input should be a valid integer"
  | .notWholeText => "Input should be a valid integer, unable to parse string as an integer"
  | .wholeTooLong => "Unable to parse input string as an integer, exceeded maximum size"
  | .fractional => "Input should be a valid integer, got a number with a fractional part"
  | .notFinite => "Input should be a finite number"
  | .notTruth => "Input should be a valid boolean"
  | .notTruthWord => "Input should be a valid boolean, unable to interpret input"
  | .notMap => "Input should be a valid dictionary"
  | .notRecord name => "Input should be a valid dictionary or instance of " ++ name
  | .notPath => "Input is not a valid path for <class 'pathlib.Path'>"
  | .keyNotText => "Keys should be strings"
  | .notPositive n => "Value error, " ++ notPositiveMessage n
  | .badPath fault => "Value error, " ++ fault.message

/-- A fault and the keys that lead to it from the outside in. -/
structure Problem where
  location : List Key
  fault : Fault
  deriving DecidableEq, Repr

/-- Reading a setting gives it or all its problems in order. -/
abbrev Checked := Except (List Problem)

namespace Checked

def fail {α : Type} (fault : Fault) : Checked α := .error [⟨[], fault⟩]

def under {α : Type} (key : Key) : Checked α → Checked α
  | .ok a => .ok a
  | .error problems => .error (problems.map fun p => { p with location := key :: p.location })

def inField {α : Type} (name : String) (x : Checked α) : Checked α := under (.text name) x

/-- Both readings; the problems of the first come first. -/
def both {α β : Type} : Checked α → Checked β → Checked (α × β)
  | .ok a, .ok b => .ok (a, b)
  | .error p, .ok _ => .error p
  | .ok _, .error q => .error q
  | .error p, .error q => .error (p ++ q)

def each {α β : Type} (f : α → Checked β) : List α → Checked (List β)
  | [] => .ok []
  | a :: as => (both (f a) (each f as)).map fun p => p.1 :: p.2

end Checked

/-- Whether a number fits into a signed word of 64 bits. -/
def fitsWord (n : Int) : Bool := -9223372036854775808 ≤ n && n ≤ 9223372036854775807

/-- A key in a location; of each half of a pair all three bytes are marked as unreadable. -/
def Key.placeText (s : String) : String :=
  String.ofList <| (Text.points s.toList).flatMap fun n =>
    if Text.isHalf n then List.replicate 3 '\uFFFD' else Text.ofPoint n

/-- A place in a location: keys of whole numbers and truth values count as numbers, unless they are
too large for a word; much larger ones are not shown. -/
def Key.place : Key → Value
  | .text s => .text (placeText s)
  | .bool b => .int (if b then 1 else 0)
  | .int n =>
    if fitsWord n then .int n
    else .text (if Number.isUnshown n then "<unprintable int object>" else toString n)
  | k => .text k.shown

end Playground
