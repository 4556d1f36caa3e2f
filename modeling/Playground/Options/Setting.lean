import Playground.Options.Problem
import Playground.Options.WholeText
import Playground.Path.Host
import Playground.Text.Utf8

/-! How the validation library takes a value for a setting. It is assumed in its lax form: bytes are
taken as the text they encode, truth values, doubles without a fraction and numbers in words as
whole numbers, and a few words, whatever the case of their letters, as truth values. -/

namespace Playground.Setting

open Number (Binary64)

/-- Bytes that are a text, for settings that take them as one. -/
def textOfBytes (data : List Nat) (fault : Fault) : Checked String :=
  match Text.decodeUtf8 data with
  | .ok chars => .ok (String.ofList chars)
  | .error _ => Checked.fail fault

/-- A text, or bytes that are one. No other value is made a text. -/
def text : Value → Checked String
  | .text s => .ok s
  | .bytes data => textOfBytes data .notUnicode
  | _ => Checked.fail .notText

def optional {α : Type} (f : Value → Checked α) : Value → Checked (Option α)
  | .null => .ok none
  | v => (f v).map some

/-- A double without a fraction counts as a whole number within the bounds of a word; of the doubles
at these bounds neither counts. -/
def wholeOfReal (x : Binary64) : Checked Int :=
  match x with
  | .finite .. =>
    match x.toInt? with
    | some n => if fitsWord n && n ≠ -9223372036854775808 then .ok n else Checked.fail .wholeTooLong
    | none => Checked.fail .fractional
  | _ => Checked.fail .notFinite

def wholeWord (s : String) : Checked Int :=
  match WholeText.read s.toList with
  | .ok n => .ok n
  | .error .malformed => Checked.fail .notWholeText
  | .error .tooLong => Checked.fail .wholeTooLong

/-- A whole number, or what stands for one: a truth value, a double, a text or bytes. -/
def whole : Value → Checked Int
  | .bool b => .ok (if b then 1 else 0)
  | .int n => .ok n
  | .real x => wholeOfReal x
  | .text s => if Text.hasHalf s then Checked.fail .notUnicode else wholeWord s
  | .bytes data => do wholeWord (← textOfBytes data .notWholeText)
  | _ => Checked.fail .notWhole

def checkPositive (n : Int) : Except Fault Int := if n ≤ 0 then .error (.notPositive n) else .ok n

def positive (v : Value) : Checked Int := do
  let n ← whole v
  match checkPositive n with
  | .ok n => .ok n
  | .error fault => Checked.fail fault

def trueWords : List String := ["1", "on", "t", "true", "y", "yes"]

def falseWords : List String := ["0", "off", "f", "false", "n", "no"]

def truthOfInt (n : Int) : Checked Bool :=
  if n = 0 then .ok false else if n = 1 then .ok true else Checked.fail .notTruthWord

def truthWord (s : String) : Checked Bool :=
  let word := s.toLower
  if trueWords.contains word then .ok true
  else if falseWords.contains word then .ok false
  else Checked.fail .notTruthWord

/-- A truth value, or what stands for one: the numbers 0 and 1, and some words. -/
def truth : Value → Checked Bool
  | .bool b => .ok b
  | .int n => if fitsWord n then truthOfInt n else Checked.fail .notTruth
  | .real x =>
    match wholeOfReal x with
    | .ok n => truthOfInt n
    | .error _ => Checked.fail .notTruth
  | .text s => if Text.hasHalf s then Checked.fail .notUnicode else truthWord s
  | .bytes data => do truthWord (← textOfBytes data .notTruthWord)
  | _ => Checked.fail .notTruth

def map : Value → Checked Fields
  | .map fields => .ok fields
  | _ => Checked.fail .notMap

def record (name : String) : Value → Checked Fields
  | .map fields => .ok fields
  | _ => Checked.fail (.notRecord name)

def virtualPath (v : Value) : Checked String := do
  let s ← text v
  match Path.checkVirtual s with
  | .ok path => .ok path
  | .error fault => Checked.fail (.badPath fault)

def hostPath (v : Value) : Checked HostPath :=
  match v with
  | .text s => .ok (.ofText s)
  | _ => Checked.fail .notPath

/-- The entry of a record, or its default when the record has none. -/
def field {α : Type} (name : String) (default : α) (f : Value → Checked α) (fields : Fields) :
    Checked α :=
  match Fields.get? name fields with
  | none => .ok default
  | some v => Checked.inField name (f v)

/-- The problem of a key comes before that of its value, and stands at a place of its own. -/
def entry {α : Type} (key : Value → Checked String) (value : Value → Checked α)
    (keyValue : Key → Value) (p : Key × Value) : Checked (String × α) :=
  Checked.both (Checked.under p.1 (Checked.inField "[key]" (key (keyValue p.1))))
    (Checked.under p.1 (value p.2))

def keyValue : Key → Value
  | .null => .null
  | .bool b => .bool b
  | .int n => .int n
  | .real x => .real x
  | .text s => .text s
  | .bytes data => .bytes data
  | .other kind shown => .other kind shown

/-- A map whose keys and values are read one by one, in order. -/
def entries {α : Type} (key : Value → Checked String) (value : Value → Checked α) (v : Value) :
    Checked (List (String × α)) := do
  Checked.each (entry key value keyValue) (← map v)

end Playground.Setting
