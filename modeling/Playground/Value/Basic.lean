import Playground.Assoc
import Playground.Number.Shortest
import Playground.Text.Quoted

namespace Playground

open Number (Binary64)

/-- A key of a map. Only manifests have keys that are no text. `other` is a key of a kind that needs
no reading here, such as a date, with the name of the kind. -/
inductive Key
  | null
  | bool (b : Bool)
  | int (n : Int)
  | real (x : Binary64)
  | text (s : String)
  | bytes (data : List Nat)
  | other (kind shown : String)
  deriving DecidableEq, Repr

/-- Data as manifests and options hold it. Maps keep the order of their keys. -/
inductive Value
  | null
  | bool (b : Bool)
  | int (n : Int)
  | real (x : Binary64)
  | text (s : String)
  | bytes (data : List Nat)
  | list (items : List Value)
  | map (fields : List (Key × Value))
  | other (kind shown : String)
  deriving Repr, Inhabited

abbrev Fields := List (Key × Value)

namespace Value

/-- What an absent or empty setting looks like. -/
def isEmpty : Value → Bool
  | .null => true
  | .bool b => !b
  | .int n => n == 0
  | .real x => x.isZero
  | .text s => s.isEmpty
  | .bytes data => data.isEmpty
  | .list items => items.isEmpty
  | .map fields => fields.isEmpty
  | .other _ _ => false

def isNull : Value → Bool
  | .null => true
  | _ => false

def kind : Value → String
  | .null => "NoneType"
  | .bool _ => "bool"
  | .int _ => "int"
  | .real _ => "float"
  | .text _ => "str"
  | .bytes _ => "bytes"
  | .list _ => "list"
  | .map _ => "dict"
  | .other kind _ => kind

/-- A single value as tables and messages show it. -/
def shown : Value → String
  | .null => "None"
  | .bool b => if b then "True" else "False"
  | .int n => toString n
  | .real x => x.text
  | .text s => s
  | .bytes data => Text.quoteBytes data
  | .list _ => "[...]"
  | .map _ => "..."
  | .other _ shown => shown

def ofOption {α : Type} (f : α → Value) : Option α → Value
  | none => .null
  | some a => f a

def texts (ss : List String) : Value := .list (ss.map .text)

end Value

def Key.shown : Key → String
  | .null => "None"
  | .bool b => if b then "True" else "False"
  | .int n => toString n
  | .real x => x.text
  | .text s => s
  | .bytes data => Text.quoteBytes data
  | .other _ shown => shown

def Fields.get? (name : String) (fields : Fields) : Option Value := Assoc.get? (.text name) fields

def Fields.put (name : String) (v : Value) (fields : Fields) : Fields :=
  Assoc.put (.text name) v fields

end Playground
