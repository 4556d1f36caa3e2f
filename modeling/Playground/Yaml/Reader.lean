import Playground.Yaml.Node
import Playground.Yaml.Scalar

/-! The values of collections, as the constructor of the library is assumed to build them: merge
keys come first, keys are hashed by their values, and the fault that is met first is told. -/

namespace Playground.Yaml

/-- A value, or the cause why there is none with the depth of the node at fault. -/
abbrev Built := Except (Nat × ReadError)

/-- The less deep of two faults is met first, and of two that are equally deep the former. -/
def both {α β : Type} : Built α → Built β → Built (α × β)
  | .ok a, .ok b => .ok (a, b)
  | .error e, .ok _ => .error e
  | .ok _, .error e => .error e
  | .error e, .error e' => .error (if e'.1 < e.1 then e' else e)

def atDepth {α : Type} (depth : Nat) (r : Reading α) : Built α := r.mapError fun e => (depth, e)

/-- Values that can be keys. -/
def keyOf? : Value → Option Key
  | .null => some .null
  | .bool b => some (.bool b)
  | .int n => some (.int n)
  | .real x => some (.real x)
  | .text s => some (.text s)
  | .bytes data => some (.bytes data)
  | .other kind shown => if kind = "set" then none else some (.other kind shown)
  | .list _ => none
  | .map _ => none

/-- Truth values and doubles without a fraction are the same keys as whole numbers. -/
def sameAs : Key → Key
  | .bool b => .int (if b then 1 else 0)
  | .real x => (x.toInt?.map Key.int).getD (.real x)
  | k => k

def putKey (k : Key) (v : Value) : Fields → Fields
  | [] => [(k, v)]
  | (a, b) :: m => if sameAs a = sameAs k then (a, v) :: m else (a, b) :: putKey k v m

def fieldsOf (pairs : List (Key × Value)) : Fields :=
  pairs.foldl (fun m p => putKey p.1 p.2 m) []

def Node.kind? : Node → Option Kind
  | .text kind _ => some kind
  | .sequence kind _ => some kind
  | .mapping kind _ => some kind
  | .loop _ => none

def isMerge (n : Node) : Bool := n.kind? == some .merge

def isDefault (n : Node) : Bool := n.kind? == some .default

/-- The text of a node; a mapping may hold it under the mark of a default. -/
def textOf? : Node → Option (List Char)
  | .text _ chars => some chars
  | .mapping _ entries => firstDefault entries
  | _ => none
where
  firstDefault : Entries → Option (List Char)
    | [] => none
    | (k, v) :: entries => if isDefault k then textOf? v else firstDefault entries

def isTextKind : Kind → Bool
  | .null | .truth | .whole | .real | .text | .binary | .timestamp => true
  | _ => false

/-- What the text of a node stands for. A date has to be a text itself. -/
def textValue (kind : Kind) (n : Node) : Reading Value :=
  match n, textOf? n with
  | _, none => malformed
  | .text .., some chars => Scalar.ofKind kind chars
  | _, some chars => if kind = .timestamp then .error .dateInMapping else Scalar.ofKind kind chars

/-- The kind of a node that is a key. The mark of a default is a text there. -/
def keyKind (n : Node) : Kind :=
  match n.kind? with
  | some .default => .text
  | some kind => kind
  | none => .unknown

mutual

/-- Whether a mapping takes nothing in but mappings, as far as merging goes. -/
def mergesFit : Entries → Bool
  | [] => true
  | (k, v) :: entries => (!isMerge k || sourceFits v) && mergesFit entries

def sourceFits : Node → Bool
  | .mapping _ entries => mergesFit entries
  | .sequence _ items => sourcesFit items
  | .loop _ => true
  | .text .. => false

def sourcesFit : List Node → Bool
  | [] => true
  | .mapping _ entries :: ns => mergesFit entries && sourcesFit ns
  | .loop _ :: ns => sourcesFit ns
  | _ :: _ => false

end

def isCollectionKind : Kind → Bool
  | .sequence | .mapping | .set | .orderedMap | .pairs => true
  | _ => false

/-- How deep the fault of a node is that cannot be of its kind. Collections are filled later than
texts are read. -/
def unfitDepth (kind : Kind) (depth : Nat) : Nat :=
  if isCollectionKind kind then depth + 1 else depth

mutual

/-- The value of a node. -/
def build (depth : Nat) : Node → Built Value
  | .text kind chars => atDepth (unfitDepth kind depth) (Scalar.ofKind kind chars)
  | .loop _ => .ok (.other "loop" "...")
  | .sequence kind items =>
    match kind with
    | .sequence => (buildItems (depth + 1) items).map .list
    | .orderedMap | .pairs => (buildPairs (depth + 1) items).map .list
    | _ => .error (unfitDepth kind depth, .malformed)
  | .mapping kind entries =>
    match kind with
    | .mapping => (buildEntries (depth + 1) entries).map fun pairs => .map (fieldsOf pairs)
    | .set => (buildEntries (depth + 1) entries).map fun _ => .other "set" "set()"
    | _ =>
      if isTextKind kind then atDepth depth (textValue kind (.mapping kind entries))
      else .error (unfitDepth kind depth, .malformed)

def buildItems (depth : Nat) : List Node → Built (List Value)
  | [] => .ok []
  | n :: ns => (both (build depth n) (buildItems depth ns)).map fun p => p.1 :: p.2

/-- Items that are mappings of one entry each. -/
def buildPairs (depth : Nat) : List Node → Built (List Value)
  | [] => .ok []
  | .mapping _ [(k, v)] :: ns =>
    (both (both (build depth k) (build depth v)) (buildPairs depth ns)).map fun p =>
      .list [p.1.1, p.1.2] :: p.2
  | _ :: _ => .error (depth, .malformed)

/-- The entries of a mapping: first those that are merged in, then its own. What cannot be merged in
is met before any entry. -/
def buildEntries (depth : Nat) (entries : Entries) : Built (List (Key × Value)) :=
  if !mergesFit entries then .error (depth, .malformed)
  else (both (mergedEntries depth entries) (ownEntries depth entries)).map fun p => p.1 ++ p.2

def mergedEntries (depth : Nat) : Entries → Built (List (Key × Value))
  | [] => .ok []
  | (k, v) :: entries =>
    if isMerge k then
      (both (mergeSource depth v) (mergedEntries depth entries)).map fun p => p.1 ++ p.2
    else mergedEntries depth entries

/-- What a merge key takes its entries from: a mapping, or several, the last one first. -/
def mergeSource (depth : Nat) : Node → Built (List (Key × Value))
  | .mapping _ entries => buildEntries depth entries
  | .sequence _ items => mergeSources depth items
  | .loop _ => .ok []
  | _ => .error (depth, .malformed)

def mergeSources (depth : Nat) : List Node → Built (List (Key × Value))
  | [] => .ok []
  | .mapping _ entries :: ns =>
    (both (mergeSources depth ns) (buildEntries depth entries)).map fun p => p.1 ++ p.2
  | .loop _ :: ns => mergeSources depth ns
  | _ :: _ => .error (depth, .malformed)

def ownEntries (depth : Nat) : Entries → Built (List (Key × Value))
  | [] => .ok []
  | (k, v) :: entries =>
    if isMerge k then ownEntries depth entries
    else
      (both (both (buildKey depth k) (build depth v)) (ownEntries depth entries)).map fun p =>
        p.1 :: p.2

def buildKey (depth : Nat) (n : Node) : Built Key :=
  if isTextKind (keyKind n) then
    match textValue (keyKind n) n with
    | .error e => .error (depth, e)
    | .ok v =>
      match keyOf? v with
      | some k => .ok k
      | none => .error (depth, .malformed)
  else .error (depth, .malformed)

end

/-- Control characters and code points that are no characters of any script cannot stand in a
document. -/
def isAllowed (c : Char) : Bool :=
  let n := c.toNat
  n == 9 || n == 10 || n == 13 || (0x20 ≤ n && n ≤ 0x7E) || n == 0x85 ||
    (0xA0 ≤ n && n ≤ 0xFFFD) || 0x10000 ≤ n

/-- Reads a text that holds at most one document. No document is an empty value. -/
def read (s : List Char) : Reading Value := do
  if !s.all isAllowed then malformed
  match ← documentOf (← tokens s) with
  | none => return .null
  | some n => (build 0 n).mapError (·.2)

def ReadError.message : ReadError → String
  | .malformed => "malformed document"
  | .tooDeep => "maximum recursion depth exceeded"
  | .badCodePoint => "chr() arg not in range(0x110000)"
  | .hugeCodePoint => "Python int too large to convert to C int"
  | .emptyNumber => "string index out of range"
  | .badWhole base shown => Number.badWholeMessage base shown
  | .tooManyDigits count => Number.tooManyDigitsMessage count
  | .badReal shown => "could not convert string to float: " ++ shown
  | .hugeReal => "int too large to convert to float"
  | .badTruth word => Text.quote word
  | .dateInMapping => "expected string or bytes-like object, got 'list'"
  | .notDate => "'NoneType' object has no attribute 'groupdict'"
  | .badDate reason => reason

end Playground.Yaml
