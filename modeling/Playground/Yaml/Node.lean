import Playground.Assoc
import Playground.Yaml.Timestamp
import Playground.Yaml.Token

/-! The tree of a document, as parser and composer of the library are assumed to build it from
tokens, with their bound on the depth and with aliases. -/

namespace Playground.Yaml

/-- The tree of a document. An alias stands for a copy of what it names; inside of the copy of a
collection around the alias, it is a loop. -/
inductive Node
  | text (kind : Kind) (chars : List Char)
  | sequence (kind : Kind) (items : List Node)
  | mapping (kind : Kind) (entries : List (Node × Node))
  | loop (name : List Char)

mutual

/-- A tree with a copy of another for every loop of a name. -/
def Node.tie (name : List Char) (whole : Node) : Node → Node
  | .text kind chars => .text kind chars
  | .sequence kind items => .sequence kind (tieItems name whole items)
  | .mapping kind entries => .mapping kind (tieEntries name whole entries)
  | .loop a => if a = name then whole else .loop a

def tieItems (name : List Char) (whole : Node) : List Node → List Node
  | [] => []
  | n :: ns => Node.tie name whole n :: tieItems name whole ns

def tieEntries (name : List Char) (whole : Node) : List (Node × Node) → List (Node × Node)
  | [] => []
  | (k, v) :: entries =>
    (Node.tie name whole k, Node.tie name whole v) :: tieEntries name whole entries

end

/-- Tokens still to read, how many collections are open, and what anchors and handles of tags stand
for. -/
structure Source where
  tokens : List Token
  level : Nat := 0
  anchors : List (List Char × Node) := []
  handles : List (List Char × List Char) := []

/-- An anchor and a full tag in front of a node. -/
structure Properties where
  anchor : Option (List Char) := none
  tag : Option (List Char) := none

namespace Source

def fullTag (s : Source) : WrittenTag → Reading (List Char)
  | .verbatim text => .ok text
  | .short handle text =>
    match Assoc.get? handle s.handles with
    | some start => .ok (start ++ text)
    | none => malformed

/-- An anchor and a tag may come in either order. -/
def properties (s : Source) : Reading (Properties × Source) :=
  match s.tokens with
  | .anchor a :: .tag t :: rest => do
    return (⟨some a, some (← s.fullTag t)⟩, { s with tokens := rest })
  | .anchor a :: rest => .ok (⟨some a, none⟩, { s with tokens := rest })
  | .tag t :: .anchor a :: rest => do
    return (⟨some a, some (← s.fullTag t)⟩, { s with tokens := rest })
  | .tag t :: rest => do return (⟨none, some (← s.fullTag t)⟩, { s with tokens := rest })
  | _ => .ok ({}, s)

/-- An anchor names one node of a document. -/
def name (p : Properties) (n : Node) (s : Source) : Source :=
  match p.anchor with
  | some a => { s with anchors := Assoc.put a n s.anchors }
  | none => s

/-- Before a node is read, its name stands for a loop. -/
def announce (p : Properties) (s : Source) : Reading Source :=
  match p.anchor with
  | some a => if Assoc.has a s.anchors then malformed else .ok (s.name p (.loop a))
  | none => .ok s

/-- So many collections may be open at once. -/
def deepest : Nat := 490

/-- Into a collection. -/
def enter (p : Properties) (s : Source) : Reading Source := do
  let s ← s.announce p
  if deepest ≤ s.level then throw .tooDeep
  return { s with level := s.level + 1 }

/-- Names a collection that was read; what looped to it gets a copy. -/
def close (p : Properties) (n : Node) (s : Source) : Node × Source :=
  let s := { s with level := s.level - 1 }
  match p.anchor with
  | some a =>
    let whole := Node.tie a n n
    let anchors := s.anchors.map fun q => (q.1, Node.tie a whole q.2)
    (whole, { s with anchors := Assoc.put a whole anchors })
  | none => (n, s)

end Source

/-- Whether the tag leaves it to the node what it is. -/
def Properties.isOpen (p : Properties) : Bool := p.tag.isNone || p.tag == some ['!']

def Properties.kind (p : Properties) (usual : Kind) : Kind :=
  match p.tag with
  | some tag => if p.isOpen then usual else .ofTag tag
  | none => usual

def Properties.textKind (p : Properties) (w : WrittenText) : Kind :=
  let isPlain := (w.plain && p.tag.isNone) || p.tag == some ['!']
  p.kind (if isPlain then .ofPlain w.chars else .text)

def emptyText : WrittenText := ⟨[], true⟩

def emptyNode : Node := .text .null []

abbrev Entries := List (Node × Node)

/-- Where an entry ends, in a block and in brackets. -/
def endsBlockEntry : List Token → Bool
  | .key :: _ => true
  | .value :: _ => true
  | .blockEnd :: _ => true
  | _ => false

def endsFlowEntry (stop : Token) : List Token → Bool
  | t :: _ => t = .flowEntry || t = stop
  | [] => false

def startsWith (t : Token) (tokens : List Token) : Bool := tokens.head? == some t

def Source.drop (s : Source) : Source := { s with tokens := s.tokens.drop 1 }

def Source.isAt (t : Token) (s : Source) : Bool := startsWith t s.tokens

/-- Past a token that has to be there. -/
def Source.expect (t : Token) (s : Source) : Reading Source :=
  if s.isAt t then .ok s.drop else malformed

/-- A node of which there is nothing but an anchor or a tag. -/
def Source.bareNode (p : Properties) (s : Source) : Reading (Node × Source) := do
  if p.anchor.isNone && p.tag.isNone then malformed
  let s ← s.announce p
  let n := Node.text (p.textKind emptyText) []
  return (n, s.name p n)

mutual

/-- The node that starts here. Inside of brackets there are no blocks, and only under the key of a
block mapping a sequence needs no deeper indentation. -/
def node (inBlock underKey : Bool) : Nat → Source → Reading (Node × Source)
  | 0, _ => malformed
  | fuel + 1, s =>
    match s.tokens with
    | .alias a :: _ =>
      match Assoc.get? a s.anchors with
      | some n => .ok (n, s.drop)
      | none => malformed
    | _ => do
      let (p, s) ← s.properties
      match s.tokens with
      | .text w :: _ => do
        let s ← s.announce p
        let n := Node.text (p.textKind w) w.chars
        return (n, s.drop.name p n)
      | .flowSequenceStart :: _ => do
        let (items, s) ← flowItems true fuel (← s.enter p).drop
        return s.close p (.sequence (p.kind .sequence) items)
      | .flowMappingStart :: _ => do
        let (entries, s) ← flowEntries true fuel (← s.enter p).drop
        return s.close p (.mapping (p.kind .mapping) entries)
      | .blockEntry :: _ => do
        if !underKey then return ← s.bareNode p
        let (items, s) ← flatItems fuel (← s.enter p)
        return s.close p (.sequence (p.kind .sequence) items)
      | .blockSequenceStart :: _ => do
        if !inBlock then return ← s.bareNode p
        let (items, s) ← blockItems fuel (← s.enter p).drop
        return s.close p (.sequence (p.kind .sequence) items)
      | .blockMappingStart :: _ => do
        if !inBlock then return ← s.bareNode p
        let (entries, s) ← blockEntries fuel (← s.enter p).drop
        return s.close p (.mapping (p.kind .mapping) entries)
      | _ => s.bareNode p

def blockItems : Nat → Source → Reading (List Node × Source)
  | 0, _ => malformed
  | fuel + 1, s =>
    if s.isAt .blockEntry then do
      let s := s.drop
      let (n, s) ← if s.isAt .blockEntry || s.isAt .blockEnd then pure (emptyNode, s)
        else node true false fuel s
      let (more, s) ← blockItems fuel s
      return (n :: more, s)
    else do return ([], ← s.expect .blockEnd)

/-- A sequence whose dashes stand in the column of the key above it. -/
def flatItems : Nat → Source → Reading (List Node × Source)
  | 0, _ => malformed
  | fuel + 1, s =>
    if s.isAt .blockEntry then do
      let s := s.drop
      let (n, s) ← if s.isAt .blockEntry || endsBlockEntry s.tokens then pure (emptyNode, s)
        else node true false fuel s
      let (more, s) ← flatItems fuel s
      return (n :: more, s)
    else .ok ([], s)

def blockEntries : Nat → Source → Reading (Entries × Source)
  | 0, _ => malformed
  | fuel + 1, s =>
    if s.isAt .key then do
      let s := s.drop
      let (k, s) ← if endsBlockEntry s.tokens then pure (emptyNode, s) else node true true fuel s
      let (v, s) ← if !s.isAt .value then pure (emptyNode, s)
        else if endsBlockEntry s.drop.tokens then pure (emptyNode, s.drop)
        else node true true fuel s.drop
      let (more, s) ← blockEntries fuel s
      return ((k, v) :: more, s)
    else do return ([], ← s.expect .blockEnd)

/-- The value after a colon inside of brackets. -/
def flowValue (stop : Token) : Nat → Source → Reading (Node × Source)
  | 0, _ => malformed
  | fuel + 1, s =>
    if !s.isAt .value || endsFlowEntry stop s.drop.tokens then
      .ok (emptyNode, if s.isAt .value then s.drop else s)
    else node false false fuel s.drop

def flowKey (stop : Token) : Nat → Source → Reading (Node × Source)
  | 0, _ => malformed
  | fuel + 1, s =>
    if s.isAt .value || endsFlowEntry stop s.tokens then .ok (emptyNode, s)
    else node false false fuel s

/-- An item with a key is a mapping of its own. -/
def flowItems (first : Bool) : Nat → Source → Reading (List Node × Source)
  | 0, _ => malformed
  | fuel + 1, s =>
    if s.isAt .flowSequenceEnd then .ok ([], s.drop)
    else do
      let s ← if first then pure s else s.expect .flowEntry
      if s.isAt .flowSequenceEnd then return ([], s.drop)
      let (n, s) ← if s.isAt .key then do
          let (k, s) ← flowKey .flowSequenceEnd fuel s.drop
          let (v, s) ← flowValue .flowSequenceEnd fuel s
          pure (Node.mapping .mapping [(k, v)], s)
        else node false false fuel s
      let (more, s) ← flowItems false fuel s
      return (n :: more, s)

/-- An entry without a key mark is a key with no value. -/
def flowEntries (first : Bool) : Nat → Source → Reading (Entries × Source)
  | 0, _ => malformed
  | fuel + 1, s =>
    if s.isAt .flowMappingEnd then .ok ([], s.drop)
    else do
      let s ← if first then pure s else s.expect .flowEntry
      if s.isAt .flowMappingEnd then return ([], s.drop)
      let (k, v, s) ← if s.isAt .key then do
          let (k, s) ← flowKey .flowMappingEnd fuel s.drop
          let (v, s) ← flowValue .flowMappingEnd fuel s
          pure (k, v, s)
        else do
          let (k, s) ← node false false fuel s
          pure (k, emptyNode, s)
      let (more, s) ← flowEntries false fuel s
      return ((k, v) :: more, s)

end

def defaultHandles : List (List Char × List Char) :=
  [(['!'], ['!']), (['!', '!'], Kind.standardStart)]

/-- What the directives in front of a document define. -/
def readDirectives (versionSeen : Bool) (handles : List (List Char × List Char)) :
    List Token → Reading (List (List Char × List Char) × List Token)
  | .directive (.version major) :: rest =>
    if versionSeen || major != 1 then malformed else readDirectives true handles rest
  | .directive (.tag handle start) :: rest =>
    if Assoc.has handle handles then malformed
    else readDirectives versionSeen (handles ++ [(handle, start)]) rest
  | .directive .other :: rest => readDirectives versionSeen handles rest
  | rest => .ok (handles, rest)

def isDocumentMark : List Token → Bool
  | [] => true
  | .directive _ :: _ => true
  | .documentStart :: _ => true
  | .documentEnd :: _ => true
  | _ => false

/-- Nothing but end marks follows the only document. -/
def checkEnd (tokens : List Token) : Reading Unit :=
  if (tokens.dropWhile (· = .documentEnd)).isEmpty then .ok () else malformed

def readDocument (handles : List (List Char × List Char)) (tokens : List Token) : Reading Node := do
  let (n, s) ← node true false (2 * tokens.length + 2) { tokens, handles }
  checkEnd s.tokens
  return n

/-- The only document of a text, if there is one. A document without content is empty. -/
def documentOf (tokens : List Token) : Reading (Option Node) :=
  match tokens with
  | [] => .ok none
  | .directive _ :: _ | .documentStart :: _ => do
    let (handles, rest) ← readDirectives false [] tokens
    match rest with
    | .documentStart :: rest =>
      if isDocumentMark rest then do
        checkEnd rest
        return some emptyNode
      else return some (← readDocument (handles ++ defaultHandles) rest)
    | _ => malformed
  | tokens => do return some (← readDocument defaultHandles tokens)

end Playground.Yaml
