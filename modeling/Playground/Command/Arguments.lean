import Playground.Assoc
import Playground.Text.Letter
import Playground.Text.Lines
import Playground.Text.Search

namespace Playground.Command

/-- Why the reading of arguments ends before there is a request. -/
inductive Stop
  | help
  | version
  | usage
  deriving DecidableEq, Repr

def Stop.exitCode : Stop → Nat
  | .usage => 2
  | _ => 0

/-- What a switch does: end the reading, take note of itself, or keep the argument after it. -/
inductive Action
  | stop (s : Stop)
  | note
  | keep
  deriving DecidableEq, Repr

/-- A switch by the ways it can be written; `key` is the name of what it sets. -/
structure Switch where
  names : List String
  key : String
  action : Action
  deriving DecidableEq, Repr

/-- A place for arguments that are no switches: one argument, at most one, or one and all that
follows it, switches too. -/
inductive Place
  | one (key : String)
  | optional (key : String)
  | rest
  deriving DecidableEq, Repr

structure Grammar where
  switches : List Switch
  places : List Place
  deriving DecidableEq, Repr

/-- A switch as an argument spells it. `value` is what the argument itself adds; `isAssigned` tells
that an equals sign stands before that. -/
structure Spelled where
  switch : Switch
  name : String
  isAssigned : Bool := false
  value : Option (List Char) := none
  deriving DecidableEq, Repr

/-- An argument: a plain one, the two dashes after which all are plain, or a switch, which need not
be known. -/
inductive Word
  | plain (text : String)
  | dashes
  | switch (text : String) (spelled : Option Spelled)
  deriving DecidableEq, Repr

def Word.text : Word → String
  | .plain text => text
  | .dashes => "--"
  | .switch text _ => text

def Word.isPlain : Word → Bool
  | .plain _ => true
  | _ => false

def Word.isSwitch : Word → Bool
  | .switch .. => true
  | _ => false

/-- What the arguments of a grammar set. `rest` is filled by a place that takes all. -/
structure Taken where
  values : List (String × String) := []
  noted : List String := []
  rest : Option (List String) := none
  unknown : List String := []
  deriving DecidableEq, Repr

def isDigit (c : Char) : Bool := (Text.digitValue? c).isSome

/-- A dash and a number, with or without a point, in the digits of any script. -/
def isNegativeNumber (s : List Char) : Bool :=
  match Text.withoutLineEnd s with
  | '-' :: r =>
    let whole := r.takeWhile isDigit
    match r.dropWhile isDigit with
    | [] => !whole.isEmpty
    | '.' :: fraction => !fraction.isEmpty && fraction.all isDigit
    | _ => false
  | _ => false

namespace Grammar

/-- All ways to write a switch. -/
def spellings (g : Grammar) : List (String × Switch) :=
  g.switches.flatMap fun s => s.names.map fun name => (name, s)

def named? (g : Grammar) (name : String) : Option Switch := Assoc.get? name g.spellings

/-- The switches that an argument may mean: a long name may be cut short, and a short one may have
its value, or more short ones, right after it. -/
def candidates (g : Grammar) (s : List Char) : List Spelled :=
  if ['-', '-'].isPrefixOf s then
    let (name, value) := match Text.cutAt '=' s with
      | some (name, value) => (name, some value)
      | none => (s, none)
    g.spellings.filterMap fun p =>
      if name.isPrefixOf p.1.toList then some ⟨p.2, p.1, value.isSome, value⟩ else none
  else
    g.spellings.filterMap fun p =>
      if p.1.toList = s.take 2 then some ⟨p.2, p.1, false, some (s.drop 2)⟩
      else if s.isPrefixOf p.1.toList then some ⟨p.2, p.1, false, none⟩
      else none

/-- A name before an equals sign that is spelled out. -/
def assigned? (g : Grammar) (s : List Char) : Option Spelled :=
  (Text.cutAt '=' s).bind fun p =>
    (g.named? (String.ofList p.1)).map fun sw => ⟨sw, String.ofList p.1, true, some p.2⟩

/-- What an argument is. A switch cut so short that it means several is an error. -/
def word (g : Grammar) (arg : String) : Except Stop Word :=
  let s := arg.toList
  if s.head? ≠ some '-' ∨ s.length = 1 then .ok (.plain arg)
  else match g.named? arg, g.assigned? s with
    | some sw, _ => .ok (.switch arg (some ⟨sw, arg, false, none⟩))
    | none, some spelled => .ok (.switch arg (some spelled))
    | none, none =>
      match g.candidates s with
      | [spelled] => .ok (.switch arg (some spelled))
      | [] =>
        if isNegativeNumber s || s.contains ' ' then .ok (.plain arg) else .ok (.switch arg none)
      | _ => .error .usage

def words (g : Grammar) : List String → Except Stop (List Word)
  | [] => .ok []
  | arg :: args =>
    if arg = "--" then .ok (.dashes :: args.map .plain)
    else do
      let w ← g.word arg
      return w :: (← g.words args)

/-- How many words each of the places takes, as many as it can, or none when they do not fit. -/
def fit : List Place → List Word → Option (List Nat)
  | [], _ => some []
  | place :: places, ws =>
    let before := (ws.takeWhile (· = .dashes)).length
    let rest := ws.drop before
    let first := rest.takeWhile Word.isPlain |>.take 1
    let after := ((rest.drop first.length).takeWhile (· = .dashes)).length
    match place with
    | .one _ =>
      if first.isEmpty then none
      else (fit places (ws.drop (before + 1 + after))).map ((before + 1 + after) :: ·)
    | .optional _ =>
      let n := before + first.length + after
      (fit places (ws.drop n)).map (n :: ·)
    | .rest => if first.isEmpty then none else (fit places []).map (ws.length :: ·)

/-- As many of the first places as fit, with the numbers of their words. -/
def fitSome (places : List Place) (ws : List Word) : Nat → List Nat
  | 0 => []
  | n + 1 =>
    match fit (places.take (n + 1)) ws with
    | some counts => counts
    | none => fitSome places ws n

/-- The first two dashes among the words of a place only separate. -/
def withoutDashes (texts : List String) : List String := texts.erase "--"

def fill (place : Place) (ws : List Word) (t : Taken) : Taken :=
  let texts := ws.map Word.text
  match place with
  | .one key => { t with values := Assoc.putAll t.values ((withoutDashes texts).map (key, ·)) }
  | .optional key => { t with values := Assoc.putAll t.values ((withoutDashes texts).map (key, ·)) }
  | .rest => { t with rest := some texts }

/-- Fills places with the words at the front; gives the places and words that are left. -/
def fillPlaces : List Place → List Nat → List Word → Taken → List Place × List Word × Taken
  | place :: places, n :: counts, ws, t =>
    fillPlaces places counts (ws.drop n) (fill place (ws.take n) t)
  | places, _, ws, t => (places, ws, t)

def takePlaces (places : List Place) (ws : List Word) (t : Taken) :
    List Place × List Word × Taken :=
  fillPlaces places (fitSome places ws places.length) ws t

/-- Does what switches say, in order. -/
def act (t : Taken) : List Switch → Except Stop Taken
  | [] => .ok t
  | s :: switches =>
    match s.action with
    | .stop stop => .error stop
    | .note => act { t with noted := t.noted ++ [s.key] } switches
    | .keep => .error .usage

/-- Short switches written together, from the text after the first of them on. What is no switch is
unknown. -/
def cluster (g : Grammar) : List Char → Except Stop (List Switch × List String)
  | [] => .ok ([], [])
  | c :: r =>
    if c = '-' then .error .usage
    else match g.named? (String.ofList ['-', c]) with
      | none => .ok ([], [String.ofList ('-' :: c :: r)])
      | some s =>
        if r.head? = some '=' then .error .usage
        else (g.cluster r).map fun p => (s :: p.1, p.2)

def keep (s : Switch) (value : String) (t : Taken) : Taken :=
  { t with values := Assoc.put s.key value t.values }

def isShort (name : String) : Bool := !(['-', '-'].isPrefixOf name.toList)

/-- Takes a switch and, if it needs one, the argument after it. -/
def takeSwitch (g : Grammar) (p : Spelled) (ws : List Word) (t : Taken) :
    Except Stop (List Word × Taken) :=
  match p.switch.action, p.value with
  | .keep, some value => .ok (ws, keep p.switch (String.ofList value) t)
  | .keep, none =>
    match ws with
    | .plain text :: ws => .ok (ws, keep p.switch text t)
    | _ => .error .usage
  | _, none => (act t [p.switch]).map (ws, ·)
  | _, some value =>
    if isShort p.name && !p.isAssigned && !value.isEmpty then do
      let (switches, unknown) ← g.cluster value
      let t ← act t (p.switch :: switches)
      return (ws, { t with unknown := t.unknown ++ unknown })
    else .error .usage

def addUnknown (texts : List String) (t : Taken) : Taken :=
  { t with unknown := t.unknown ++ texts }

/-- Goes through the words: places take what they can before every switch and at the end. -/
def go (g : Grammar) : Nat → List Place → List Word → Taken → Except Stop Taken
  | 0, _, _, t => .ok t
  | fuel + 1, places, ws, t =>
    if !ws.any Word.isSwitch then
      let (_, left, t) := takePlaces places ws t
      .ok (addUnknown (left.map Word.text) t)
    else
      let plain := ws.takeWhile fun w => !w.isSwitch
      let (left, later, t') := takePlaces places ws t
      if !plain.isEmpty && later.length < ws.length then g.go fuel left later t'
      else
        let places := if plain.isEmpty then places else left
        let t := addUnknown (plain.map Word.text) (if plain.isEmpty then t else t')
        match ws.drop plain.length with
        | .switch text none :: ws => g.go fuel places ws (addUnknown [text] t)
        | .switch _ (some p) :: ws => do
          let (ws, t) ← g.takeSwitch p ws t
          g.go fuel places ws t
        | _ => .ok t

def isMissing (t : Taken) : Place → Bool
  | .one key => !Assoc.has key t.values
  | _ => false

/-- Reads arguments by a grammar. A place for one argument has to be filled; arguments that fit
nowhere are kept as unknown. -/
def parse (g : Grammar) (args : List String) : Except Stop Taken := do
  let ws ← g.words args
  let t ← g.go (2 * ws.length + 1) g.places ws {}
  if g.places.any (isMissing t) then throw .usage
  return t

end Grammar

end Playground.Command
