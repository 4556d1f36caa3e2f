import Playground.Console.Action
import Playground.Console.Style

/-! The markup of the library that draws on the console, as it documents it: tags in brackets, which
backslashes make a text, and which have to close in order. The standard terminal goes by it. -/

namespace Playground.Console

/-- The characters that a tag may start with. -/
def startsTag (c : Char) : Bool := ('a' ≤ c && c ≤ 'z') || c == '#' || c == '/' || c == '@'

/-- What a tag holds, from the character after its bracket up to the closing one. A tag holds no
other opening bracket. -/
def tagBody? : List Char → Option (List Char)
  | [] => none
  | c :: r =>
    if !startsTag c then none
    else match Text.cutAt ']' r with
      | none => none
      | some (body, _) => if body.contains '[' then none else some (c :: body)

/-- A tag in brackets with the backslashes before it. -/
structure WrittenTag where
  slashes : Nat
  body : List Char
  deriving DecidableEq, Repr

def WrittenTag.length (t : WrittenTag) : Nat := t.slashes + t.body.length + 2

def WrittenTag.shown (t : WrittenTag) : List Char := '[' :: t.body ++ [']']

/-- The tag that starts here, with its backslashes. -/
def tagHere? (s : List Char) : Option WrittenTag :=
  let slashes := (s.takeWhile (· = '\\')).length
  match s.drop slashes with
  | '[' :: r => (tagBody? r).map fun body => ⟨slashes, body⟩
  | _ => none

/-- Every tag gets its backslashes doubled and one more, so that it is read as text. -/
def escapeTags (s : List Char) : List Char :=
  match s with
  | [] => []
  | c :: r =>
    match tagHere? (c :: r) with
    | some t =>
      List.replicate (2 * t.slashes + 1) '\\' ++ t.shown ++ escapeTags (r.drop (t.length - 1))
    | none => c :: escapeTags r
termination_by s.length
decreasing_by all_goals simp only [List.length_drop, List.length_cons]; omega

/-- A backslash at the end would escape what follows, unless another one is before it. -/
def closeSlash (s : List Char) : List Char :=
  if ['\\'].isSuffixOf s && !(['\\', '\\'].isSuffixOf s) then s ++ ['\\'] else s

/-- A text as markup, without a tag in it that would be read as one. -/
def escape (s : String) : String := String.ofList (closeSlash (escapeTags s.toList))

/-- Tags that are no text, with the place of their brackets; `start` is the place of the first
character. An odd number of backslashes makes a tag a text. -/
def tagsFrom (start : Nat) (s : List Char) : List (Nat × List Char) :=
  match s with
  | [] => []
  | c :: r =>
    match tagHere? (c :: r) with
    | some t =>
      let later := tagsFrom (start + t.length) (r.drop (t.length - 1))
      if t.slashes % 2 = 1 then later else (start + t.slashes, t.body) :: later
    | none => tagsFrom (start + 1) r
termination_by s.length
decreasing_by all_goals simp only [List.length_drop, List.length_cons]; omega

/-- Why a text is no markup: a closing tag without an opening one, a style with a part that is no
number, or an action with parameters that are no literal. -/
inductive MarkupError
  | noMatch (tag : String) (position : Nat)
  | nothingOpen (position : Nat)
  | style (fault : StyleFault)
  | action (fault : ActionFault)
  deriving DecidableEq, Repr

def MarkupError.message : MarkupError → String
  | .noMatch tag position =>
    "closing tag '" ++ tag ++ "' at position " ++ toString position ++
      " doesn't match any open tag"
  | .nothingOpen position =>
    "closing tag '[/]' at position " ++ toString position ++ " has nothing to close"
  | .style fault => fault.message
  | .action fault => fault.message

/-- A tag that waits for its closing one: the name of a style, and what follows an equals sign. -/
structure OpenTag where
  name : String
  parameters : Option String := none
  deriving DecidableEq, Repr

/-- The style of the text inside of a tag. -/
def OpenTag.style (t : OpenTag) : String :=
  match t.parameters with
  | some p => t.name ++ " " ++ p
  | none => t.name

def tagName (body : List Char) : List Char := body.takeWhile (· ≠ '=')

def tagParameters (body : List Char) : Option String :=
  match body.dropWhile (· ≠ '=') with
  | _ :: p => some (String.ofList p)
  | [] => none

/-- The tags around the place that was reached, the latest first, and the styles of all tags so
far. -/
structure Opened where
  tags : List OpenTag := []
  styles : List String := []
  deriving Repr

def nameOf (name : List Char) : Except MarkupError String :=
  (styleName (String.ofList name)).mapError .style

def Opened.start (name body : List Char) (s : Opened) : Except MarkupError Opened := do
  let tag : OpenTag := ⟨← nameOf name, tagParameters body⟩
  return ⟨tag :: s.tags, s.styles ++ [tag.style]⟩

def OpenTag.isAction (t : OpenTag) : Bool := t.name.startsWith "@"

/-- The parameters of an action are read when its tag is closed. -/
def OpenTag.checkClosed (t : OpenTag) : Except MarkupError Unit :=
  match t.parameters with
  | some p => if t.isAction ∧ !p.isEmpty then (checkAction p).mapError .action else .ok ()
  | none => .ok ()

/-- A closing tag ends the latest one of its name, and one without a name the latest of all. -/
def Opened.close (name body : List Char) (position : Nat) (s : Opened) :
    Except MarkupError Opened := do
  if name.isEmpty then
    match s.tags with
    | [] => throw (.nothingOpen position)
    | tag :: others => do
      tag.checkClosed
      return { s with tags := others }
  else
    let style ← nameOf name
    match s.tags.find? (·.name = style) with
    | none => throw (.noMatch (String.ofList ('[' :: body ++ [']'])) position)
    | some tag => do
      tag.checkClosed
      return { s with tags := s.tags.eraseP (·.name = style) }

def Opened.apply (position : Nat) (body : List Char) (s : Opened) : Except MarkupError Opened :=
  match tagName body with
  | '/' :: name => s.close (Text.trim name) body position
  | name => s.start name body

def Opened.applyAll (s : Opened) : List (Nat × List Char) → Except MarkupError Opened
  | [] => .ok s
  | (position, body) :: tags => (s.apply position body).bind fun s => s.applyAll tags

/-- The styles of a markup text in the order of their tags. Every closing tag closes something. -/
def stylesOf (markup : String) : Except MarkupError (List String) :=
  (Opened.applyAll {} (tagsFrom 0 markup.toList)).map (·.styles)

/-- A style that says nothing changes nothing; one with a part that is no number cannot be shown. -/
def checkStyle (style : String) : Except MarkupError Unit :=
  match Style.parse style with
  | .ok _ => .ok ()
  | .error .unknownWord => .ok ()
  | .error fault => .error (.style fault)

def checkShown (markup : String) : Except MarkupError Unit := do
  (← stylesOf markup).forM checkStyle

end Playground.Console
