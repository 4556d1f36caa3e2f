import Playground.Assoc
import Playground.Component.Descriptor
import Playground.Text.Search
import Playground.Text.Word

namespace Playground

/-- The sections that a component file may have. -/
inductive SectionTag
  | template
  | script
  | style
  deriving DecidableEq, Repr

def SectionTag.name : SectionTag → List Char
  | .template => ['t', 'e', 'm', 'p', 'l', 'a', 't', 'e']
  | .script => ['s', 'c', 'r', 'i', 'p', 't']
  | .style => ['s', 't', 'y', 'l', 'e']

def SectionTag.close (tag : SectionTag) : List Char := '<' :: '/' :: tag.name ++ ['>']

/-- A section as it is written: its tag, the text between the tag's name and `>`, and the content
up to the first closing tag. -/
structure Section where
  tag : SectionTag
  attributes : List Char
  content : List Char
  deriving DecidableEq, Repr

/-- The text before and after the first occurrence of a word. -/
def cutAtWord (word : List Char) : List Char → Option (List Char × List Char)
  | [] => none
  | c :: r =>
    if word.isPrefixOf (c :: r) then some ([], (c :: r).drop word.length)
    else (cutAtWord word r).map fun p => (c :: p.1, p.2)

theorem cutAtWord_length {word s a b : List Char} (h : cutAtWord word s = some (a, b)) :
    b.length ≤ s.length := by
  induction s generalizing a b with
  | nil => simp [cutAtWord] at h
  | cons c r ih =>
    simp only [cutAtWord] at h
    split at h
    · cases h
      simp only [List.length_drop]
      omega
    · obtain ⟨⟨x, y⟩, hx, hy⟩ := Option.map_eq_some_iff.1 h
      cases hy
      have := ih hx
      simp only [List.length_cons]
      omega

def sectionWith? (tag : SectionTag) (s : List Char) : Option (Section × List Char) :=
  if ('<' :: tag.name).isPrefixOf s then
    match Text.cutAt '>' (s.drop (tag.name.length + 1)) with
    | none => none
    | some (attributes, body) =>
      (cutAtWord tag.close body).map fun (content, rest) => (⟨tag, attributes, content⟩, rest)
  else none

/-- The section that starts a text, and the text after its closing tag. -/
def section? (s : List Char) : Option (Section × List Char) :=
  ((sectionWith? .template s).or (sectionWith? .script s)).or (sectionWith? .style s)

theorem sectionWith?_length {tag : SectionTag} {s : List Char} {found : Section × List Char}
    (h : sectionWith? tag s = some found) : found.2.length < s.length := by
  unfold sectionWith? at h
  split at h
  · next hp =>
    split at h
    · simp at h
    · next attributes body hc =>
      obtain ⟨⟨content, rest⟩, hw, rfl⟩ := Option.map_eq_some_iff.1 h
      have h1 := cutAtWord_length hw
      have h2 := congrArg List.length (Text.cutAt_eq_some hc).1
      have h3 := (List.isPrefixOf_iff_prefix.1 hp).length_le
      simp only [List.length_drop, List.length_append, List.length_cons] at h2 h3 ⊢
      omega
  · simp at h

theorem section?_length {s : List Char} {found : Section × List Char}
    (h : section? s = some found) : found.2.length < s.length := by
  unfold section? at h
  rcases Option.or_eq_some_iff.1 h with h | ⟨_, h⟩
  · rcases Option.or_eq_some_iff.1 h with h | ⟨_, h⟩ <;> exact sectionWith?_length h
  · exact sectionWith?_length h

/-- The sections of a source from left to right; a tag inside a section is content. -/
def sections (s : List Char) : List Section :=
  match h : section? s with
  | some found =>
    have := section?_length h
    found.1 :: sections found.2
  | none =>
    match s with
    | [] => []
    | _ :: r => sections r
termination_by s.length

def isNameChar (c : Char) : Bool := Text.isWordChar c || c == '-'

/-- A value in double quotes right after a name. -/
def attributeValue : List Char → Option (List Char × List Char)
  | '=' :: '"' :: r => Text.cutAt '"' r
  | _ => none

/-- Names with their values; a name without a value, or with an empty one, is bare. -/
def attributePairs : Nat → List Char → List (List Char × Option (List Char))
  | 0, _ => []
  | fuel + 1, s =>
    match s.dropWhile (fun c => !isNameChar c) with
    | [] => []
    | t =>
      let name := t.takeWhile isNameChar
      match attributeValue (t.dropWhile isNameChar) with
      | some (value, rest) =>
        (name, if value.isEmpty then none else some value) :: attributePairs fuel rest
      | none => (name, none) :: attributePairs fuel (t.dropWhile isNameChar)

def Section.attributeMap (s : Section) : List (String × Option String) :=
  Assoc.ofPairs ((attributePairs s.attributes.length s.attributes).map fun (n, v) =>
    (String.ofList n, v.map String.ofList))

def Section.block (s : Section) : Block :=
  ⟨String.ofList s.content, (Assoc.get? "lang" s.attributeMap).join⟩

def Section.styleBlock (s : Section) : StyleBlock :=
  { s.block with
    isScoped := Assoc.has "scoped" s.attributeMap
    cssModule := match Assoc.get? "module" s.attributeMap with
      | none => .off
      | some none => .on
      | some (some name) => .named name }

/-- A later section of one kind replaces an earlier one; styles add up. -/
def Descriptor.addSection (d : Descriptor) (s : Section) : Descriptor :=
  match s.tag with
  | .template => { d with template := some s.block }
  | .script =>
    if Assoc.has "setup" s.attributeMap then { d with scriptSetup := some s.block }
    else { d with script := some s.block }
  | .style => { d with styles := d.styles ++ [s.styleBlock] }

def Descriptor.ofSource (source filename : String) : Descriptor :=
  (sections source.toList).foldl Descriptor.addSection { filename, source }

end Playground
