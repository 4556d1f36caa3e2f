import Mathlib.Data.List.Infix
import Playground.Proofs.Component.Attributes

namespace Playground

/-- A section as it can be written. The content does not hold the section's own closing tag; any
other tag may stand in it. -/
structure WrittenSection where
  tag : SectionTag
  attributes : List Attribute := []
  content : String := ""
  isContent : ¬ tag.close <:+: content.toList

namespace WrittenSection

def text (s : WrittenSection) : List Char :=
  '<' :: (s.tag.name ++ (s.attributes.flatMap Attribute.text ++
    '>' :: (s.content.toList ++ s.tag.close)))

def last? (name : String) (s : WrittenSection) : Option Attribute :=
  (s.attributes.filter (·.name = name)).getLast?

def has (name : String) (s : WrittenSection) : Bool := s.attributes.any (·.name = name)

def block (s : WrittenSection) : Block := ⟨s.content, (s.last? "lang").bind (·.value)⟩

def styleBlock (s : WrittenSection) : StyleBlock :=
  { s.block with
    isScoped := s.has "scoped"
    cssModule := match s.last? "module" with
      | none => .off
      | some a => a.value.elim .on .named }

end WrittenSection

/-- Sections with texts before and behind them that open no tag. -/
structure WrittenComponent where
  parts : List (String × WrittenSection) := []
  ending : String := ""
  isPlain : ('<' ∉ ending.toList) ∧ ∀ p ∈ parts, '<' ∉ p.1.toList

namespace WrittenComponent

def sections (c : WrittenComponent) : List WrittenSection := c.parts.map (·.2)

def text (c : WrittenComponent) : String :=
  String.ofList (c.parts.flatMap (fun p => p.1.toList ++ p.2.text) ++ c.ending.toList)

end WrittenComponent

theorem SectionTag.name_injective {tag tag' : SectionTag} {s : List Char}
    (h : tag.name.isPrefixOf (tag'.name ++ s) = true) : tag = tag' := by
  cases tag <;> cases tag' <;> first | rfl | (revert h; simp [SectionTag.name])

/-- The start of a closing tag does not come again in it, so what is before it never runs into
it. -/
theorem cutAtWord_append {c : Char} {w s : List Char} (hc : c ∉ w) (hs : ¬ (c :: w) <:+: s)
    (rest : List Char) : cutAtWord (c :: w) (s ++ c :: (w ++ rest)) = some (s, rest) := by
  induction s with
  | nil => simp [cutAtWord]
  | cons d s ih =>
    have hstart : ¬ (c :: w) <+: d :: (s ++ c :: (w ++ rest)) := by
      -- a word that starts here would lie in the text or run over its end
      intro hstart
      obtain ⟨rfl, hw⟩ := List.cons_prefix_cons.1 hstart
      rcases List.prefix_or_prefix_of_prefix hw (List.prefix_append s _) with hinside | hacross
      · exact hs (List.cons_prefix_cons.2 ⟨rfl, hinside⟩).isInfix
      · obtain ⟨u, rfl⟩ := hacross
        cases u with
        | nil => exact hs (by simp)
        | cons e u =>
          have hu := (List.prefix_append_right_inj s).1 hw
          obtain ⟨rfl, -⟩ := List.cons_prefix_cons.1 hu
          exact hc (by simp)
    have hrest := ih fun h => hs (List.infix_cons h)
    rw [List.cons_append, cutAtWord, if_neg (mt List.isPrefixOf_iff_prefix.1 hstart), hrest]
    rfl

theorem sections_of_some {s rest : List Char} {found : Section}
    (h : section? s = some (found, rest)) : sections s = found :: sections rest := by
  rw [sections]
  split
  · next found' h' =>
    rw [h] at h'
    cases h'
    rfl
  · next h' =>
    rw [h] at h'
    cases h'

theorem sections_of_none {c : Char} {s : List Char} (h : section? (c :: s) = none) :
    sections (c :: s) = sections s := by
  rw [sections]
  split
  · next found h' =>
    rw [h] at h'
    cases h'
  · rfl

theorem sectionWith?_of_ne {c : Char} (hc : c ≠ '<') (tag : SectionTag) (s : List Char) :
    sectionWith? tag (c :: s) = none := by
  simp [sectionWith?, Ne.symm hc]

/-- A text that opens no tag holds no section. -/
theorem sections_append_of_plain {gap : List Char} (hgap : '<' ∉ gap) (s : List Char) :
    sections (gap ++ s) = sections s := by
  induction gap with
  | nil => rfl
  | cons c gap ih =>
    obtain ⟨hc, hgap⟩ := not_or.1 (mt List.mem_cons.2 hgap)
    have hnone : section? (c :: (gap ++ s)) = none := by
      simp [section?, sectionWith?_of_ne (Ne.symm hc)]
    rw [List.cons_append, sections_of_none hnone, ih hgap]

namespace WrittenSection

def toSection (s : WrittenSection) : Section :=
  ⟨s.tag, s.attributes.flatMap Attribute.text, s.content.toList⟩

theorem sectionWith?_text (s : WrittenSection) (rest : List Char) :
    sectionWith? s.tag (s.text ++ rest) = some (s.toSection, rest) := by
  have hstart : ('<' :: s.tag.name).isPrefixOf (s.text ++ rest) = true := by
    simp [text]
  have hdrop : (s.text ++ rest).drop (s.tag.name.length + 1) =
      s.attributes.flatMap Attribute.text ++ '>' :: (s.content.toList ++ s.tag.close ++ rest) := by
    simp [text, List.append_assoc]
  have htag : '>' ∉ s.attributes.flatMap Attribute.text := by
    intro hmem
    obtain ⟨a, -, ha⟩ := List.mem_flatMap.1 hmem
    exact a.not_mem_text ha
  have hclose : '<' ∉ '/' :: (s.tag.name ++ ['>']) := by
    cases s.tag <;> decide
  have hcontent : cutAtWord s.tag.close (s.content.toList ++ s.tag.close ++ rest) =
      some (s.content.toList, rest) := by
    have hcut := cutAtWord_append hclose s.isContent rest
    simpa [SectionTag.close] using hcut
  rw [sectionWith?, if_pos hstart, hdrop, Text.cutAt_append htag]
  simp only [hcontent]
  rfl

/-- Of the three tags only its own opens a section. -/
theorem section?_text (s : WrittenSection) (rest : List Char) : section? (s.text ++ rest) =
    some (s.toSection, rest) := by
  have hothers (tag : SectionTag) (hne : tag ≠ s.tag) :
      sectionWith? tag (s.text ++ rest) = none := by
    have hstart : ¬ ('<' :: tag.name).isPrefixOf (s.text ++ rest) = true := by
      intro hstart
      refine hne (SectionTag.name_injective (s := s.attributes.flatMap Attribute.text ++
        '>' :: (s.content.toList ++ s.tag.close) ++ rest) ?_)
      simpa [text] using hstart
    rw [sectionWith?, if_neg hstart]
  have hown := s.sectionWith?_text rest
  unfold section?
  cases htag : s.tag with
  | template =>
    rw [htag] at hown
    rw [hown]
    rfl
  | script =>
    rw [htag] at hown
    rw [hown, hothers .template (by simp [htag])]
    rfl
  | style =>
    rw [htag] at hown
    rw [hown, hothers .template (by simp [htag]), hothers .script (by simp [htag])]
    rfl

theorem attributeMap_toSection (s : WrittenSection) :
    s.toSection.attributeMap = Assoc.ofPairs (s.attributes.map fun a => (a.name, a.value)) := by
  have hpair (a : Attribute) :
      (String.ofList a.name.toList, (a.value.map String.toList).map String.ofList) =
        (a.name, a.value) := by
    cases a.value <;> simp
  unfold Section.attributeMap toSection
  rw [Attribute.attributePairs_flatMap_text (Attribute.length_le_flatMap_text s.attributes),
    List.map_map]
  exact congrArg Assoc.ofPairs (List.map_congr_left fun a _ => hpair a)

/-- A repeated attribute has the value that it is given last. -/
theorem get?_attributeMap (name : String) (s : WrittenSection) :
    Assoc.get? name s.toSection.attributeMap = (s.last? name).map (·.value) := by
  rw [attributeMap_toSection, Assoc.get?_ofPairs, List.filter_map, List.getLast?_map,
    Option.map_map]
  rfl

theorem has_attributeMap (name : String) (s : WrittenSection) :
    Assoc.has name s.toSection.attributeMap = s.has name := by
  have hlast : (s.last? name).isSome = s.has name := by
    rw [last?, has, Bool.eq_iff_iff, List.getLast?_isSome]
    simp [List.filter_eq_nil_iff]
  rw [Assoc.has, get?_attributeMap, Option.isSome_map, hlast]

theorem block_toSection (s : WrittenSection) : s.toSection.block = s.block := by
  have hlang : (Assoc.get? "lang" s.toSection.attributeMap).join =
      (s.last? "lang").bind (·.value) := by
    rw [get?_attributeMap]
    cases s.last? "lang" <;> rfl
  unfold Section.block block
  rw [hlang]
  simp [toSection]

theorem styleBlock_toSection (s : WrittenSection) : s.toSection.styleBlock = s.styleBlock := by
  unfold Section.styleBlock styleBlock
  rw [block_toSection, has_attributeMap, get?_attributeMap]
  cases s.last? "module" with
  | none => rfl
  | some a => cases hv : a.value <;> simp [hv]

end WrittenSection

theorem WrittenComponent.sections_text (c : WrittenComponent) :
    Playground.sections c.text.toList = c.sections.map WrittenSection.toSection := by
  obtain ⟨parts, ending, hending, hparts⟩ := c
  simp only [text, WrittenComponent.sections, String.toList_ofList]
  induction parts with
  | nil =>
    have hplain := sections_append_of_plain hending []
    rw [List.append_nil] at hplain
    rw [List.flatMap_nil, List.nil_append, hplain, Playground.sections]
    rfl
  | cons p parts ih =>
    obtain ⟨hgap, hparts⟩ := List.forall_mem_cons.1 hparts
    rw [List.flatMap_cons, List.append_assoc, List.append_assoc, sections_append_of_plain hgap,
      sections_of_some (p.2.section?_text _), ih hparts]
    rfl

namespace Descriptor

def lastBlock (sections : List Section) : Option Block := sections.getLast?.map Section.block

/-- Each section has a place of its own: the last one of a kind is kept, and all styles are. -/
theorem foldl_addSection (filename source : String) (sections : List Section) :
    let isSetup (s : Section) := Assoc.has "setup" s.attributeMap
    sections.foldl addSection { filename, source } =
      { filename, source
        template := lastBlock (sections.filter (·.tag = .template))
        script := lastBlock (sections.filter fun s => s.tag = .script ∧ isSetup s = false)
        scriptSetup := lastBlock (sections.filter fun s => s.tag = .script ∧ isSetup s = true)
        styles := (sections.filter (·.tag = .style)).map Section.styleBlock } := by
  intro isSetup
  induction sections using List.reverseRecOn with
  | nil => rfl
  | append_singleton sections s ih =>
    rw [List.foldl_append, ih, List.foldl_cons, List.foldl_nil, addSection]
    simp only [List.filter_append]
    cases htag : s.tag with
    | template => simp [htag, lastBlock]
    | script =>
      by_cases hsetup : isSetup s = true
      · simp [htag, hsetup, lastBlock, isSetup]
      · simp [htag, hsetup, lastBlock, isSetup]
    | style => simp [htag]

/-- Reading a component undoes writing it: of its templates, of its plain scripts and of its setup
scripts the last is found, and every style, each with its content and with what its last attributes
say. -/
theorem ofSource_written (c : WrittenComponent) (filename : String) :
    let last (p : WrittenSection → Bool) :=
      (c.sections.filter p).getLast?.map WrittenSection.block
    ofSource c.text filename =
      { filename, source := c.text
        template := last (·.tag = .template)
        script := last fun s => s.tag = .script ∧ s.has "setup" = false
        scriptSetup := last fun s => s.tag = .script ∧ s.has "setup" = true
        styles := (c.sections.filter (·.tag = .style)).map WrittenSection.styleBlock } := by
  intro last
  let read := c.sections.map WrittenSection.toSection
  have hlast (p : Section → Bool) :
      lastBlock (read.filter p) = last (p ∘ WrittenSection.toSection) := by
    rw [lastBlock, List.filter_map, List.getLast?_map, Option.map_map]
    exact congrArg (Option.map · _) (funext WrittenSection.block_toSection)
  have hstyles : (read.filter (·.tag = .style)).map Section.styleBlock =
      (c.sections.filter (·.tag = .style)).map WrittenSection.styleBlock := by
    rw [List.filter_map, List.map_map]
    exact List.map_congr_left fun s _ => s.styleBlock_toSection
  rw [ofSource, c.sections_text, foldl_addSection, hlast, hlast, hlast, hstyles]
  simp only [Function.comp_def, WrittenSection.has_attributeMap]
  rfl

/-- A component with two templates, a plain and a setup script and two styles, in which attributes
come again and a script quotes the tag of another section. -/
def severalSections : WrittenComponent :=
  let written (name : String) (value : Option String) (hne : name ≠ "")
      (hname : name.toList.all isNameChar = true)
      (hvalue : ∀ v ∈ value, v ≠ "" ∧ '"' ∉ v.toList ∧ '>' ∉ v.toList) : Attribute :=
    ⟨name, value, ⟨hne, List.all_eq_true.1 hname⟩, hvalue⟩
  let javascript := written "lang" (some "js") (by decide) (by decide) (by decide)
  let typescript := written "lang" (some "ts") (by decide) (by decide) (by decide)
  let setup := written "setup" none (by decide) (by decide) nofun
  let isScoped := written "scoped" none (by decide) (by decide) nofun
  let bare := written "module" none (by decide) (by decide) nofun
  let named := written "module" (some "classes") (by decide) (by decide) (by decide)
  { parts := [
      ("", ⟨.template, [], "<p>", by decide⟩),
      ("\n", ⟨.script, [javascript, typescript], "let a = \"<style>\"", by decide⟩),
      ("\n", ⟨.script, [setup], "b", by decide⟩),
      ("\n", ⟨.style, [isScoped], "c", by decide⟩),
      (" d\n", ⟨.style, [bare, named], "e", by decide⟩),
      ("\n", ⟨.template, [], "<b>", by decide⟩)]
    ending := "\n"
    isPlain := by decide }

/-- Of the templates the last is found, of the languages of the script the last too. -/
theorem ofSource_written_severalSections :
    severalSections.text =
      "<template><p></template>\n<script lang=\"js\" lang=\"ts\">let a = \"<style>\"</script>\n" ++
        "<script setup>b</script>\n<style scoped>c</style> d\n" ++
        "<style module module=\"classes\">e</style>\n<template><b></template>\n" ∧
    ofSource severalSections.text "App.vue" =
      { filename := "App.vue"
        source := severalSections.text
        template := some { content := "<b>" }
        script := some { content := "let a = \"<style>\"", lang := some "ts" }
        scriptSetup := some { content := "b" }
        styles := [{ content := "c", isScoped := true },
          { content := "e", cssModule := .named "classes" }] } := by
  refine ⟨by decide +kernel, ?_⟩
  rw [ofSource_written severalSections "App.vue"]
  decide +kernel

/-- The bare `lang` comes last, and neither the start of a closing tag nor another section's tag
ends the script. -/
example :
    (ofSource "<script lang=\"ts\" lang>a</scrip<style></script>b" "App.vue").script =
      some { content := "a</scrip<style>" } := by
  decide +kernel

end Descriptor

end Playground
