import Mathlib.Data.List.Induction
import Mathlib.Data.List.TakeWhile
import Playground.Component.Blocks

namespace Playground

/-- Of entries with one key the last gives what the map holds. -/
theorem Assoc.get?_ofPairs {α β : Type} [DecidableEq α] (k : α) (pairs : List (α × β)) :
    get? k (ofPairs pairs) = ((pairs.filter (·.1 = k)).getLast?).map (·.2) := by
  induction pairs using List.reverseRecOn with
  | nil => rfl
  | append_singleton pairs p ih =>
    have hput : ofPairs (pairs ++ [p]) = put p.1 p.2 (ofPairs pairs) := List.foldl_append
    rw [hput, get?_put, List.filter_append]
    by_cases hp : p.1 = k
    · simp [hp]
    · simp [hp, ih]

theorem Text.cutAt_append {stop : Char} {s : List Char} (hs : stop ∉ s) (rest : List Char) :
    cutAt stop (s ++ stop :: rest) = some (s, rest) := by
  induction s with
  | nil => simp [cutAt]
  | cons c s ih =>
    obtain ⟨hc, hs⟩ := not_or.1 (mt List.mem_cons.2 hs)
    simp [cutAt, Ne.symm hc, ih hs]

/-- An attribute as it can be written: a name, and a value that quotes can stand around. -/
structure Attribute where
  name : String
  value : Option String := none
  isName : name ≠ "" ∧ ∀ c ∈ name.toList, isNameChar c = true
  isQuotable : ∀ v ∈ value, v ≠ "" ∧ '"' ∉ v.toList ∧ '>' ∉ v.toList

namespace Attribute

def valueText : Option String → List Char
  | none => []
  | some v => '=' :: '"' :: (v.toList ++ ['"'])

def text (a : Attribute) : List Char := ' ' :: (a.name.toList ++ valueText a.value)

def pair (a : Attribute) : List Char × Option (List Char) :=
  (a.name.toList, a.value.map String.toList)

theorem name_ne_nil (a : Attribute) : a.name.toList ≠ [] :=
  fun h => a.isName.1 (String.toList_eq_nil_iff.1 h)

/-- No attribute ends the tag that it stands in. -/
theorem not_mem_text (a : Attribute) : '>' ∉ a.text := by
  have hname : '>' ∉ a.name.toList := by
    intro h
    have hchar := a.isName.2 _ h
    revert hchar
    decide
  have hvalue : '>' ∉ valueText a.value := by
    cases hv : a.value with
    | none => simp [valueText]
    | some v => simp [valueText, (a.isQuotable v hv).2.2]
  simp [text, hname, hvalue]

/-- Behind a name stands no name: its value, the next attribute, or nothing. -/
def StopsName (s : List Char) : Prop := ∀ c ∈ s.head?, isNameChar c = false

theorem stopsName_flatMap_text (attributes : List Attribute) :
    StopsName (attributes.flatMap text) := by
  cases attributes with
  | nil => exact nofun
  | cons a attributes =>
    intro c hc
    obtain rfl : ' ' = c := Option.some.inj hc
    decide

theorem stopsName_valueText {rest : List Char} (value : Option String) (hrest : StopsName rest) :
    StopsName (valueText value ++ rest) := by
  cases value with
  | none => exact hrest
  | some v =>
    intro c hc
    obtain rfl : '=' = c := Option.some.inj hc
    decide

theorem attributeValue_flatMap_text (attributes : List Attribute) :
    attributeValue (attributes.flatMap text) = none := by
  cases attributes <;> rfl

theorem attributeValue_valueText {v : String} (hv : '"' ∉ v.toList) (rest : List Char) :
    attributeValue (valueText (some v) ++ rest) = some (v.toList, rest) := by
  have hcut := Text.cutAt_append hv rest
  simpa [valueText, attributeValue] using hcut

/-- A name is read up to where it stops. -/
theorem span_name (a : Attribute) {rest : List Char} (hrest : StopsName rest) :
    (a.name.toList ++ rest).takeWhile isNameChar = a.name.toList ∧
      (a.name.toList ++ rest).dropWhile isNameChar = rest := by
  rw [List.takeWhile_append_of_pos a.isName.2, List.dropWhile_append_of_pos a.isName.2]
  cases rest with
  | nil => simp
  | cons c rest =>
    have hc : isNameChar c = false := hrest c rfl
    simp [hc]

/-- The blank before an attribute is skipped, and its name is not. -/
theorem dropWhile_text (a : Attribute) (rest : List Char) :
    (a.text ++ rest).dropWhile (fun c => !isNameChar c) =
      a.name.toList ++ (valueText a.value ++ rest) := by
  have hblank : isNameChar ' ' = false := by decide
  have hname := a.isName.2
  have hne := a.name_ne_nil
  cases hn : a.name.toList with
  | nil => exact absurd hn hne
  | cons c name =>
    have hc : isNameChar c = true := hname c (hn ▸ List.mem_cons_self)
    simp [text, hn, hblank, hc]

theorem length_le_flatMap_text (attributes : List Attribute) :
    attributes.length ≤ (attributes.flatMap text).length := by
  induction attributes with
  | nil => exact Nat.le_refl 0
  | cons a attributes ih =>
    rw [List.flatMap_cons, List.length_append, List.length_cons]
    have hblank : 1 ≤ a.text.length := by simp [text]
    omega

/-- Attributes are read as they were written, each with its value. -/
theorem attributePairs_flatMap_text {attributes : List Attribute} {fuel : Nat}
    (hfuel : attributes.length ≤ fuel) :
    attributePairs fuel (attributes.flatMap text) = attributes.map pair := by
  induction attributes generalizing fuel with
  | nil => cases fuel <;> rfl
  | cons a attributes ih =>
    cases fuel with
    | zero => cases hfuel
    | succ fuel =>
      have hrest := ih (Nat.le_of_succ_le_succ hfuel)
      have hstops := stopsName_valueText a.value (stopsName_flatMap_text attributes)
      obtain ⟨htake, hdrop⟩ := a.span_name hstops
      rw [List.flatMap_cons, attributePairs, dropWhile_text]
      split
      · next hnil => exact absurd (List.append_eq_nil_iff.1 hnil).1 a.name_ne_nil
      · rw [htake, hdrop]
        cases hv : a.value with
        | none =>
          have hbare : valueText none ++ attributes.flatMap text = attributes.flatMap text := rfl
          rw [hbare, attributeValue_flatMap_text, hrest]
          simp [pair, hv]
        | some v =>
          obtain ⟨hne, hquote, -⟩ := a.isQuotable v hv
          rw [attributeValue_valueText hquote]
          simp [pair, hv, hne, hrest]

end Attribute

end Playground
