import Playground.Console.Plain
import Playground.Proofs.Component.Attributes

namespace Playground.Console

/-- What the brackets of a tag can hold. -/
def IsTagBody (body : List Char) : Prop :=
  (∃ c ∈ body.head?, startsTag c = true) ∧ '[' ∉ body ∧ ']' ∉ body

theorem tagBody?_eq_some_iff {s body : List Char} :
    tagBody? s = some body ↔ IsTagBody body ∧ ∃ rest, s = body ++ ']' :: rest := by
  cases s with
  | nil => simp [tagBody?]
  | cons c r =>
    constructor
    · intro h
      simp only [tagBody?] at h
      split at h
      · cases h
      · next hc =>
        have hstart : startsTag c = true := by simpa using hc
        split at h
        · cases h
        · next inner rest hcut =>
          obtain ⟨rfl, hinner⟩ := Text.cutAt_eq_some hcut
          split at h
          · cases h
          · next hopen =>
            cases h
            have hne : c ≠ '[' ∧ c ≠ ']' := by
              constructor <;> rintro rfl <;> exact absurd hstart (by decide)
            have hopen' : '[' ∉ inner := by simpa using hopen
            refine ⟨⟨⟨c, rfl, hstart⟩, ?_, ?_⟩, rest, rfl⟩
            · simp [hopen', Ne.symm hne.1]
            · simp [hinner, Ne.symm hne.2]
    · rintro ⟨⟨⟨d, hd, hstart⟩, hopen, hclose⟩, rest, hs⟩
      cases body with
      | nil => cases hd
      | cons e inner =>
        obtain rfl : e = d := Option.some.inj hd
        obtain ⟨rfl, rfl⟩ := List.cons.inj hs
        have hcut := Text.cutAt_append (fun h => hclose (List.mem_cons_of_mem _ h)) rest
        have hopen' : '[' ∉ inner := fun h => hopen (List.mem_cons_of_mem _ h)
        simp [tagBody?, hstart, hcut, hopen']

/-- A tag behind backslashes, as it is written. -/
def WrittenTag.text (t : WrittenTag) : List Char := List.replicate t.slashes '\\' ++ t.shown

/-- What is shown of a tag: half of its backslashes, and the tag itself if one of them is left. -/
def WrittenTag.plain (t : WrittenTag) : List Char :=
  List.replicate (t.slashes / 2) '\\' ++ if t.slashes % 2 = 1 then t.shown else []

theorem WrittenTag.length_text (t : WrittenTag) : t.text.length = t.length := by
  simp [text, shown, length]
  omega

theorem WrittenTag.getLast?_text (t : WrittenTag) : t.text.getLast? = some ']' := by
  rw [text, List.getLast?_append, shown, List.getLast?_concat]
  rfl

theorem tagHere?_slash (s : List Char) :
    tagHere? ('\\' :: s) = (tagHere? s).map fun t => ⟨t.slashes + 1, t.body⟩ := by
  unfold tagHere?
  simp only [List.takeWhile_cons, decide_true, if_true, List.length_cons, List.drop_succ_cons]
  split
  · rw [Option.map_map]
    rfl
  · rfl

theorem tagHere?_bracket (s : List Char) :
    tagHere? ('[' :: s) = (tagBody? s).map fun body => ⟨0, body⟩ := by
  simp [tagHere?]

theorem tagHere?_of_ne {c : Char} (hslash : c ≠ '\\') (hopen : c ≠ '[') (s : List Char) :
    tagHere? (c :: s) = none := by
  have htake : (c :: s).takeWhile (· = '\\') = [] := by simp [hslash]
  simp only [tagHere?, htake, List.length_nil, List.drop_zero]
  split
  · next h => exact absurd (List.cons.inj h).1 hopen
  · rfl

theorem tagHere?_eq_some_iff {s : List Char} {t : WrittenTag} :
    tagHere? s = some t ↔ IsTagBody t.body ∧ ∃ rest, s = t.text ++ rest := by
  induction s generalizing t with
  | nil => simp [tagHere?, WrittenTag.text, WrittenTag.shown]
  | cons c s ih =>
    obtain ⟨slashes, body⟩ := t
    by_cases hslash : c = '\\'
    · rw [hslash, tagHere?_slash]
      cases slashes with
      | zero =>
        simp [WrittenTag.text, WrittenTag.shown]
      | succ n =>
        have hstep := ih (t := ⟨n, body⟩)
        simp only [WrittenTag.text, WrittenTag.shown, List.replicate_succ, List.cons_append,
          List.cons.injEq, true_and] at hstep ⊢
        rw [← hstep, Option.map_eq_some_iff]
        constructor
        · rintro ⟨⟨n', body'⟩, hs, he⟩
          cases he
          exact hs
        · exact fun hs => ⟨_, hs, rfl⟩
    by_cases hopen : c = '['
    · rw [hopen, tagHere?_bracket, Option.map_eq_some_iff]
      constructor
      · rintro ⟨body', hs, he⟩
        cases he
        obtain ⟨hbody, rest, rfl⟩ := tagBody?_eq_some_iff.1 hs
        exact ⟨hbody, rest, by simp [WrittenTag.text, WrittenTag.shown]⟩
      · rintro ⟨hbody, rest, hs⟩
        cases slashes with
        | zero =>
          refine ⟨body, tagBody?_eq_some_iff.2 ⟨hbody, rest, ?_⟩, rfl⟩
          simpa [WrittenTag.text, WrittenTag.shown] using hs
        | succ n => simp [WrittenTag.text, List.replicate_succ] at hs
    · rw [tagHere?_of_ne hslash hopen]
      refine iff_of_false nofun ?_
      rintro ⟨-, rest, hs⟩
      cases slashes with
      | zero => exact hopen (List.cons.inj hs).1
      | succ n => exact hslash (List.cons.inj hs).1

theorem WrittenTag.exists_cons (t : WrittenTag) (rest : List Char) :
    ∃ c r, t.text ++ rest = c :: r ∧ r.drop (t.length - 1) = rest := by
  cases htext : t.text ++ rest with
  | nil => simp [WrittenTag.text, WrittenTag.shown] at htext
  | cons c r =>
    refine ⟨c, r, rfl, ?_⟩
    have hdrop : (t.text ++ rest).drop t.length = rest := by
      rw [← t.length_text, List.drop_left]
    obtain ⟨n, hn⟩ : ∃ n, t.length = n + 1 := ⟨_, rfl⟩
    rw [htext, hn, List.drop_succ_cons] at hdrop
    rwa [hn]

section Readers

variable {t : WrittenTag} (ht : IsTagBody t.body) (rest : List Char)
include ht

theorem escapeTags_text : escapeTags (t.text ++ rest) =
    (⟨2 * t.slashes + 1, t.body⟩ : WrittenTag).text ++ escapeTags rest := by
  obtain ⟨c, r, htext, hrest⟩ := t.exists_cons rest
  have hhere : tagHere? (c :: r) = some t := tagHere?_eq_some_iff.2 ⟨ht, rest, htext.symm⟩
  rw [htext, escapeTags]
  simp only [hhere, hrest]
  rfl

theorem tagsFrom_text (start : Nat) : tagsFrom start (t.text ++ rest) =
    if t.slashes % 2 = 1 then tagsFrom (start + t.length) rest
    else (start + t.slashes, t.body) :: tagsFrom (start + t.length) rest := by
  obtain ⟨c, r, htext, hrest⟩ := t.exists_cons rest
  have hhere : tagHere? (c :: r) = some t := tagHere?_eq_some_iff.2 ⟨ht, rest, htext.symm⟩
  rw [htext, tagsFrom]
  simp only [hhere, hrest]

theorem plainOf_text : plainOf (t.text ++ rest) = t.plain ++ plainOf rest := by
  obtain ⟨c, r, htext, hrest⟩ := t.exists_cons rest
  have hhere : tagHere? (c :: r) = some t := tagHere?_eq_some_iff.2 ⟨ht, rest, htext.symm⟩
  rw [htext, plainOf]
  simp only [hhere, hrest, WrittenTag.plain]

end Readers

section Characters

variable {c : Char} {s : List Char} (hnone : tagHere? (c :: s) = none)
include hnone

theorem escapeTags_cons : escapeTags (c :: s) = c :: escapeTags s := by
  rw [escapeTags]
  simp only [hnone]

theorem tagsFrom_cons (start : Nat) : tagsFrom start (c :: s) = tagsFrom (start + 1) s := by
  rw [tagsFrom]
  simp only [hnone]

theorem plainOf_cons : plainOf (c :: s) =
    if c = '\\' ∧ s.head? = some '[' then plainOf s else c :: plainOf s := by
  rw [plainOf]
  simp only [hnone]

end Characters

/-- A text is read tag by tag, and character by character where no tag starts. -/
theorem tags_induction {P : List Char → Prop} (nil : P [])
    (tag : ∀ (t : WrittenTag) (rest : List Char), IsTagBody t.body → P rest → P (t.text ++ rest))
    (char : ∀ (c : Char) (s : List Char), tagHere? (c :: s) = none → P s → P (c :: s))
    (s : List Char) : P s := by
  induction hn : s.length using Nat.strong_induction_on generalizing s with
  | _ n ih =>
    cases s with
    | nil => exact nil
    | cons c s =>
      cases hhere : tagHere? (c :: s) with
      | none => exact char c s hhere (ih s.length (by simp [← hn]) s rfl)
      | some t =>
        obtain ⟨hbody, rest, htext⟩ := tagHere?_eq_some_iff.1 hhere
        have hlength := congrArg List.length htext
        rw [List.length_append, t.length_text, WrittenTag.length] at hlength
        rw [htext]
        exact tag t rest hbody (ih rest.length (by omega) rest rfl)

end Playground.Console
