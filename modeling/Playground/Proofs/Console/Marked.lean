import Playground.Proofs.Console.Escape

namespace Playground.Console

/-- A text that no reading of markup changes. -/
def IsPlain (s : List Char) : Prop := '[' ∉ s ∧ '\\' ∉ s

theorem IsPlain.cons {c : Char} {s : List Char} (h : IsPlain (c :: s)) (rest : List Char) :
    tagHere? (c :: rest) = none ∧ c ≠ '\\' ∧ IsPlain s := by
  have hopen : c ≠ '[' := fun hc => h.1 (hc ▸ List.mem_cons_self)
  have hslash : c ≠ '\\' := fun hc => h.2 (hc ▸ List.mem_cons_self)
  exact ⟨tagHere?_of_ne hslash hopen rest, hslash,
    fun hs => h.1 (List.mem_cons_of_mem c hs), fun hs => h.2 (List.mem_cons_of_mem c hs)⟩

section Plain

variable {s : List Char} (hs : IsPlain s) (rest : List Char)
include hs

theorem plainOf_plain_append : plainOf (s ++ rest) = s ++ plainOf rest := by
  induction s with
  | nil => rfl
  | cons c s ih =>
    obtain ⟨hnone, hslash, hs'⟩ := hs.cons (s ++ rest)
    rw [List.cons_append, plainOf_cons hnone, if_neg fun h => hslash h.1, ih hs', List.cons_append]

theorem tagsFrom_plain_append (start : Nat) :
    tagsFrom start (s ++ rest) = tagsFrom (start + s.length) rest := by
  induction s generalizing start with
  | nil => rfl
  | cons c s ih =>
    obtain ⟨hnone, -, hs'⟩ := hs.cons (s ++ rest)
    rw [List.cons_append, tagsFrom_cons hnone, ih hs', List.length_cons, Nat.add_assoc,
      Nat.add_comm 1]

omit rest in
theorem plainOf_of_isPlain : plainOf s = s := by
  have h := plainOf_plain_append hs []
  rwa [List.append_nil, plainOf, List.append_nil] at h

omit rest in
theorem tagsFrom_of_isPlain (start : Nat) : tagsFrom start s = [] := by
  have h := tagsFrom_plain_append hs [] start
  rwa [List.append_nil, tagsFrom] at h

end Plain

section Slashes

variable (n : Nat)

theorem tagHere?_slashes : tagHere? ('\\' :: List.replicate n '\\') = none :=
  tagHere?_append_slashes [] (n + 1)

theorem tagsFrom_slashes (start : Nat) : tagsFrom start (List.replicate n '\\') = [] := by
  induction n generalizing start with
  | zero => rw [List.replicate_zero, tagsFrom]
  | succ n ih => rw [List.replicate_succ, tagsFrom_cons (tagHere?_slashes n), ih]

end Slashes

section Tones

variable (t : Tone)

def Tone.opening : WrittenTag := ⟨0, t.name.toList⟩

/-- The end of a text in a tone, with backslashes before it. -/
def Tone.closing (slashes : Nat) : WrittenTag := ⟨slashes, '/' :: t.name.toList⟩

theorem Tone.toList_mark (text : String) :
    (t.mark text).toList = t.opening.text ++ (text.toList ++ (t.closing 0).text) := by
  simp [mark, opening, closing, WrittenTag.text, WrittenTag.shown, String.toList_append]

theorem Tone.isTagBody_opening : IsTagBody t.opening.body := by
  cases t <;> exact ⟨⟨_, rfl, rfl⟩, by decide, by decide⟩

theorem Tone.isTagBody_closing (n : Nat) : IsTagBody (t.closing n).body := by
  have hbody : IsTagBody ('/' :: t.name.toList) := by
    cases t <;> exact ⟨⟨_, rfl, rfl⟩, by decide, by decide⟩
  exact hbody

theorem Tone.plain_closing_zero : (t.closing 0).plain = [] := by
  simp [WrittenTag.plain, closing]

/-- The names of tones are no words of a style. -/
theorem parse_tone : Style.parse t.name = .error .unknownWord := by
  cases t <;> rfl

theorem checkStyle_tone : checkStyle t.name = .ok () := by
  rw [checkStyle, parse_tone]

theorem nameOf_tone : nameOf t.name.toList = .ok t.name := by
  rw [nameOf, String.ofList_toList, styleName, parse_tone]
  cases t <;> rfl

theorem Opened.apply_opening (position : Nat) (s : Opened) :
    s.apply position t.opening.body = .ok ⟨⟨t.name, none⟩ :: s.tags, s.styles ++ [t.name]⟩ := by
  have happly : s.apply position t.opening.body = s.start t.name.toList t.opening.body := by
    cases t <;> rfl
  have hparameters : tagParameters t.opening.body = none := by cases t <;> rfl
  rw [happly, Opened.start, nameOf_tone, hparameters]
  rfl

theorem Opened.apply_closing (position n : Nat) (tags : List OpenTag) (styles : List String) :
    (⟨⟨t.name, none⟩ :: tags, styles⟩ : Opened).apply position (t.closing n).body =
      .ok ⟨tags, styles⟩ := by
  have happly (s : Opened) : s.apply position (t.closing n).body =
      s.close t.name.toList (t.closing n).body position := by
    cases t <;> rfl
  have hname : t.name.toList.isEmpty = false := by cases t <;> rfl
  rw [happly, Opened.close, hname, nameOf_tone]
  simp [bind, Except.bind, pure, Except.pure, OpenTag.checkClosed]

variable (rest : List Char)

theorem plainOf_opening : plainOf (t.opening.text ++ rest) = plainOf rest := by
  rw [plainOf_text t.isTagBody_opening rest]
  simp [WrittenTag.plain, Tone.opening]

theorem plainOf_closing (n : Nat) : plainOf ((t.closing n).text ++ rest) =
    (t.closing n).plain ++ plainOf rest :=
  plainOf_text (t.isTagBody_closing n) rest

omit rest in
theorem plainOf_closing_zero : plainOf (t.closing 0).text = [] := by
  have h := plainOf_closing t [] 0
  rwa [List.append_nil, plainOf, t.plain_closing_zero] at h

theorem tagsFrom_opening (start : Nat) : tagsFrom start (t.opening.text ++ rest) =
    (start, t.opening.body) :: tagsFrom (start + t.opening.length) rest :=
  tagsFrom_text t.isTagBody_opening rest start

theorem tagsFrom_closing (start n : Nat) : tagsFrom start ((t.closing n).text ++ rest) =
    if n % 2 = 1 then tagsFrom (start + (t.closing n).length) rest
    else (start + n, (t.closing n).body) :: tagsFrom (start + (t.closing n).length) rest :=
  tagsFrom_text (t.isTagBody_closing n) rest start

end Tones

/-- Checks made one by one all pass, or they end with the fault of one of them. -/
theorem forM_ends {α ε : Type} (f : α → Except ε Unit) (as : List α) :
    ((∀ a ∈ as, f a = .ok ()) ∧ as.forM f = .ok ()) ∨
      ∃ a ∈ as, ∃ e, f a = .error e ∧ as.forM f = .error e := by
  induction as with
  | nil => exact .inl ⟨nofun, rfl⟩
  | cons a as ih =>
    have hcons : (a :: as).forM f = (f a >>= fun _ => as.forM f) := rfl
    rw [hcons]
    cases ha : f a with
    | error e => exact .inr ⟨a, List.mem_cons_self, e, ha, rfl⟩
    | ok =>
      rcases ih with ⟨hall, hend⟩ | ⟨b, hb, e, hbe, hend⟩
      · exact .inl ⟨List.forall_mem_cons.2 ⟨ha, hall⟩, hend⟩
      · exact .inr ⟨b, List.mem_cons_of_mem a hb, e, hbe, hend⟩

/-- Markup passes if its tags do and each of its styles. -/
theorem checkShown_of_applyAll {markup : String} {s : Opened}
    (htags : Opened.applyAll {} (tagsFrom 0 markup.toList) = .ok s)
    (hstyles : ∀ style ∈ s.styles, checkStyle style = .ok ()) : checkShown markup = .ok () := by
  unfold checkShown stylesOf
  rw [htags]
  rcases forM_ends checkStyle s.styles with ⟨-, hend⟩ | ⟨style, hmem, e, hfault, -⟩
  · exact hend
  · rw [hstyles style hmem] at hfault
    cases hfault

theorem exists_opened_of_checkShown {markup : String} (hshown : checkShown markup = .ok ()) :
    ∃ s, Opened.applyAll {} (tagsFrom 0 markup.toList) = .ok s ∧
      ∀ style ∈ s.styles, checkStyle style = .ok () := by
  unfold checkShown stylesOf at hshown
  cases htags : Opened.applyAll {} (tagsFrom 0 markup.toList) with
  | error fault =>
    rw [htags] at hshown
    cases hshown
  | ok s =>
    rw [htags] at hshown
    rcases forM_ends checkStyle s.styles with ⟨hall, -⟩ | ⟨style, -, fault, -, hend⟩
    · exact ⟨s, rfl, hall⟩
    · exact absurd (hend.symm.trans hshown) nofun

section PlainCells

variable {text : String} (htext : IsPlain text.toList)
include htext

theorem checkShown_of_isPlain : checkShown text = .ok () :=
  checkShown_of_applyAll (s := {}) (by rw [tagsFrom_of_isPlain htext]; rfl) (List.forall_mem_nil _)

theorem checkShown_mark (t : Tone) : checkShown (t.mark text) = .ok () := by
  have hclosing (start : Nat) := tagsFrom_closing t [] start 0
  simp only [List.append_nil, tagsFrom] at hclosing
  refine checkShown_of_applyAll (s := ⟨[], [t.name]⟩) ?_ (by simp [checkStyle_tone])
  rw [t.toList_mark, tagsFrom_opening, tagsFrom_plain_append htext, hclosing, if_neg (by decide)]
  simp only [Opened.applyAll, Opened.apply_opening, Opened.apply_closing, Except.bind,
    List.nil_append]

end PlainCells

end Playground.Console
