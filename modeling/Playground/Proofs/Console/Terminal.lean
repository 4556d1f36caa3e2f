import Playground.Console.Report
import Playground.Proofs.Console.Joined
import Playground.Proofs.Except

namespace Playground.Console

/-- Words that are no markup and that a terminal shows as they are: no brackets, no backslashes, no
control characters, and a blank behind every colon, so that none starts the name of an emoji. -/
def isWords : List Char → Bool
  | [] => true
  | c :: r =>
    c ≠ '[' && c ≠ '\\' && !isControl c && (c ≠ ':' || r.head? = some ' ') && isWords r

def IsWords (s : String) : Prop := isWords s.toList = true

instance (s : String) : Decidable (IsWords s) := inferInstanceAs (Decidable (_ = true))

/-- A terminal reads markup by a function that gives the text it shows, or why it shows none. It
shows an event if all markup in it can be shown. Words are shown as they are, and a tone does not
change them. A text that was escaped is never wrong markup. Behind words, or behind what is in a
tone, markup is read as it is alone. -/
structure Terminal.ReadsBy (t : Terminal) (render : String → Except MarkupError String) :
    Prop where
  check_eq_ok_iff (e : Event) :
    t.check e = .ok () ↔ ∀ markup ∈ e.markups, ∃ shown, render markup = .ok shown
  check_eq_error {e : Event} {fault : MarkupError} (hcheck : t.check e = .error fault) :
    ∃ markup ∈ e.markups, render markup = .error fault
  words {s : String} (hs : IsWords s) : render s = .ok s
  mark_words (tone : Tone) {s : String} (hs : IsWords s) : render (tone.mark s) = .ok s
  escape (text : String) : ∃ shown, render (t.escape text) = .ok shown
  mark_escape (tone : Tone) (text : String) :
    ∃ shown, render (tone.mark (t.escape text)) = .ok shown
  words_append {s markup shown : String} (hs : IsWords s) (hshown : render markup = .ok shown) :
    render (s ++ markup) = .ok (s ++ shown)
  mark_append (tone : Tone) {s markup shown shown' : String}
    (hshown : render (tone.mark s) = .ok shown) (hshown' : render markup = .ok shown') :
    render (tone.mark s ++ markup) = .ok (shown ++ shown')

/-- Such a text is shown as it is where it is escaped, alone and in a tone. -/
structure Terminal.Keeps (t : Terminal) (render : String → Except MarkupError String)
    (text : String) : Prop where
  alone : render (t.escape text) = .ok text
  inTone (tone : Tone) : render (tone.mark (t.escape text)) = .ok text

theorem getLast?_mark (tone : Tone) (text : String) :
    (tone.mark text).toList.getLast? = some ']' := by
  rw [Tone.toList_mark, List.getLast?_append, List.getLast?_append, WrittenTag.getLast?_text]
  rfl

section Words

variable {s : List Char} (hs : isWords s = true)
include hs

theorem isPlain_of_isWords : IsPlain s := by
  induction s with
  | nil => exact ⟨List.not_mem_nil, List.not_mem_nil⟩
  | cons c s ih =>
    simp only [isWords, Bool.and_eq_true, decide_eq_true_iff] at hs
    obtain ⟨⟨⟨⟨hopen, hslash⟩, -⟩, -⟩, htail⟩ := hs
    simp [IsPlain, hopen.symm, hslash.symm, (ih htail).1, (ih htail).2]

theorem withoutControls_of_isWords : withoutControls s = s := by
  induction s with
  | nil => rfl
  | cons c s ih =>
    simp only [isWords, Bool.and_eq_true] at hs
    obtain ⟨⟨⟨-, hcontrol⟩, -⟩, htail⟩ := hs
    have hkept : withoutControls (c :: s) = c :: withoutControls s :=
      List.filter_cons_of_pos (p := fun c => !isControl c) hcontrol
    rw [hkept, ih htail]

end Words

theorem isWords_of_isDigit {s : List Char} (hs : ∀ c ∈ s, c.isDigit = true) : isWords s = true := by
  induction s with
  | nil => rfl
  | cons c s ih =>
    obtain ⟨hc, htail⟩ := List.forall_mem_cons.1 hs
    have hother : c ≠ '[' ∧ c ≠ '\\' ∧ c ≠ ':' := by
      refine ⟨?_, ?_, ?_⟩ <;> rintro rfl <;> exact absurd hc (by decide)
    have hcontrol : isControl c = false := by
      have hrange : 48 ≤ c.toNat := (by simpa [Char.isDigit, UInt32.le_iff_toNat_le] using hc :
        48 ≤ c.toNat ∧ _).1
      simp only [isControl, Bool.or_eq_false_iff, beq_eq_false_iff_ne]
      omega
    simp [isWords, hother, hcontrol, ih htail]

theorem isWords_count (n : Nat) : IsWords (toString n) := by
  unfold IsWords
  rw [Nat.toString_eq_ofList_toDigits, String.toList_ofList]
  exact isWords_of_isDigit fun c hc =>
    Nat.isDigit_of_mem_toDigits (b := 10) (by decide) (by decide) hc

theorem isWords_label (o : Outcome) : IsWords o.label := by
  cases o <;> decide

/-! The standard terminal reads markup by its tags. -/

/-- What the standard terminal shows for a markup, or why it shows nothing. -/
def shownText (markup : String) : Except MarkupError String :=
  (checkShown markup).map fun _ => plain markup

theorem shownText_of_checkShown {markup : String} (h : checkShown markup = .ok ()) :
    shownText markup = .ok (plain markup) := by
  rw [shownText, h]
  rfl

theorem checkShown_of_shownText {markup shown : String} (h : shownText markup = .ok shown) :
    checkShown markup = .ok () ∧ plain markup = shown := by
  unfold shownText at h
  cases hcheck : checkShown markup with
  | error fault =>
    rw [hcheck] at h
    cases h
  | ok =>
    rw [hcheck] at h
    exact ⟨rfl, Except.ok.inj h⟩

theorem Table.mem_flatten_of_mem_cells {t : Table} {cell : String} (h : cell ∈ t.cells) :
    cell ∈ t.rows.flatten := by
  obtain ⟨i, -, hi⟩ := List.mem_flatMap.1 h
  obtain ⟨row, hrow, hcell⟩ := List.mem_filterMap.1 hi
  exact List.mem_flatten.2 ⟨row, hrow, List.mem_of_getElem? hcell⟩

/-- What is measured before an event is shown is shown with it. -/
theorem Event.mem_markups_of_mem_measured {e : Event} {markup : String} (h : markup ∈ e.measured) :
    markup ∈ e.markups := by
  cases e with
  | table t =>
    have hcolumns : t.columns.isEmpty = false := by
      obtain ⟨i, hi, -⟩ := List.mem_flatMap.1 h
      cases hnone : t.columns with
      | nil => simp [hnone] at hi
      | cons c columns => rfl
    rw [Event.markups, hcolumns]
    exact List.mem_append_right _ (Table.mem_flatten_of_mem_cells h)
  | _ => cases h

/-- An event passes if all of its markup does, and it fails only with the fault of one. -/
theorem Event.check_ends (e : Event) :
    ((∀ markup ∈ e.markups, checkShown markup = .ok ()) ∧ e.check = .ok ()) ∨
      ∃ markup ∈ e.markups, ∃ fault, checkShown markup = .error fault ∧ e.check = .error fault := by
  let measure (markup : String) : Except MarkupError Unit := (stylesOf markup).map fun _ => ()
  have hcheck : e.check = (e.measured.forM measure >>= fun _ => e.markups.forM checkShown) := rfl
  rw [hcheck]
  rcases forM_ends measure e.measured with ⟨-, hend⟩ | ⟨markup, hmem, fault, hfault, hend⟩
  · rw [hend]
    exact forM_ends checkShown e.markups
  · have hshown : checkShown markup = .error fault := by
      rw [checkShown, map_eq_error hfault]
      rfl
    exact .inr ⟨markup, e.mem_markups_of_mem_measured hmem, fault, hshown, by rw [hend]; rfl⟩

theorem tagsFrom_escape (start : Nat) (text : String) :
    tagsFrom start (escape text).toList = [] := by
  obtain ⟨s, n, hs, htext⟩ := exists_endsClean text.toList
  rw [toList_escape hs htext, tagsFrom_escapeTags_append hs (startsApart_slashes _),
    tagsFrom_slashes]

theorem checkShown_escape (text : String) : checkShown (escape text) = .ok () :=
  checkShown_of_applyAll (s := {}) (by rw [tagsFrom_escape]; rfl) (List.forall_mem_nil _)

/-- An odd number of backslashes at the end of a text leaves the tag around it open. -/
theorem checkShown_mark_escape (tone : Tone) (text : String) :
    checkShown (tone.mark (escape text)) = .ok () := by
  obtain ⟨s, n, hs, htext⟩ := exists_endsClean text.toList
  have hlist : (tone.mark (escape text)).toList =
      tone.opening.text ++ (escapeTags s ++ ((tone.closing (closedSlashes n)).text ++ [])) := by
    rw [Tone.toList_mark, toList_escape hs htext]
    simp [Tone.closing, WrittenTag.text, WrittenTag.shown]
  obtain ⟨tags, htags⟩ : ∃ tags, Opened.applyAll {} (tagsFrom 0 (tone.mark (escape text)).toList) =
      .ok ⟨tags, [tone.name]⟩ := by
    rw [hlist, tagsFrom_opening, tagsFrom_escapeTags_append hs (startsApart_tag _ _),
      tagsFrom_closing, tagsFrom]
    simp only [Opened.applyAll, Opened.apply_opening, Except.bind, List.nil_append]
    split
    · exact ⟨_, rfl⟩
    · exact ⟨_, by simp only [Opened.applyAll, Opened.apply_closing, Except.bind]; rfl⟩
  exact checkShown_of_applyAll htags (by simp [checkStyle_tone])

theorem plain_append {a b : String} (h : plainOf (a ++ b).toList =
    plainOf a.toList ++ plainOf b.toList) : plain (a ++ b) = plain a ++ plain b := by
  unfold plain
  rw [h, withoutControls, List.filter_append, String.ofList_append]
  rfl

theorem plain_of_isWords {s : String} (hs : IsWords s) : plain s = s := by
  rw [plain, plainOf_of_isPlain (isPlain_of_isWords hs), withoutControls_of_isWords hs,
    String.ofList_toList]

theorem standard_readsBy : Terminal.standard.ReadsBy shownText where
  check_eq_ok_iff e := by
    change e.check = .ok () ↔ _
    rcases e.check_ends with ⟨hall, hcheck⟩ | ⟨markup, hmem, fault, hfault, hcheck⟩
    · exact iff_of_true hcheck fun markup hmem => ⟨_, shownText_of_checkShown (hall markup hmem)⟩
    · refine iff_of_false (by rw [hcheck]; exact nofun) fun hall => ?_
      obtain ⟨shown, hshown⟩ := hall markup hmem
      rw [(checkShown_of_shownText hshown).1] at hfault
      cases hfault
  check_eq_error {e fault} hcheck := by
    change e.check = .error fault at hcheck
    rcases e.check_ends with ⟨-, hok⟩ | ⟨markup, hmem, fault', hfault, herror⟩
    · rw [hok] at hcheck
      cases hcheck
    · rw [herror] at hcheck
      cases hcheck
      exact ⟨markup, hmem, by rw [shownText, hfault]; rfl⟩
  words {s} hs := by
    rw [shownText_of_checkShown (checkShown_of_isPlain (isPlain_of_isWords hs)),
      plain_of_isWords hs]
  mark_words tone {s} hs := by
    have hplain := isPlain_of_isWords hs
    rw [shownText_of_checkShown (checkShown_mark hplain tone), plain, tone.toList_mark,
      plainOf_opening, plainOf_plain_append hplain, plainOf_closing_zero, List.append_nil,
      withoutControls_of_isWords hs, String.ofList_toList]
  escape text := ⟨_, shownText_of_checkShown (checkShown_escape text)⟩
  mark_escape tone text := ⟨_, shownText_of_checkShown (checkShown_mark_escape tone text)⟩
  words_append {s markup shown} hs hshown := by
    obtain ⟨hcheck, rfl⟩ := checkShown_of_shownText hshown
    have hplain := isPlain_of_isWords hs
    have htags (start : Nat) : tagsFrom start (s ++ markup).toList =
        tagsFrom start s.toList ++ tagsFrom (start + s.toList.length) markup.toList := by
      rw [String.toList_append, tagsFrom_plain_append hplain, tagsFrom_of_isPlain hplain,
        List.nil_append]
    have hjoined : plainOf (s ++ markup).toList = plainOf s.toList ++ plainOf markup.toList := by
      rw [String.toList_append, plainOf_plain_append hplain, plainOf_of_isPlain hplain]
    rw [shownText_of_checkShown (checkShown_append htags (checkShown_of_isPlain hplain) hcheck),
      plain_append hjoined, plain_of_isWords hs]
  mark_append tone {s markup shown shown'} hshown hshown' := by
    obtain ⟨hcheck, rfl⟩ := checkShown_of_shownText hshown
    obtain ⟨hcheck', rfl⟩ := checkShown_of_shownText hshown'
    have hends : EndsClosed (tone.mark s).toList := fun c hc =>
      Option.some.inj (hc.symm.trans (getLast?_mark tone s))
    have htags (start : Nat) : tagsFrom start (tone.mark s ++ markup).toList =
        tagsFrom start (tone.mark s).toList ++
          tagsFrom (start + (tone.mark s).toList.length) markup.toList := by
      rw [String.toList_append, tagsFrom_append hends]
    have hjoined : plainOf (tone.mark s ++ markup).toList =
        plainOf (tone.mark s).toList ++ plainOf markup.toList := by
      rw [String.toList_append, plainOf_append hends]
    rw [shownText_of_checkShown (checkShown_append htags hcheck hcheck'), plain_append hjoined]

/-- The standard terminal keeps a text without backslashes and control characters. -/
theorem standard_keeps {text : String} (hslash : '\\' ∉ text.toList)
    (hcontrol : withoutControls text.toList = text.toList) :
    Terminal.standard.Keeps shownText text := by
  have hclean : EndsClean text.toList := fun h => hslash (List.mem_of_getLast? h)
  have hescape : (escape text).toList = escapeTags text.toList := by
    have hlist := toList_escape (n := 0) hclean (List.append_nil _).symm
    rwa [show closedSlashes 0 = 0 from rfl, List.replicate_zero, List.append_nil] at hlist
  constructor
  · have hshown := plainOf_escapeTags_append hslash (startsApart_slashes 0)
    rw [List.replicate_zero, List.append_nil, plainOf, List.append_nil] at hshown
    change shownText (escape text) = .ok text
    rw [shownText_of_checkShown (checkShown_escape text), plain, hescape, hshown, hcontrol,
      String.ofList_toList]
  · intro tone
    have hapart := startsApart_tag (tone.closing 0) []
    rw [List.append_nil] at hapart
    change shownText (tone.mark (escape text)) = .ok text
    rw [shownText_of_checkShown (checkShown_mark_escape tone text), plain, tone.toList_mark,
      plainOf_opening, hescape, plainOf_escapeTags_append hslash hapart, plainOf_closing_zero,
      List.append_nil, hcontrol, String.ofList_toList]

end Playground.Console
