import Playground.Proofs.Import.Leftmost

namespace Playground.Import

section Mark

variable {x y front rest : List Char} {c : Char}

/-- A character lies in a part of a text or behind it. -/
theorem mark_cases (h : x ++ y = front ++ c :: rest) :
    (∃ x', x = front ++ c :: x' ∧ rest = x' ++ y) ∨
      ∃ front', front = x ++ front' ∧ y = front' ++ c :: rest := by
  rcases List.append_eq_append_iff.1 h with ⟨a, rfl, hy⟩ | ⟨a, rfl, hrest⟩
  · exact .inr ⟨a, rfl, hy⟩
  · cases a with
    | nil => exact .inr ⟨[], by simp, hrest.symm⟩
    | cons c a =>
      obtain ⟨rfl, htail⟩ := List.cons.inj hrest
      exact .inl ⟨a, rfl, htail⟩

theorem mark_behind (hx : c ∉ x) (h : x ++ y = front ++ c :: rest) :
    ∃ front', front = x ++ front' ∧ y = front' ++ c :: rest := by
  rcases mark_cases h with ⟨x', rfl, -⟩ | hbehind
  · exact absurd (by simp) hx
  · exact hbehind

end Mark

namespace Occurrence

/-- The first character of a word that is neither `from` nor in quotes. -/
structure StartsWord (c : Char) : Prop where
  notBlank : Text.isBlank c = false
  notFrom : c ≠ 'f'
  notQuote : isQuote c = false

/-- Only the runs of blanks of an occurrence can run over a line end. If a word that starts neither
`from` nor a quote comes next, it was the first run. -/
theorem newline_in_opening {o : Occurrence} {front indent rest : List Char} {c : Char}
    (hindent : ∀ c ∈ indent, Text.isBlank c = true) (hword : StartsWord c)
    (h : o.text <+: front ++ '\n' :: (indent ++ c :: rest))
    (hlength : front.length < o.text.length) :
    ∃ lead b, front = ['i', 'm', 'p', 'o', 'r', 't'] ++ lead ∧ o.opening = lead ++ '\n' :: b := by
  obtain ⟨after, h⟩ := h
  have htext := congrArg List.length (o.text_append [])
  obtain ⟨b₁, b₂, h₁, h₂, hphrase⟩ := o.isFromPhrase
  rw [o.text_append] at h
  obtain ⟨lead, rfl, hopening⟩ := mark_behind (by decide) h
  rcases mark_cases hopening with ⟨b, hb, -⟩ | ⟨front, rfl, hnames⟩
  · exact ⟨lead, b, rfl, hb⟩
  exfalso
  obtain ⟨front, rfl, hsecond⟩ := mark_behind o.newline_not_mem hnames
  rw [hphrase, List.append_assoc, List.append_assoc] at hsecond
  -- behind the second run follows `from`, and behind the third a quote
  rcases mark_cases hsecond with ⟨b, rfl, hb⟩ | ⟨front, rfl, hfrom⟩
  · have hrun : ∀ c ∈ b, Text.isBlank c = true := fun c hc => h₁.2 c (by simp [hc])
    exact hword.notFrom (eq_of_append_stop_eq hindent hrun hword.notBlank (by decide) hb).2.1
  obtain ⟨front, rfl, hthird⟩ := mark_behind (by decide) hfrom
  rcases mark_cases hthird with ⟨b, rfl, hb⟩ | ⟨front, rfl, hquoted⟩
  · have hrun : ∀ c ∈ b, Text.isBlank c = true := fun c hc => h₂.2 c (by simp [hc])
    have hblank := isBlank_eq_false_of_isQuote o.isQuote_mark
    have hmark := (eq_of_append_stop_eq hindent hrun hword.notBlank hblank hb).2.1
    exact Bool.eq_false_iff.1 hword.notQuote (hmark ▸ o.isQuote_mark)
  have hline : '\n' ∉ o.mark :: (o.specifier ++ [o.close]) := by
    have hspecifier := newline_not_mem_of_isSpecifierChar o.isSpecifierChar
    simp [hspecifier, (not_newline_of_isQuote o.isQuote_mark).symm,
      (not_newline_of_isQuote o.isQuote_close).symm]
  obtain ⟨front, rfl, -⟩ := mark_behind (y := after) hline (by simpa using hquoted)
  simp [hphrase] at htext hlength
  omega

/-- The names hold no quote and start with no blank, so nothing can end the clause before they do,
and no blank before them can be counted among them. -/
structure HasPlainNames (o : Occurrence) : Prop where
  ne_nil : o.names ≠ []
  first : ∀ c ∈ o.names.head?, Text.isBlank c = false
  noQuote : ∀ c ∈ o.names, isQuote c = false

/-- Where several occurrences start, the first of them ends like every one with plain names. -/
theorem span_eq_of_precedes {o o' : Occurrence} (ho : o.HasPlainNames) {s : List Char}
    (h : o.text <+: s) (h' : o'.text <+: s) (hfirst : o'.Precedes o) (place : Nat) :
    o'.clause.span place = o.clause.span place := by
  obtain ⟨rest, rfl⟩ := h
  obtain ⟨rest', htext⟩ := h'
  rw [text_append, text_append] at htext
  have hbehind := List.append_cancel_left htext
  have hopening : o'.opening.length ≤ o.opening.length := by
    rcases List.append_eq_append_iff.1 hbehind with ⟨a, ha, -⟩ | ⟨a, ha, hnames⟩
    · simp [ha]
    · cases a with
      | nil => simp [ha]
      | cons c a =>
        obtain ⟨d, names, hd⟩ := List.exists_cons_of_ne_nil ho.ne_nil
        rw [hd] at hnames
        obtain ⟨rfl, -⟩ := List.cons.inj hnames
        have hblank := o'.isBlankRun.2 d (by simp [ha])
        rw [ho.first d (by simp [hd])] at hblank
        cases hblank
  obtain ⟨hlength, hshort⟩ : o'.opening.length = o.opening.length ∧
      o'.names.length ≤ o.names.length := by
    unfold Precedes at hfirst
    omega
  obtain ⟨-, hnames⟩ := List.append_inj hbehind hlength
  have hstart : o'.names <+: o.names :=
    List.prefix_of_prefix_length_le ⟨_, hnames⟩ (List.prefix_append _ _) hshort
  have hquote : ∀ c ∈ o.names ++ o.phrase, isQuote c = false := fun c hc =>
    (List.mem_append.1 hc).elim (ho.noQuote c) (o.isFromPhrase.isQuote_eq_false c)
  have hquote' : ∀ c ∈ o'.names ++ o'.phrase, isQuote c = false := fun c hc =>
    (List.mem_append.1 hc).elim (fun hc => ho.noQuote c (hstart.subset hc))
      (o'.isFromPhrase.isQuote_eq_false c)
  -- both go on to the same quote, and from there to the next one
  rw [← List.append_assoc, ← List.append_assoc] at hnames
  obtain ⟨hlead, -, hend⟩ :=
    eq_of_append_quote_eq hquote' hquote o'.isQuote_mark o.isQuote_mark hnames
  have inside (e : Ending) : ∀ c ∈ e.specifier, isQuote c = false := fun c hc =>
    isQuote_eq_false_of_isSpecifierChar (e.isSpecifierChar c hc)
  obtain ⟨hspecifier, -, -⟩ := eq_of_append_quote_eq (inside o'.toEnding) (inside o.toEnding)
    o'.isQuote_close o.isQuote_close hend
  have hcount := congrArg List.length hlead
  rw [List.length_append, List.length_append] at hcount
  have hleads : o'.clause.lead.length = o.clause.lead.length := by
    simp [clause, Ending.within]
    omega
  have hspecifiers : o'.clause.specifier = o.clause.specifier := hspecifier
  simp only [Clause.span, hleads, hspecifiers]

/-- The occurrence that starts with a keyword further up and takes this one for its names. -/
def behind (o : Occurrence) (ho : '\n' ∉ o.opening) {b : List Char} (hb : IsBlankRun b) :
    Occurrence :=
  { o with
    opening := b
    names := ['i', 'm', 'p', 'o', 'r', 't'] ++ (o.opening ++ o.names)
    isBlankRun := hb
    newline_not_mem := by simp [ho, o.newline_not_mem] }

variable {o : Occurrence} {b : List Char}

theorem text_behind (ho : '\n' ∉ o.opening) (hb : IsBlankRun b) :
    (o.behind ho hb).text = ['i', 'm', 'p', 'o', 'r', 't'] ++ (b ++ o.text) := by
  simp [text, clause, behind, Ending.within, Clause.text]

theorem span_behind (ho : '\n' ∉ o.opening) (hb : IsBlankRun b) (place : Nat) :
    (o.behind ho hb).clause.span place = o.clause.span (place + 6 + b.length) := by
  simp [clause, behind, Ending.within, Clause.span]
  omega

theorem HasPlainNames.behind (h : o.HasPlainNames) (ho : '\n' ∉ o.opening) (hb : IsBlankRun b) :
    (o.behind ho hb).HasPlainNames where
  ne_nil := List.cons_ne_nil _ _
  first := by
    intro c hc
    obtain rfl : 'i' = c := by simpa [Occurrence.behind] using hc
    decide
  noQuote := by
    intro c hc
    have hword : ∀ c ∈ ['i', 'm', 'p', 'o', 'r', 't'], isQuote c = false := by simp [isQuote]
    simp only [Occurrence.behind, List.mem_append] at hc
    rcases hc with hc | hc | hc
    · exact hword c hc
    · exact isQuote_eq_false_of_isBlank (o.isBlankRun.2 c hc)
    · exact h.noQuote c hc

/-- What stands above a line: nothing or whole lines. -/
def IsAbove (above : List Char) : Prop := above = [] ∨ ∃ lines, above = lines ++ ['\n']

/-- An occurrence that starts above a line and reaches the import that the line starts with has
nothing but blanks between its keyword and that of the line. -/
theorem blanks_to_line {o o' : Occurrence} {code above indent rest : List Char}
    (habove : IsAbove above) (hindent : ∀ c ∈ indent, Text.isBlank c = true)
    (hcode : code = above ++ (indent ++ (o.text ++ rest))) {start : Nat}
    (hat : o'.text <+: code.drop start) (hlt : start < above.length + indent.length)
    (hreach : above.length + indent.length < start + o'.text.length) :
    ∃ b, IsBlankRun b ∧ start + 6 + b.length = above.length + indent.length ∧
      code.drop start = ['i', 'm', 'p', 'o', 'r', 't'] ++ (b ++ (o.text ++ rest)) := by
  have hkeyword (o : Occurrence) : ∃ word, o.text = 'i' :: word :=
    ⟨_, by simpa using o.text_append []⟩
  subst hcode
  by_cases hin : start < above.length
  · obtain ⟨lines, rfl⟩ := habove.resolve_left (List.ne_nil_of_length_pos (by omega))
    rw [List.length_append, List.length_singleton] at hin hlt hreach ⊢
    obtain ⟨word, hword⟩ := hkeyword o
    have hdrop : (lines ++ ['\n'] ++ (indent ++ (o.text ++ rest))).drop start =
        lines.drop start ++ '\n' :: (indent ++ (o.text ++ rest)) := by
      rw [List.append_assoc, List.drop_append_of_le_length (by omega), List.singleton_append]
    rw [hdrop] at hat ⊢
    rw [hword] at hat
    have hlength : (lines.drop start).length < o'.text.length := by
      rw [List.length_drop]
      omega
    obtain ⟨lead, b, hlead, hopening⟩ :=
      newline_in_opening hindent ⟨by decide, by decide, by decide⟩ hat hlength
    refine ⟨lead ++ '\n' :: indent, ⟨by simp, fun c hc => ?_⟩, ?_, by simp [hlead]⟩
    · rcases List.mem_append.1 hc with hc | hc
      · exact o'.isBlankRun.2 c (by simp [hopening, hc])
      · rcases List.mem_cons.1 hc with rfl | hc
        · decide
        · exact hindent c hc
    · have hcount := congrArg List.length hlead
      simp only [List.length_drop, List.length_append, List.length_cons, List.length_nil]
        at hcount ⊢
      omega
  · -- in the indent there are blanks only
    obtain ⟨word, hword⟩ := hkeyword o'
    have hleft : 0 < (indent.drop (start - above.length)).length := by
      rw [List.length_drop]
      omega
    obtain ⟨c, more, hmore⟩ := List.exists_cons_of_length_pos hleft
    rw [List.drop_append, List.drop_append_of_le_length (by omega), hmore, hword,
      List.drop_eq_nil_of_le (by omega)] at hat
    obtain ⟨rfl, -⟩ := List.cons_prefix_cons.1 hat
    have hblank := hindent 'i' (List.mem_of_mem_drop (hmore ▸ List.mem_cons_self))
    exact absurd hblank (by decide)

/-- Wherever the search arrives, the import that a line starts with ends a clause that it takes, and
its specifier is reported at its own place. -/
theorem span_mem_findRelative {o : Occurrence} {code : String} {above indent rest : List Char}
    (habove : IsAbove above) (hindent : ∀ c ∈ indent, Text.isBlank c = true)
    (hopening : '\n' ∉ o.opening) (hplain : o.HasPlainNames)
    (hrelative : isRelative o.specifier = true)
    (hcode : code.toList = above ++ (indent ++ (o.text ++ rest))) :
    o.clause.span (above.length + indent.length) ∈ findRelative code := by
  obtain ⟨ms, hms, -, hspans⟩ := exists_search code
  have hplace : code.toList.drop (above.length + indent.length) = o.text ++ rest := by
    rw [hcode, ← List.append_assoc, List.drop_left' (List.length_append ..)]
  have hat : o.text <+: code.toList.drop (above.length + indent.length) := ⟨rest, hplace.symm⟩
  obtain ⟨m, hm, hle, hreach⟩ := hms.exists_covering (Nat.zero_le _) hat
  have hstands := hms.stands_of_mem hm
  have hfirst := hms.first_of_mem hm
  have hspan : m.2.clause.span m.1 = o.clause.span (above.length + indent.length) := by
    rcases Nat.lt_or_eq_of_le hle with hlt | heq
    · obtain ⟨b, hb, hlength, hdrop⟩ := blanks_to_line habove hindent hcode hstands hlt hreach
      have hbehind : (o.behind hopening hb).text <+: code.toList.drop m.1 :=
        ⟨rest, by rw [hdrop, text_behind]; simp⟩
      rw [span_eq_of_precedes (hplain.behind hopening hb) hbehind hstands (hfirst _ hbehind),
        span_behind, hlength]
    · rw [← heq] at hat ⊢
      exact span_eq_of_precedes hplain hat hstands (hfirst o hat) _
  have hspecifier : m.2.specifier = o.specifier :=
    String.ofList_injective (congrArg (fun span => span.2.2) hspan)
  rw [hspans, ← hspan]
  exact List.mem_map.2 ⟨m, List.mem_filter.2 ⟨hm, by rwa [hspecifier]⟩, rfl⟩

end Occurrence

/-- One or more spaces and tabs. -/
def IsGap (w : List Char) : Prop := w ≠ [] ∧ ∀ c ∈ w, c = ' ' ∨ c = '\t'

theorem IsGap.isBlankRun {w : List Char} (h : IsGap w) : IsBlankRun w := by
  refine ⟨h.1, fun c hc => ?_⟩
  rcases h.2 c hc with rfl | rfl <;> decide

/-- An ordinary import on one line, from its keyword through the closing quote. -/
structure Line where
  opening : List Char
  names : List Char
  beforeFrom : List Char
  afterFrom : List Char
  mark : Char
  specifier : List Char
  close : Char
  isGap_opening : IsGap opening
  isGap_beforeFrom : IsGap beforeFrom
  isGap_afterFrom : IsGap afterFrom
  names_ne_nil : names ≠ []
  names_first : ∀ c ∈ names.head?, Text.isBlank c = false
  names_inside : ∀ c ∈ names, isSpecifierChar c = true
  isQuote_mark : isQuote mark = true
  specifier_inside : ∀ c ∈ specifier, isSpecifierChar c = true
  isRelative_specifier : isRelative specifier = true
  isQuote_close : isQuote close = true

namespace Line

/-- The line up to its specifier. -/
def lead (l : Line) : List Char :=
  ['i', 'm', 'p', 'o', 'r', 't'] ++ (l.opening ++ (l.names ++ (l.beforeFrom ++
    (['f', 'r', 'o', 'm'] ++ (l.afterFrom ++ [l.mark])))))

def text (l : Line) : List Char := l.lead ++ (l.specifier ++ [l.close])

def occurrence (l : Line) : Occurrence where
  phrase := l.beforeFrom ++ (['f', 'r', 'o', 'm'] ++ l.afterFrom)
  mark := l.mark
  specifier := l.specifier
  close := l.close
  opening := l.opening
  names := l.names
  isFromPhrase :=
    ⟨_, _, l.isGap_beforeFrom.isBlankRun, l.isGap_afterFrom.isBlankRun, rfl⟩
  isQuote_mark := l.isQuote_mark
  isSpecifierChar := l.specifier_inside
  isQuote_close := l.isQuote_close
  isBlankRun := l.isGap_opening.isBlankRun
  newline_not_mem := newline_not_mem_of_isSpecifierChar l.names_inside

theorem occurrence_text (l : Line) : l.occurrence.text = l.text := by
  simp [occurrence, text, lead, Occurrence.text, Occurrence.clause, Ending.within, Clause.text]

theorem occurrence_span (l : Line) (place : Nat) :
    l.occurrence.clause.span place = (place + l.lead.length,
      place + l.lead.length + l.specifier.length, String.ofList l.specifier) := by
  simp [occurrence, lead, Occurrence.clause, Ending.within, Clause.span]

theorem hasPlainNames (l : Line) : l.occurrence.HasPlainNames where
  ne_nil := l.names_ne_nil
  first := l.names_first
  noQuote := fun c hc => isQuote_eq_false_of_isSpecifierChar (l.names_inside c hc)

end Line

/-- A line that starts with an ordinary import of a relative specifier has it reported where it
stands, whatever the lines above and the text behind it hold. -/
theorem findRelative_line (code : String) (l : Line) (above indent rest : List Char)
    (habove : above = [] ∨ ∃ lines, above = lines ++ ['\n'])
    (hindent : ∀ c ∈ indent, c = ' ' ∨ c = '\t')
    (hcode : code.toList = above ++ (indent ++ (l.text ++ rest))) :
    (above.length + indent.length + l.lead.length,
      above.length + indent.length + l.lead.length + l.specifier.length,
      String.ofList l.specifier) ∈ findRelative code := by
  have hblank : ∀ c ∈ indent, Text.isBlank c = true := fun c hc => by
    rcases hindent c hc with rfl | rfl <;> decide
  have hopening : '\n' ∉ l.occurrence.opening := fun hc => by
    rcases l.isGap_opening.2 _ hc with h | h <;> exact absurd h (by decide)
  have hmem := Occurrence.span_mem_findRelative (o := l.occurrence) habove hblank hopening
    l.hasPlainNames l.isRelative_specifier (by rw [l.occurrence_text]; exact hcode)
  rwa [l.occurrence_span] at hmem

/-- The lines above leave two imports unfinished, and the search takes the second of them with the
indented import for its names. -/
theorem findRelative_line_unfinished :
    (21 + 1 + 19, 21 + 1 + 19 + 3, "./y") ∈
      findRelative "import x from\nimport\n\timport { a } from './y'; import './z'" := by
  let l : Line :=
    { opening := [' ']
      names := ['{', ' ', 'a', ' ', '}']
      beforeFrom := [' ']
      afterFrom := [' ']
      mark := '\''
      specifier := ['.', '/', 'y']
      close := '\''
      isGap_opening := by simp [IsGap]
      isGap_beforeFrom := by simp [IsGap]
      isGap_afterFrom := by simp [IsGap]
      names_ne_nil := by decide
      names_first := by simp [Text.isBlank]
      names_inside := by simp [isSpecifierChar, isQuote]
      isQuote_mark := by decide
      specifier_inside := by simp [isSpecifierChar, isQuote]
      isRelative_specifier := by decide
      isQuote_close := by decide }
  have hline := findRelative_line "import x from\nimport\n\timport { a } from './y'; import './z'" l
    "import x from\nimport\n".toList ['\t'] "; import './z'".toList
    (.inr ⟨"import x from\nimport".toList, by decide⟩) (by simp) (by decide)
  exact hline

end Playground.Import
