import Playground.Proofs.Import.Respelled

namespace Playground.Import

/-- The end of an import clause, from the blanks before `from` through the closing quote. -/
structure Ending where
  phrase : List Char
  mark : Char
  specifier : List Char
  close : Char
  isFromPhrase : IsFromPhrase phrase
  isQuote_mark : isQuote mark = true
  isSpecifierChar : ∀ c ∈ specifier, isSpecifierChar c = true
  isQuote_close : isQuote close = true

/-- The clause that has this end and starts with the given text. -/
def Ending.within (lead : List Char) (e : Ending) : Clause :=
  ⟨lead ++ (e.phrase ++ [e.mark]), e.specifier, e.close⟩

/-- An import clause cut into the parts that its grammar names: the first run of blanks, the names
on one line, and the end. -/
@[ext]
structure Occurrence extends Ending where
  opening : List Char
  names : List Char
  isBlankRun : IsBlankRun opening
  newline_not_mem : '\n' ∉ names

namespace Occurrence

def clause (o : Occurrence) : Clause :=
  o.toEnding.within (['i', 'm', 'p', 'o', 'r', 't'] ++ (o.opening ++ o.names))

def text (o : Occurrence) : List Char := o.clause.text

theorem text_append (o : Occurrence) (rest : List Char) :
    o.text ++ rest = ['i', 'm', 'p', 'o', 'r', 't'] ++ (o.opening ++ (o.names ++
      (o.phrase ++ o.mark :: (o.specifier ++ o.close :: rest)))) := by
  simp [text, clause, Ending.within, Clause.text]

theorem text_ne_nil (o : Occurrence) : o.text ≠ [] := by
  intro h
  have htext := o.text_append []
  rw [h] at htext
  cases htext

/-- Of two occurrences at one place the one with the longer first run of blanks is taken, and of two
with the same run the one with fewer names. -/
def Precedes (o o' : Occurrence) : Prop :=
  o'.opening.length < o.opening.length ∨
    o.opening.length = o'.opening.length ∧ o.names.length ≤ o'.names.length

/-- The lengths of the first run of blanks and of the names leave no choice for the other parts. -/
theorem eq_of_length_eq {o o' : Occurrence} {s : List Char} (h : o.text <+: s) (h' : o'.text <+: s)
    (hopening : o.opening.length = o'.opening.length)
    (hnames : o.names.length = o'.names.length) : o = o' := by
  obtain ⟨rest, rfl⟩ := h
  obtain ⟨rest', htext⟩ := h'
  rw [text_append, text_append] at htext
  obtain ⟨eopening, htext⟩ := List.append_inj (List.append_cancel_left htext) hopening.symm
  obtain ⟨enames, htext⟩ := List.append_inj htext hnames.symm
  obtain ⟨ephrase, emark, htext⟩ := eq_of_append_quote_eq o'.isFromPhrase.isQuote_eq_false
    o.isFromPhrase.isQuote_eq_false o'.isQuote_mark o.isQuote_mark htext
  have inside (e : Ending) : ∀ c ∈ e.specifier, isQuote c = false := fun c hc =>
    isQuote_eq_false_of_isSpecifierChar (e.isSpecifierChar c hc)
  obtain ⟨especifier, eclose, -⟩ := eq_of_append_quote_eq (inside o'.toEnding) (inside o.toEnding)
    o'.isQuote_close o.isQuote_close htext
  exact Occurrence.ext ephrase.symm emark.symm especifier.symm eclose.symm eopening.symm enames.symm

/-- No two occurrences at one place precede each other, so a first one is the only first one. -/
theorem eq_of_precedes {o o' : Occurrence} {s : List Char} (h : o.text <+: s) (h' : o'.text <+: s)
    (hp : o.Precedes o') (hp' : o'.Precedes o) : o = o' := by
  unfold Precedes at hp hp'
  exact eq_of_length_eq h h' (by omega) (by omega)

theorem startsEnding (o : Occurrence) (rest : List Char) :
    StartsEnding (o.phrase ++ o.mark :: (o.specifier ++ o.close :: rest)) :=
  ⟨o.phrase, _, o.isFromPhrase,
    ⟨o.mark, o.specifier, o.close, rest, o.isQuote_mark, o.isSpecifierChar, o.isQuote_close, rfl⟩,
    rfl⟩

end Occurrence

theorem startsClause_iff (s : List Char) : StartsClause s ↔ ∃ o : Occurrence, o.text <+: s := by
  constructor
  · rintro ⟨_, ⟨b, _, hb, ⟨m, _, hm, ⟨w, _, hw, ⟨mark, x, close, rest, hmark, hx, hclose, rfl⟩, rfl⟩,
      rfl⟩, rfl⟩, rfl⟩
    exact ⟨⟨⟨w, mark, x, close, hw, hmark, hx, hclose⟩, b, m, hb, hm⟩, rest,
      Occurrence.text_append _ rest⟩
  · rintro ⟨o, rest, rfl⟩
    exact ⟨_, ⟨o.opening, _, o.isBlankRun, ⟨o.names, _, o.newline_not_mem, o.startsEnding rest, rfl⟩,
      rfl⟩, o.text_append rest⟩

theorem within_after {found : Clause × List Char} {e : Ending} {l : List Char}
    (h : found.1 = e.within l) (lead : List Char) :
    (Clause.after lead found).1 = e.within (lead ++ l) := by
  simp [Clause.after, h, Ending.within]

theorem blanks?_eq_some {next : List Char → Option (Clause × List Char)} {s : List Char}
    {found : Clause × List Char} (h : blanks? next s = some found) :
    ∃ b r inner, IsBlankRun b ∧ next r = some inner ∧ found = Clause.after b inner := by
  unfold blanks? at h
  split at h
  · cases h
  next hne =>
    obtain ⟨inner, hi, rfl⟩ := Option.map_eq_some_iff.1 h
    exact ⟨_, _, inner, ⟨hne, fun c hc => List.mem_takeWhile_imp hc⟩, hi, rfl⟩

theorem word?_eq_some {word : List Char} {next : List Char → Option (Clause × List Char)}
    {s : List Char} {found : Clause × List Char} (h : word? word next s = some found) :
    ∃ r inner, s = word ++ r ∧ next r = some inner ∧ found = Clause.after word inner := by
  obtain ⟨r, -, rfl⟩ := (word?_isSome_iff word next s).1 (by rw [h]; rfl)
  rw [word?_append] at h
  obtain ⟨inner, hi, rfl⟩ := Option.map_eq_some_iff.1 h
  exact ⟨r, inner, rfl, hi, rfl⟩

theorem ending_within {s : List Char} {found : Clause × List Char}
    (h : blanks? from? s = some found) : ∃ e : Ending, found.1 = e.within [] := by
  obtain ⟨b₁, _, _, h₁, hfrom, rfl⟩ := blanks?_eq_some h
  obtain ⟨_, _, rfl, hblanks, rfl⟩ := word?_eq_some hfrom
  obtain ⟨b₂, _, inner, h₂, hquoted, rfl⟩ := blanks?_eq_some hblanks
  obtain ⟨⟨mark, hm, hlead⟩, hx, hc⟩ := quoted?_eq_some hquoted
  refine ⟨⟨b₁ ++ (['f', 'r', 'o', 'm'] ++ b₂), mark, inner.1.specifier, inner.1.close,
    ⟨b₁, b₂, h₁, h₂, rfl⟩, hm, hx, hc⟩, ?_⟩
  simp [Clause.after, Ending.within, hlead]

/-- The names that are read are the shortest before which the rest of the line ends a clause. -/
theorem names?_within {s : List Char} {found : Clause × List Char} (h : names? s = some found) :
    ∃ (m : List Char) (e : Ending), '\n' ∉ m ∧ found.1 = e.within m ∧
      ∀ m' r, StartsEnding r → s = m' ++ r → m.length ≤ m'.length := by
  induction s generalizing found with
  | nil => simp [names?.eq_1] at h
  | cons c r ih =>
    rw [names?.eq_2] at h
    rcases Option.or_eq_some_iff.1 h with hend | ⟨hno, hlater⟩
    · obtain ⟨e, he⟩ := ending_within hend
      exact ⟨[], e, by simp, he, fun _ _ _ _ => Nat.zero_le _⟩
    · split at hlater
      · cases hlater
      next hc =>
        obtain ⟨inner, hi, rfl⟩ := Option.map_eq_some_iff.1 hlater
        obtain ⟨m, e, hm, he, hshort⟩ := ih hi
        refine ⟨c :: m, e, by simp [hm, Ne.symm hc], within_after he [c], ?_⟩
        intro m' u hu hs
        cases m' with
        | nil =>
          rw [← Option.not_isSome_iff_eq_none, ending_isSome_iff] at hno
          exact absurd (hs ▸ hu) hno
        | cons d m' =>
          have := hshort m' u hu (List.cons.inj hs).2
          simp only [List.length_cons]
          omega

/-- As many blanks as possible stand before the names, and then as few names as possible. -/
theorem opening?_within {s : List Char} {found : Clause × List Char} (h : opening? s = some found) :
    ∃ (b m : List Char) (e : Ending), IsBlankRun b ∧ '\n' ∉ m ∧ found.1 = e.within (b ++ m) ∧
      ∀ b' m' r, IsBlankRun b' → '\n' ∉ m' → StartsEnding r → s = b' ++ (m' ++ r) →
        b'.length < b.length ∨ b.length = b'.length ∧ m.length ≤ m'.length := by
  induction s generalizing found with
  | nil => simp [opening?] at h
  | cons c r ih =>
    rw [opening?] at h
    split at h
    next hc =>
      obtain ⟨inner, hi, rfl⟩ := Option.map_eq_some_iff.1 h
      -- every other run starts with this blank too, and goes on with a run or with names
      have hrun {b' : List Char} {x : List Char} (hb' : IsBlankRun b') (hs : c :: r = b' ++ x) :
          ∃ b'', b' = c :: b'' ∧ r = b'' ++ x ∧ (b'' = [] ∨ IsBlankRun b'') := by
        obtain ⟨hne, hall⟩ := hb'
        cases b' with
        | nil => exact absurd rfl hne
        | cons d b'' =>
          obtain ⟨rfl, hr⟩ := List.cons.inj hs
          refine ⟨b'', rfl, hr, ?_⟩
          by_cases hnil : b'' = []
          · exact .inl hnil
          · exact .inr ⟨hnil, fun e he => hall e (List.mem_cons_of_mem _ he)⟩
      rcases Option.or_eq_some_iff.1 hi with hlonger | ⟨hno, hnames⟩
      · obtain ⟨b, m, e, hb, hm, he, hfirst⟩ := ih hlonger
        refine ⟨c :: b, m, e, .cons hc (.inr hb), hm, within_after he [c], ?_⟩
        intro b' m' u hb' hm' hu hs
        obtain ⟨b'', rfl, hr, rfl | hb''⟩ := hrun hb' hs
        · have := List.length_pos_iff.2 hb.1
          simp only [List.length_cons, List.length_nil]
          omega
        · have := hfirst b'' m' u hb'' hm' hu hr
          simp only [List.length_cons]
          omega
      · obtain ⟨m, e, hm, he, hshort⟩ := names?_within hnames
        refine ⟨[c], m, e, .cons hc (.inl rfl), hm, within_after he [c], ?_⟩
        intro b' m' u hb' hm' hu hs
        obtain ⟨b'', rfl, hr, rfl | hb''⟩ := hrun hb' hs
        · exact .inr ⟨rfl, hshort m' u hu hr⟩
        · rw [← Option.not_isSome_iff_eq_none, opening?_isSome_iff] at hno
          exact absurd ⟨b'', _, hb'', ⟨m', u, hm', hu, rfl⟩, hr⟩ hno
    · cases h

/-- The clause that is found is the first of all occurrences at its place. -/
theorem clause?_first {s : List Char} {found : Clause × List Char} (h : clause? s = some found) :
    ∃ o : Occurrence, found.1 = o.clause ∧ ∀ o' : Occurrence, o'.text <+: s → o.Precedes o' := by
  obtain ⟨r, inner, rfl, hopening, rfl⟩ := word?_eq_some h
  obtain ⟨b, m, e, hb, hm, he, hfirst⟩ := opening?_within hopening
  refine ⟨⟨e, b, m, hb, hm⟩, within_after he _, ?_⟩
  rintro o' ⟨rest, htext⟩
  rw [o'.text_append] at htext
  exact hfirst o'.opening o'.names _ o'.isBlankRun o'.newline_not_mem (o'.startsEnding rest)
    (List.append_cancel_left htext).symm

/-- With one blank less before the names, the clause would end in `'x'`. -/
example : (clause? "import  from 'x' from './y'".toList).map (·.1.specifier) =
    some ['.', '/', 'y'] := by decide

theorem clause?_eq_none_iff (s : List Char) :
    clause? s = none ↔ ∀ o : Occurrence, ¬ o.text <+: s := by
  rw [← Option.not_isSome_iff_eq_none, clause?_isSome_iff, startsClause_iff, not_exists]

end Playground.Import
