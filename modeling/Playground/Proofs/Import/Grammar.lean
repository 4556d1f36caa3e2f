import Mathlib.Data.List.TakeWhile
import Playground.Import.Clause

namespace Playground.Import

def IsBlankRun (b : List Char) : Prop := b ≠ [] ∧ ∀ c ∈ b, Text.isBlank c = true

/-- What stands between the imported names and the opening quote. -/
def IsFromPhrase (w : List Char) : Prop :=
  ∃ b₁ b₂, IsBlankRun b₁ ∧ IsBlankRun b₂ ∧ w = b₁ ++ (['f', 'r', 'o', 'm'] ++ b₂)

def StartsQuoted (s : List Char) : Prop :=
  ∃ mark x close rest, isQuote mark = true ∧ (∀ c ∈ x, isSpecifierChar c = true) ∧
    isQuote close = true ∧ s = mark :: (x ++ close :: rest)

def StartsEnding (s : List Char) : Prop :=
  ∃ w r, IsFromPhrase w ∧ StartsQuoted r ∧ s = w ++ r

def StartsNames (s : List Char) : Prop := ∃ m r, '\n' ∉ m ∧ StartsEnding r ∧ s = m ++ r

def StartsOpening (s : List Char) : Prop := ∃ b r, IsBlankRun b ∧ StartsNames r ∧ s = b ++ r

/-- Some import clause stands at the start of the text; nothing is said of where it ends. -/
def StartsClause (s : List Char) : Prop :=
  ∃ r, StartsOpening r ∧ s = ['i', 'm', 'p', 'o', 'r', 't'] ++ r

theorem isBlank_eq_false_of_isQuote {c : Char} (h : isQuote c = true) : Text.isBlank c = false := by
  simp only [isQuote, Bool.or_eq_true, beq_iff_eq] at h
  rcases h with rfl | rfl <;> decide

theorem isQuote_eq_false_of_isBlank {c : Char} (h : Text.isBlank c = true) : isQuote c = false :=
  Bool.eq_false_iff.2 fun hq => by
    rw [isBlank_eq_false_of_isQuote hq] at h
    cases h

theorem isSpecifierChar_eq_false_of_isQuote {c : Char} (h : isQuote c = true) :
    isSpecifierChar c = false := by
  simp [isSpecifierChar, h]

theorem isQuote_eq_false_of_isSpecifierChar {c : Char} (h : isSpecifierChar c = true) :
    isQuote c = false := by
  simp only [isSpecifierChar, Bool.and_eq_true, Bool.not_eq_true'] at h
  exact h.1

theorem IsBlankRun.cons {c : Char} (hc : Text.isBlank c = true) {b : List Char}
    (hb : b = [] ∨ IsBlankRun b) : IsBlankRun (c :: b) := by
  refine ⟨by simp, fun d hd => ?_⟩
  rcases List.mem_cons.1 hd with rfl | hd
  · exact hc
  · rcases hb with rfl | hb
    · cases hd
    · exact hb.2 d hd

theorem IsFromPhrase.ne_nil {w : List Char} (hw : IsFromPhrase w) : w ≠ [] := by
  obtain ⟨b₁, b₂, h₁, -, rfl⟩ := hw
  exact List.append_ne_nil_of_left_ne_nil h₁.1 _

theorem IsFromPhrase.blank_or_mem {w : List Char} (hw : IsFromPhrase w) {c : Char} (hc : c ∈ w) :
    Text.isBlank c = true ∨ c ∈ ['f', 'r', 'o', 'm'] := by
  obtain ⟨b₁, b₂, h₁, h₂, rfl⟩ := hw
  simp only [List.mem_append] at hc
  rcases hc with hc | hc | hc
  · exact .inl (h₁.2 c hc)
  · exact .inr hc
  · exact .inl (h₂.2 c hc)

theorem IsFromPhrase.isQuote_eq_false {w : List Char} (hw : IsFromPhrase w) :
    ∀ c ∈ w, isQuote c = false := by
  have hword : ∀ c ∈ ['f', 'r', 'o', 'm'], isQuote c = false := by simp [isQuote]
  intro c hc
  rcases hw.blank_or_mem hc with hb | hf
  · exact isQuote_eq_false_of_isBlank hb
  · exact hword c hf

theorem takeWhile_append_stop {p : Char → Bool} {x : List Char} {c : Char}
    (hx : ∀ d ∈ x, p d = true) (hc : p c = false) (rest : List Char) :
    (x ++ c :: rest).takeWhile p = x ∧ (x ++ c :: rest).dropWhile p = c :: rest := by
  rw [List.takeWhile_append_of_pos hx, List.dropWhile_append_of_pos hx]
  simp [hc]

/-- A text is cut at its first character of a kind in one way only. -/
theorem eq_of_append_stop_eq {p : Char → Bool} {x y r u : List Char} {c d : Char}
    (hx : ∀ e ∈ x, p e = true) (hy : ∀ e ∈ y, p e = true) (hc : p c = false) (hd : p d = false)
    (h : x ++ c :: r = y ++ d :: u) : x = y ∧ c = d ∧ r = u := by
  obtain ⟨htake, hdrop⟩ := takeWhile_append_stop hx hc r
  rw [h, (takeWhile_append_stop hy hd u).1] at htake
  rw [h, (takeWhile_append_stop hy hd u).2] at hdrop
  obtain ⟨hcd, hru⟩ := List.cons.inj hdrop
  exact ⟨htake.symm, hcd.symm, hru.symm⟩

theorem quoted?_append {mark close : Char} {x : List Char} (hm : isQuote mark = true)
    (hx : ∀ c ∈ x, isSpecifierChar c = true) (hc : isQuote close = true) (rest : List Char) :
    quoted? (mark :: (x ++ close :: rest)) = some (⟨[mark], x, close⟩, rest) := by
  obtain ⟨ht, hd⟩ := takeWhile_append_stop hx (isSpecifierChar_eq_false_of_isQuote hc) rest
  simp only [quoted?, hm, ht, hd, hc, if_true]

theorem quoted?_eq_some {s : List Char} {c : Clause} {rest : List Char}
    (h : quoted? s = some (c, rest)) :
    (∃ mark, isQuote mark = true ∧ c.lead = [mark]) ∧
      (∀ d ∈ c.specifier, isSpecifierChar d = true) ∧ isQuote c.close = true := by
  cases s with
  | nil => simp [quoted?] at h
  | cons mark r =>
    simp only [quoted?] at h
    split at h
    next hm =>
      split at h
      · split at h
        next hc =>
          cases h
          exact ⟨⟨mark, hm, rfl⟩, fun d hd => List.mem_takeWhile_imp hd, hc⟩
        · cases h
      · cases h
    · cases h

theorem quoted?_isSome_iff (s : List Char) : (quoted? s).isSome = true ↔ StartsQuoted s := by
  constructor
  · intro h
    obtain ⟨⟨c, rest⟩, hf⟩ := Option.isSome_iff_exists.1 h
    obtain ⟨⟨mark, hm, hlead⟩, hx, hc⟩ := quoted?_eq_some hf
    refine ⟨mark, c.specifier, c.close, rest, hm, hx, hc, ?_⟩
    rw [quoted?_text hf, Clause.text, hlead]
    simp
  · rintro ⟨mark, x, close, rest, hm, hx, hc, rfl⟩
    rw [quoted?_append hm hx hc]
    rfl

/-- The reader takes no text that starts with a blank, so all blanks before it can be skipped. -/
def StopsBlanks (next : List Char → Option (Clause × List Char)) : Prop :=
  ∀ c r, Text.isBlank c = true → next (c :: r) = none

theorem stopsBlanks_quoted? : StopsBlanks quoted? := by
  intro c r hc
  simp [quoted?, isQuote_eq_false_of_isBlank hc]

theorem word?_append (word : List Char) (next : List Char → Option (Clause × List Char))
    (r : List Char) : word? word next (word ++ r) = (next r).map (Clause.after word) := by
  have hp : word.isPrefixOf (word ++ r) = true := List.isPrefixOf_iff_prefix.2 ⟨r, rfl⟩
  simp [word?, hp]

theorem word?_isSome_iff (word : List Char) (next : List Char → Option (Clause × List Char))
    (s : List Char) :
    (word? word next s).isSome = true ↔ ∃ r, (next r).isSome = true ∧ s = word ++ r := by
  constructor
  · intro h
    by_cases hp : word.isPrefixOf s = true
    · obtain ⟨r, rfl⟩ := List.isPrefixOf_iff_prefix.1 hp
      rw [word?_append, Option.isSome_map] at h
      exact ⟨r, h, rfl⟩
    · simp [word?, hp] at h
  · rintro ⟨r, hr, rfl⟩
    rw [word?_append, Option.isSome_map]
    exact hr

theorem stopsBlanks_from? : StopsBlanks from? := by
  intro c r hc
  have hf : c ≠ 'f' := by
    rintro rfl
    exact absurd hc (by decide)
  simp [from?, word?, Ne.symm hf]

theorem blanks?_append {next : List Char → Option (Clause × List Char)} (hnext : StopsBlanks next)
    {b r : List Char} (hb : IsBlankRun b) (hr : (next r).isSome = true) :
    blanks? next (b ++ r) = (next r).map (Clause.after b) := by
  obtain ⟨hne, hall⟩ := hb
  have hsplit : (b ++ r).takeWhile Text.isBlank = b ∧ (b ++ r).dropWhile Text.isBlank = r := by
    cases r with
    | nil =>
      rw [List.append_nil]
      exact ⟨List.takeWhile_eq_self_iff.2 hall, List.dropWhile_eq_nil_iff.2 hall⟩
    | cons c r =>
      refine takeWhile_append_stop hall (Bool.eq_false_iff.2 fun hc => ?_) r
      rw [hnext c r hc] at hr
      cases hr
  simp only [blanks?, hsplit, hne, if_false]

theorem blanks?_isSome_iff {next : List Char → Option (Clause × List Char)}
    (hnext : StopsBlanks next) (s : List Char) :
    (blanks? next s).isSome = true ↔
      ∃ b r, IsBlankRun b ∧ (next r).isSome = true ∧ s = b ++ r := by
  constructor
  · intro h
    unfold blanks? at h
    split at h
    next => cases h
    next hne =>
      rw [Option.isSome_map] at h
      exact ⟨_, _, ⟨hne, fun c hc => List.mem_takeWhile_imp hc⟩, h,
        List.takeWhile_append_dropWhile.symm⟩
  · rintro ⟨b, r, hb, hr, rfl⟩
    rw [blanks?_append hnext hb hr, Option.isSome_map]
    exact hr

theorem ending_isSome_iff (s : List Char) :
    (blanks? from? s).isSome = true ↔ StartsEnding s := by
  rw [blanks?_isSome_iff stopsBlanks_from?]
  simp only [from?, word?_isSome_iff, blanks?_isSome_iff stopsBlanks_quoted?, quoted?_isSome_iff]
  constructor
  · rintro ⟨b₁, _, h₁, ⟨_, ⟨b₂, r, h₂, hr, rfl⟩, rfl⟩, rfl⟩
    exact ⟨_, r, ⟨b₁, b₂, h₁, h₂, rfl⟩, hr, by simp⟩
  · rintro ⟨_, r, ⟨b₁, b₂, h₁, h₂, rfl⟩, hr, rfl⟩
    exact ⟨b₁, _, h₁, ⟨_, ⟨b₂, r, h₂, hr, rfl⟩, rfl⟩, by simp⟩

theorem StartsEnding.ne_nil {s : List Char} (h : StartsEnding s) : s ≠ [] := by
  obtain ⟨w, r, hw, -, rfl⟩ := h
  exact List.append_ne_nil_of_left_ne_nil hw.ne_nil r

theorem names?_isSome_iff (s : List Char) : (names? s).isSome = true ↔ StartsNames s := by
  induction s with
  | nil =>
    refine ⟨fun h => by simp [names?.eq_1] at h, ?_⟩
    rintro ⟨m, r, -, hr, hs⟩
    exact absurd (List.append_eq_nil_iff.1 hs.symm).2 hr.ne_nil
  | cons c r ih =>
    rw [names?.eq_2, Option.isSome_or, Bool.or_eq_true, ending_isSome_iff]
    constructor
    · rintro (hend | hlater)
      · exact ⟨[], c :: r, by simp, hend, rfl⟩
      · split at hlater
        · cases hlater
        next hc =>
          rw [Option.isSome_map] at hlater
          obtain ⟨m, u, hm, hu, rfl⟩ := ih.1 hlater
          exact ⟨c :: m, u, by simp [Ne.symm hc, hm], hu, rfl⟩
    · rintro ⟨m, u, hm, hu, hs⟩
      cases m with
      | nil => exact .inl (hs ▸ hu)
      | cons d m =>
        obtain ⟨rfl, rfl⟩ := List.cons.inj hs
        simp only [List.mem_cons, not_or] at hm
        rw [if_neg (Ne.symm hm.1), Option.isSome_map]
        exact .inr (ih.2 ⟨m, u, hm.2, hu, rfl⟩)

theorem opening?_isSome_iff (s : List Char) : (opening? s).isSome = true ↔ StartsOpening s := by
  induction s with
  | nil =>
    refine ⟨fun h => by simp [opening?] at h, ?_⟩
    rintro ⟨b, r, hb, -, hs⟩
    exact absurd (List.append_eq_nil_iff.1 hs.symm).1 hb.1
  | cons c r ih =>
    rw [opening?]
    constructor
    · intro h
      split at h
      next hc =>
        rw [Option.isSome_map, Option.isSome_or, Bool.or_eq_true, ih, names?_isSome_iff] at h
        rcases h with ⟨b, u, hb, hu, rfl⟩ | hnames
        · exact ⟨c :: b, u, .cons hc (.inr hb), hu, rfl⟩
        · exact ⟨[c], r, .cons hc (.inl rfl), hnames, rfl⟩
      · cases h
    · rintro ⟨b, u, ⟨hne, hall⟩, hu, hs⟩
      cases b with
      | nil => exact absurd rfl hne
      | cons d b =>
        obtain ⟨rfl, rfl⟩ := List.cons.inj hs
        rw [if_pos (hall c (by simp)), Option.isSome_map, Option.isSome_or, Bool.or_eq_true, ih,
          names?_isSome_iff]
        cases b with
        | nil => exact .inr hu
        | cons e b =>
          exact .inl ⟨e :: b, u, ⟨by simp, fun d hd => hall d (List.mem_cons_of_mem _ hd)⟩, hu, rfl⟩

theorem clause?_isSome_iff (s : List Char) : (clause? s).isSome = true ↔ StartsClause s := by
  simp only [clause?, word?_isSome_iff, opening?_isSome_iff, StartsClause]

/-- The specifier of a clause stands between two quotes and holds no quote itself. -/
structure Clause.IsQuoted (c : Clause) : Prop where
  opens : ∃ lead mark, isQuote mark = true ∧ c.lead = lead ++ [mark]
  inside : ∀ d ∈ c.specifier, isSpecifierChar d = true
  closes : isQuote c.close = true

theorem Clause.IsQuoted.after {found : Clause × List Char} (h : found.1.IsQuoted)
    (lead : List Char) : (Clause.after lead found).1.IsQuoted := by
  obtain ⟨⟨lead', mark, hm, hlead⟩, hx, hc⟩ := h
  exact ⟨⟨lead ++ lead', mark, hm, by simp [Clause.after, hlead]⟩, hx, hc⟩

/-- Every clause that a reader finds is quoted. -/
def FindsQuoted (next : List Char → Option (Clause × List Char)) : Prop :=
  ∀ s, ∀ found ∈ next s, found.1.IsQuoted

theorem isQuoted_of_mem_map {o : Option (Clause × List Char)}
    (h : ∀ found ∈ o, found.1.IsQuoted) (lead : List Char) :
    ∀ found ∈ o.map (Clause.after lead), found.1.IsQuoted := by
  intro found hf
  obtain ⟨inner, hi, rfl⟩ := Option.map_eq_some_iff.1 hf
  exact (h inner hi).after lead

theorem findsQuoted_quoted? : FindsQuoted quoted? := by
  intro s found hf
  obtain ⟨⟨mark, hm, hlead⟩, hx, hc⟩ := quoted?_eq_some hf
  exact ⟨⟨[], mark, hm, hlead⟩, hx, hc⟩

theorem FindsQuoted.blanks? {next : List Char → Option (Clause × List Char)}
    (h : FindsQuoted next) : FindsQuoted (blanks? next) := by
  intro s
  unfold Import.blanks?
  split
  · simp
  · exact isQuoted_of_mem_map (h _) _

theorem FindsQuoted.word? {next : List Char → Option (Clause × List Char)}
    (h : FindsQuoted next) (word : List Char) : FindsQuoted (word? word next) := by
  intro s
  unfold Import.word?
  split
  · exact isQuoted_of_mem_map (h _) _
  · simp

theorem findsQuoted_names? : FindsQuoted names? := by
  intro s
  induction s with
  | nil => simp [names?.eq_1]
  | cons c r ih =>
    rw [names?.eq_2]
    intro found hf
    rcases Option.or_eq_some_iff.1 hf with hend | ⟨-, hlater⟩
    · exact (findsQuoted_quoted?.blanks?.word? _).blanks? _ found hend
    · split at hlater
      · cases hlater
      · exact isQuoted_of_mem_map ih _ found hlater

theorem findsQuoted_opening? : FindsQuoted opening? := by
  intro s
  induction s with
  | nil => simp [opening?]
  | cons c r ih =>
    rw [opening?]
    split
    · refine isQuoted_of_mem_map ?_ _
      intro found hf
      rcases Option.or_eq_some_iff.1 hf with hlonger | ⟨-, hnames⟩
      · exact ih found hlonger
      · exact findsQuoted_names? r found hnames
    · simp

theorem findsQuoted_clause? : FindsQuoted clause? := findsQuoted_opening?.word? _

end Playground.Import
