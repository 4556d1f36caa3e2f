import Playground.Text.Blank

namespace Playground.Import

/-- An import clause of a source: the text through the opening quote, the specifier, and the
closing quote. The two quotes need not agree. -/
structure Clause where
  lead : List Char
  specifier : List Char
  close : Char
  deriving DecidableEq, Repr

def Clause.text (c : Clause) : List Char := c.lead ++ c.specifier ++ [c.close]

def Clause.after (lead : List Char) (found : Clause × List Char) : Clause × List Char :=
  ({ found.1 with lead := lead ++ found.1.lead }, found.2)

def isQuote (c : Char) : Bool := c == '\'' || c == '"'

/-- The specifier may hold anything but a quote and a line feed. -/
def isSpecifierChar (c : Char) : Bool := !isQuote c && c != '\n'

def quoted? : List Char → Option (Clause × List Char)
  | [] => none
  | mark :: r =>
    if isQuote mark then
      match r.dropWhile isSpecifierChar with
      | close :: rest =>
        if isQuote close then some (⟨[mark], r.takeWhile isSpecifierChar, close⟩, rest) else none
      | [] => none
    else none

/-- Skips a run of blanks, which may not be empty. -/
def blanks? (next : List Char → Option (Clause × List Char)) (s : List Char) :
    Option (Clause × List Char) :=
  if s.takeWhile Text.isBlank = [] then none
  else (next (s.dropWhile Text.isBlank)).map (Clause.after (s.takeWhile Text.isBlank))

/-- Skips a word. -/
def word? (word : List Char) (next : List Char → Option (Clause × List Char)) (s : List Char) :
    Option (Clause × List Char) :=
  if word.isPrefixOf s then (next (s.drop word.length)).map (Clause.after word) else none

def from? (s : List Char) : Option (Clause × List Char) :=
  word? ['f', 'r', 'o', 'm'] (blanks? quoted?) s

/-- The imported names lie on one line, and as little of it as possible belongs to them. -/
def names? : List Char → Option (Clause × List Char)
  | [] => none
  | c :: r =>
    (blanks? from? (c :: r)).or
      (if c = '\n' then none else (names? r).map (Clause.after [c]))

/-- The blanks after the keyword; as many of them as possible stand before the names. -/
def opening? : List Char → Option (Clause × List Char)
  | [] => none
  | c :: r =>
    if Text.isBlank c then ((opening? r).or (names? r)).map (Clause.after [c]) else none

/-- The import clause at the start of a text, and the text after it. -/
def clause? (s : List Char) : Option (Clause × List Char) :=
  word? ['i', 'm', 'p', 'o', 'r', 't'] opening? s

theorem text_after (lead : List Char) (found : Clause × List Char) :
    (Clause.after lead found).1.text ++ (Clause.after lead found).2 =
      lead ++ (found.1.text ++ found.2) := by
  simp [Clause.after, Clause.text]

theorem quoted?_text {s : List Char} {found : Clause × List Char} (h : quoted? s = some found) :
    s = found.1.text ++ found.2 := by
  cases s with
  | nil => simp [quoted?] at h
  | cons mark r =>
    simp only [quoted?] at h
    split at h
    · split at h
      · next close rest hr =>
        split at h
        · cases h
          have := List.takeWhile_append_dropWhile (p := isSpecifierChar) (l := r)
          simp [Clause.text, ← hr]
        · simp at h
      · simp at h
    · simp at h

theorem blanks?_text {next : List Char → Option (Clause × List Char)}
    (hnext : ∀ {t found}, next t = some found → t = found.1.text ++ found.2)
    {s : List Char} {found : Clause × List Char} (h : blanks? next s = some found) :
    s = found.1.text ++ found.2 := by
  unfold blanks? at h
  split at h
  · simp at h
  · obtain ⟨inner, hi, rfl⟩ := Option.map_eq_some_iff.1 h
    rw [text_after, ← hnext hi, List.takeWhile_append_dropWhile]

theorem word?_text {word : List Char} {next : List Char → Option (Clause × List Char)}
    (hnext : ∀ {t found}, next t = some found → t = found.1.text ++ found.2)
    {s : List Char} {found : Clause × List Char} (h : word? word next s = some found) :
    s = found.1.text ++ found.2 := by
  unfold word? at h
  split at h
  · next hw =>
    obtain ⟨inner, hi, rfl⟩ := Option.map_eq_some_iff.1 h
    rw [text_after, ← hnext hi]
    exact (List.prefix_iff_eq_append.1 (List.isPrefixOf_iff_prefix.1 hw)).symm
  · simp at h

theorem from?_text {s : List Char} {found : Clause × List Char} (h : from? s = some found) :
    s = found.1.text ++ found.2 :=
  word?_text (blanks?_text quoted?_text) h

theorem names?_text {s : List Char} {found : Clause × List Char} (h : names? s = some found) :
    s = found.1.text ++ found.2 := by
  induction s generalizing found with
  | nil => exact absurd h (by simp [names?.eq_1])
  | cons c r ih =>
    rcases Option.or_eq_some_iff.1 (names?.eq_2 c r ▸ h) with hb | ⟨_, hn⟩
    · exact blanks?_text from?_text hb
    · split at hn
      · simp at hn
      · obtain ⟨inner, hi, rfl⟩ := Option.map_eq_some_iff.1 hn
        rw [text_after, ← ih hi]
        rfl

theorem opening?_text {s : List Char} {found : Clause × List Char} (h : opening? s = some found) :
    s = found.1.text ++ found.2 := by
  induction s generalizing found with
  | nil => simp [opening?] at h
  | cons c r ih =>
    simp only [opening?] at h
    split at h
    · obtain ⟨inner, hi, rfl⟩ := Option.map_eq_some_iff.1 h
      rw [text_after]
      rcases Option.or_eq_some_iff.1 hi with ho | ⟨_, hn⟩
      · rw [← ih ho]; rfl
      · rw [← names?_text hn]; rfl
    · simp at h

theorem clause?_text {s : List Char} {found : Clause × List Char} (h : clause? s = some found) :
    s = found.1.text ++ found.2 :=
  word?_text opening?_text h

theorem length_lt_of_clause? {s : List Char} {found : Clause × List Char}
    (h : clause? s = some found) : found.2.length < s.length := by
  rw [clause?_text h]
  simp [Clause.text]
  omega

end Playground.Import
