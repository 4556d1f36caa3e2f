import Playground.Proofs.Console.Tags

namespace Playground.Console

def brackets (s : List Char) : List Char := s.filter fun c => c = '[' || c = ']'

/-- A bracket opens a tag if the first bracket behind it is the closing one. -/
theorem tagBody?_isSome_iff {c : Char} {s : List Char} :
    (tagBody? (c :: s)).isSome = true ↔ startsTag c = true ∧ (brackets s).head? = some ']' := by
  rw [Option.isSome_iff_exists]
  constructor
  · rintro ⟨body, h⟩
    obtain ⟨⟨⟨d, hd, hstart⟩, hopen, hclose⟩, rest, hs⟩ := tagBody?_eq_some_iff.1 h
    cases body with
    | nil => cases hd
    | cons e inner =>
      obtain rfl : e = d := Option.some.inj hd
      obtain ⟨rfl, rfl⟩ := List.cons.inj hs
      have hinner : brackets inner = [] := by
        refine List.filter_eq_nil_iff.2 fun x hx => ?_
        have hne : x ≠ '[' ∧ x ≠ ']' := by
          constructor <;> rintro rfl
          · exact hopen (List.mem_cons_of_mem _ hx)
          · exact hclose (List.mem_cons_of_mem _ hx)
        simp [hne]
      have hall : brackets (inner ++ ']' :: rest) = ']' :: brackets rest := by
        rw [show brackets (inner ++ ']' :: rest) = brackets inner ++ brackets (']' :: rest) from
          List.filter_append .., hinner]
        rfl
      exact ⟨hstart, congrArg List.head? hall⟩
  · rintro ⟨hstart, hhead⟩
    obtain ⟨bs, hbrackets⟩ := List.head?_eq_some_iff.1 hhead
    obtain ⟨inner, rest, rfl, hinner, -, -⟩ := List.filter_eq_cons_iff.1 hbrackets
    refine ⟨c :: inner, tagBody?_eq_some_iff.2 ⟨⟨⟨c, rfl, hstart⟩, ?_, ?_⟩, rest, rfl⟩⟩
    all_goals
      intro hmem
      rcases List.mem_cons.1 hmem with rfl | hmem
      · exact absurd hstart (by decide)
      · exact hinner _ hmem (by decide)

theorem brackets_append (s t : List Char) : brackets (s ++ t) = brackets s ++ brackets t :=
  List.filter_append ..

theorem brackets_slashes (n : Nat) : brackets (List.replicate n '\\') = [] := by
  simp [brackets]

theorem brackets_escapeTags (s : List Char) : brackets (escapeTags s) = brackets s := by
  induction s using tags_induction with
  | nil => rw [escapeTags]
  | tag t rest hbody ih =>
    rw [escapeTags_text hbody, brackets_append, brackets_append, ih]
    simp only [WrittenTag.text, WrittenTag.shown, brackets_append, brackets_slashes]
  | char c s hnone ih =>
    rw [escapeTags_cons hnone]
    unfold brackets at ih ⊢
    rw [List.filter_cons, List.filter_cons, ih]

/-- Behind such a text a bracket that it left open stays open: it is nothing but backslashes, or a
bracket comes after them. -/
def StartsApart (v : List Char) : Prop := ∀ c ∈ (v.dropWhile (· = '\\')).head?, c = '['

/-- A text whose end no backslash joins to what follows. -/
def EndsClean (s : List Char) : Prop := s.getLast? ≠ some '\\'

theorem startsApart_slashes (n : Nat) : StartsApart (List.replicate n '\\') := by
  simp [StartsApart]

theorem startsApart_tag (t : WrittenTag) (rest : List Char) : StartsApart (t.text ++ rest) := by
  intro c hc
  simpa [WrittenTag.text, WrittenTag.shown, eq_comm] using hc

theorem EndsClean.tail {c : Char} {s : List Char} (h : EndsClean (c :: s)) : EndsClean s := by
  cases s with
  | nil => exact nofun
  | cons d s => simpa [EndsClean] using h

theorem EndsClean.of_append {s t : List Char} (h : EndsClean (s ++ t)) : EndsClean t := by
  cases t with
  | nil => exact nofun
  | cons d t => simpa [EndsClean, List.getLast?_append] using h

theorem StartsApart.not_startsTag {c : Char} {v : List Char} (h : StartsApart (c :: v)) :
    startsTag c = false := by
  by_cases hc : c = '\\'
  · rw [hc]
    decide
  · have hopen : c = '[' := h c (by simp [hc])
    rw [hopen]
    decide

theorem StartsApart.brackets {v : List Char} (h : StartsApart v) :
    (brackets v).head? ≠ some ']' := by
  have hsplit := List.takeWhile_append_dropWhile (p := (· = '\\')) (l := v)
  have hslashes : Console.brackets (v.takeWhile (· = '\\')) = [] := by
    refine List.filter_eq_nil_iff.2 fun c hc => ?_
    have hslash : c = '\\' := by simpa using List.mem_takeWhile_imp hc
    rw [hslash]
    decide
  rw [← hsplit, brackets_append, hslashes, List.nil_append]
  cases hrest : v.dropWhile (· = '\\') with
  | nil => exact nofun
  | cons c rest =>
    have hopen : c = '[' := h c (by rw [hrest]; rfl)
    rw [hopen]
    simp [Console.brackets]

/-- A bracket that opens no tag opens none when what is behind it is escaped. -/
theorem tagBody?_escapeTags_append {s v : List Char} (hnone : tagBody? s = none)
    (hv : StartsApart v) : tagBody? (escapeTags s ++ v) = none := by
  rw [← Option.not_isSome_iff_eq_none] at hnone ⊢
  intro hsome
  cases s with
  | nil =>
    rw [escapeTags, List.nil_append] at hsome
    cases v with
    | nil => cases hsome
    | cons c v =>
      have hstart := (tagBody?_isSome_iff.1 hsome).1
      rw [hv.not_startsTag] at hstart
      cases hstart
  | cons c s =>
    by_cases hstart : startsTag c = true
    · have hplain : tagHere? (c :: s) = none := by
        refine tagHere?_of_ne ?_ ?_ s <;> rintro rfl <;> exact absurd hstart (by decide)
      rw [escapeTags_cons hplain, List.cons_append, tagBody?_isSome_iff, brackets_append,
        brackets_escapeTags] at hsome
      rw [tagBody?_isSome_iff] at hnone
      cases hs : brackets s with
      | nil => exact hv.brackets (by simpa [hs] using hsome.2)
      | cons b bs => exact hnone ⟨hstart, by simpa [hs] using hsome.2⟩
    · -- what a text starts with, or a backslash before it, starts no tag either
      have hhead : ∃ d r, escapeTags (c :: s) = d :: r ∧ startsTag d = false := by
        cases hhere : tagHere? (c :: s) with
        | none => exact ⟨c, _, escapeTags_cons hhere, by simpa using hstart⟩
        | some t =>
          obtain ⟨hbody, rest, htext⟩ := tagHere?_eq_some_iff.1 hhere
          exact ⟨'\\', _, by rw [htext, escapeTags_text hbody]; rfl, by decide⟩
      obtain ⟨d, r, hd, hplain⟩ := hhead
      rw [hd, List.cons_append, tagBody?_isSome_iff, hplain] at hsome
      exact Bool.false_ne_true hsome.1

theorem tagHere?_escapeTags_append {c : Char} {s v : List Char} (hnone : tagHere? (c :: s) = none)
    (hs : EndsClean (c :: s)) (hv : StartsApart v) :
    tagHere? (c :: (escapeTags s ++ v)) = none := by
  induction s generalizing c with
  | nil =>
    have hslash : c ≠ '\\' := by
      rintro rfl
      exact hs rfl
    by_cases hopen : c = '['
    · rw [hopen, tagHere?_bracket] at hnone ⊢
      rw [tagBody?_escapeTags_append (by simpa using hnone) hv]
      rfl
    · exact tagHere?_of_ne hslash hopen _
  | cons d s ih =>
    by_cases hslash : c = '\\'
    · rw [hslash, tagHere?_slash] at hnone ⊢
      have hnone' : tagHere? (d :: s) = none := by simpa using hnone
      rw [escapeTags_cons hnone', List.cons_append, ih hnone' hs.tail]
      rfl
    by_cases hopen : c = '['
    · rw [hopen, tagHere?_bracket] at hnone ⊢
      rw [tagBody?_escapeTags_append (by simpa using hnone) hv]
      rfl
    · exact tagHere?_of_ne hslash hopen _

/-- What is escaped holds no tag. -/
theorem tagsFrom_escapeTags_append {s v : List Char} (hs : EndsClean s) (hv : StartsApart v)
    (start : Nat) :
    tagsFrom start (escapeTags s ++ v) = tagsFrom (start + (escapeTags s).length) v := by
  induction s using tags_induction generalizing start with
  | nil => rw [escapeTags]; rfl
  | tag t rest hbody ih =>
    have hodd : (2 * t.slashes + 1) % 2 = 1 := by omega
    have htag := tagsFrom_text (t := ⟨2 * t.slashes + 1, t.body⟩) hbody (escapeTags rest ++ v) start
    rw [escapeTags_text hbody, List.append_assoc, htag, if_pos hodd, ih hs.of_append,
      List.length_append, WrittenTag.length_text, Nat.add_assoc]
  | char c s hnone ih =>
    rw [escapeTags_cons hnone, List.cons_append,
      tagsFrom_cons (tagHere?_escapeTags_append hnone hs hv), ih hs.tail, List.length_cons]
    congr 1
    omega

/-- A text without backslashes shows itself when it is escaped. -/
theorem plainOf_escapeTags_append {s v : List Char} (hs : '\\' ∉ s) (hv : StartsApart v) :
    plainOf (escapeTags s ++ v) = s ++ plainOf v := by
  induction s using tags_induction with
  | nil => rw [escapeTags]; rfl
  | tag t rest hbody ih =>
    have hplain : (⟨2 * t.slashes + 1, t.body⟩ : WrittenTag).plain = t.text := by
      rw [WrittenTag.plain, if_pos (by change (2 * t.slashes + 1) % 2 = 1; omega),
        show (2 * t.slashes + 1) / 2 = t.slashes by omega]
      rfl
    have htag := plainOf_text (t := ⟨2 * t.slashes + 1, t.body⟩) hbody (escapeTags rest ++ v)
    rw [escapeTags_text hbody, List.append_assoc, htag, hplain,
      ih fun h => hs (List.mem_append_right _ h), List.append_assoc]
  | char c s hnone ih =>
    have hc : c ≠ '\\' := fun hc => hs (hc ▸ List.mem_cons_self)
    have hclean : EndsClean (c :: s) := fun h => hs (List.mem_of_getLast? h)
    rw [escapeTags_cons hnone, List.cons_append,
      plainOf_cons (tagHere?_escapeTags_append hnone hclean hv), if_neg fun h => hc h.1,
      ih fun h => hs (List.mem_cons_of_mem c h), List.cons_append]

section Endings

variable (s : List Char) (n : Nat)

/-- Backslashes at the end belong to no tag. -/
theorem tagHere?_append_slashes : tagHere? (s ++ List.replicate n '\\') = tagHere? s := by
  refine Option.ext fun t => ?_
  rw [tagHere?_eq_some_iff, tagHere?_eq_some_iff]
  refine and_congr_right fun _ => ?_
  constructor
  · rintro ⟨rest, hs⟩
    rcases List.append_eq_append_iff.1 hs with ⟨ending, htext, hslashes⟩ | ⟨rest', rfl, -⟩
    · cases ending using List.reverseRecOn with
      | nil => exact ⟨[], by simpa using htext.symm⟩
      | append_singleton ending c =>
        have hlast : c = ']' := by
          have hclose := congrArg List.getLast? htext
          rw [t.getLast?_text, ← List.append_assoc, List.getLast?_concat] at hclose
          exact (Option.some.inj hclose).symm
        have hslash : c = '\\' := by
          have hmem : c ∈ List.replicate n '\\' := by rw [hslashes]; simp
          exact (List.mem_replicate.1 hmem).2
        exact absurd (hlast.symm.trans hslash) (by decide)
    · exact ⟨rest', rfl⟩
  · rintro ⟨rest, rfl⟩
    exact ⟨rest ++ List.replicate n '\\', List.append_assoc ..⟩

theorem escapeTags_slashes : escapeTags (List.replicate n '\\') = List.replicate n '\\' := by
  induction n with
  | zero => rw [List.replicate_zero, escapeTags]
  | succ n ih =>
    have hnone : tagHere? ('\\' :: List.replicate n '\\') = none :=
      tagHere?_append_slashes [] (n + 1)
    rw [List.replicate_succ, escapeTags_cons hnone, ih]

theorem escapeTags_append_slashes :
    escapeTags (s ++ List.replicate n '\\') = escapeTags s ++ List.replicate n '\\' := by
  induction s using tags_induction with
  | nil => rw [List.nil_append, escapeTags_slashes, escapeTags, List.nil_append]
  | tag t rest hbody ih =>
    rw [List.append_assoc, escapeTags_text hbody, escapeTags_text hbody, ih, List.append_assoc]
  | char c s hnone ih =>
    have hnone' : tagHere? (c :: (s ++ List.replicate n '\\')) = none :=
      (tagHere?_append_slashes (c :: s) n).trans hnone
    rw [List.cons_append, escapeTags_cons hnone', ih, escapeTags_cons hnone, List.cons_append]

theorem exists_endsClean : ∃ s' n, EndsClean s' ∧ s = s' ++ List.replicate n '\\' := by
  induction s using List.reverseRecOn with
  | nil => exact ⟨[], 0, nofun, rfl⟩
  | append_singleton s c ih =>
    by_cases hc : c = '\\'
    · obtain ⟨s', n, hs', rfl⟩ := ih
      refine ⟨s', n + 1, hs', ?_⟩
      rw [hc, List.append_assoc, ← List.replicate_succ']
    · exact ⟨s ++ [c], 0, by simpa [EndsClean] using hc, by simp⟩

theorem getLast?_escapeTags : (escapeTags s).getLast? = s.getLast? := by
  induction s using tags_induction with
  | nil => rw [escapeTags]
  | tag t rest hbody ih =>
    rw [escapeTags_text hbody, List.getLast?_append, List.getLast?_append, ih,
      WrittenTag.getLast?_text, WrittenTag.getLast?_text]
  | char c s hnone ih =>
    have hcons (s : List Char) : (c :: s).getLast? = s.getLast?.or (some c) :=
      List.getLast?_append (l := [c])
    rw [escapeTags_cons hnone, hcons, hcons, ih]

/-- How many backslashes a text ends in when it is escaped. -/
def closedSlashes (n : Nat) : Nat := if n = 1 then 2 else n

variable {s} in
theorem suffix_slashes_iff (hs : EndsClean s) {k : Nat} :
    List.replicate k '\\' <:+ s ++ List.replicate n '\\' ↔ k ≤ n := by
  constructor
  · rintro ⟨start, hstart⟩
    by_contra hlt
    obtain ⟨d, rfl⟩ : ∃ d, k = (d + 1) + n := ⟨k - n - 1, by omega⟩
    rw [← List.replicate_append_replicate, ← List.append_assoc] at hstart
    have hs' := List.append_cancel_right hstart
    refine hs ?_
    rw [← hs', List.replicate_succ', ← List.append_assoc, List.getLast?_concat]
  · intro hle
    obtain ⟨d, rfl⟩ : ∃ d, n = d + k := ⟨n - k, by omega⟩
    rw [← List.replicate_append_replicate, ← List.append_assoc]
    exact List.suffix_append _ _

variable {s} in
theorem closeSlash_append_slashes (hs : EndsClean s) :
    closeSlash (s ++ List.replicate n '\\') = s ++ List.replicate (closedSlashes n) '\\' := by
  have hone := suffix_slashes_iff n hs (k := 1)
  have htwo := suffix_slashes_iff n hs (k := 2)
  unfold closeSlash closedSlashes
  by_cases hn : n = 1
  · have hends : (['\\'].isSuffixOf (s ++ List.replicate n '\\') &&
        !(['\\', '\\'].isSuffixOf (s ++ List.replicate n '\\'))) = true := by
      rw [Bool.and_eq_true, Bool.not_eq_true', ← Bool.not_eq_true, List.isSuffixOf_iff_suffix,
        List.isSuffixOf_iff_suffix]
      exact ⟨hone.2 (by omega), fun h => absurd (htwo.1 h) (by omega)⟩
    rw [if_pos hends, if_pos hn, hn, List.append_assoc]
    rfl
  · have hends : ¬ (['\\'].isSuffixOf (s ++ List.replicate n '\\') &&
        !(['\\', '\\'].isSuffixOf (s ++ List.replicate n '\\'))) = true := by
      rw [Bool.and_eq_true, Bool.not_eq_true', ← Bool.not_eq_true, List.isSuffixOf_iff_suffix,
        List.isSuffixOf_iff_suffix]
      rintro ⟨h, h'⟩
      exact h' (htwo.2 (by have := hone.1 h; omega))
    rw [if_neg hends, if_neg hn]

end Endings

/-- An escaped text keeps its end, but for a single backslash, which becomes two. -/
theorem toList_escape {text : String} {s : List Char} {n : Nat} (hs : EndsClean s)
    (htext : text.toList = s ++ List.replicate n '\\') :
    (escape text).toList = escapeTags s ++ List.replicate (closedSlashes n) '\\' := by
  have hclean : EndsClean (escapeTags s) := by
    unfold EndsClean
    rw [getLast?_escapeTags]
    exact hs
  rw [escape, String.toList_ofList, htext, escapeTags_append_slashes,
    closeSlash_append_slashes n hclean]

end Playground.Console
