import Playground.Proofs.Console.Marked

namespace Playground.Console

/-! Markup that ends with a closing bracket is read apart from what follows: none of its tags is
left open there, and the tags behind it are closed among themselves. -/

/-- A text that is empty or ends with a closing bracket. -/
def EndsClosed (s : List Char) : Prop := ∀ c ∈ s.getLast?, c = ']'

theorem EndsClosed.of_append {s s' : List Char} (h : EndsClosed (s ++ s')) : EndsClosed s' := by
  intro c hc
  exact h c (by rw [List.getLast?_append, hc]; rfl)

theorem WrittenTag.count_close {t : WrittenTag} (ht : IsTagBody t.body) : t.text.count ']' = 1 := by
  have hbody : t.body.count ']' = 0 := List.count_eq_zero.2 ht.2.2
  simp [text, shown, List.count_replicate, hbody]

/-- The tag at the start of a text that ends closed has its end in it. -/
theorem tagHere?_append {s : List Char} (hs : EndsClosed s) (hne : s ≠ []) (rest : List Char) :
    tagHere? (s ++ rest) = tagHere? s := by
  refine Option.ext fun t => ?_
  rw [tagHere?_eq_some_iff, tagHere?_eq_some_iff]
  refine and_congr_right fun hbody => ?_
  constructor
  · rintro ⟨later, hjoined⟩
    rcases List.append_eq_append_iff.1 hjoined with ⟨ending, htext, -⟩ | ⟨within, rfl, -⟩
    · cases ending with
      | nil => exact ⟨[], by simpa using htext.symm⟩
      | cons c ending =>
        -- a tag has one closing bracket, and it is the last of its characters
        obtain ⟨before, d, rfl⟩ := (List.eq_nil_or_concat s).resolve_left hne
        obtain rfl : d = ']' := hs d (by simp)
        have hlast : ']' ∈ c :: ending := by
          have hclose := congrArg List.getLast? htext
          rw [t.getLast?_text, List.getLast?_append,
            List.getLast?_eq_some_getLast (List.cons_ne_nil c ending), Option.some_or] at hclose
          rw [Option.some.inj hclose]
          exact List.getLast_mem _
        have hcount := WrittenTag.count_close hbody
        have hpos := List.count_pos_iff.2 hlast
        rw [htext, List.count_append, List.concat_eq_append, List.count_append,
          List.count_singleton_self] at hcount
        omega
    · exact ⟨within, rfl⟩
  · rintro ⟨later, rfl⟩
    exact ⟨later ++ rest, List.append_assoc ..⟩

section Reading

variable {s : List Char} (hs : EndsClosed s) (rest : List Char)
include hs

theorem plainOf_append : plainOf (s ++ rest) = plainOf s ++ plainOf rest := by
  induction s using tags_induction with
  | nil => rw [plainOf]; rfl
  | tag t later hbody ih =>
    rw [List.append_assoc, plainOf_text hbody, plainOf_text hbody, ih hs.of_append,
      List.append_assoc]
  | char c later hnone ih =>
    have hnone' : tagHere? (c :: (later ++ rest)) = none :=
      (tagHere?_append hs (List.cons_ne_nil c later) rest).trans hnone
    have hhead : c = '\\' → (later ++ rest).head? = later.head? := by
      rintro rfl
      cases later with
      | nil => exact absurd (hs '\\' rfl) (by decide)
      | cons d later => rfl
    have htail : EndsClosed later := hs.of_append (s := [c])
    rw [List.cons_append, plainOf_cons hnone', plainOf_cons hnone, ih htail]
    by_cases hc : c = '\\'
    · rw [hhead hc]
      split <;> rfl
    · rw [if_neg fun h => hc h.1, if_neg fun h => hc h.1, List.cons_append]

theorem tagsFrom_append (start : Nat) :
    tagsFrom start (s ++ rest) = tagsFrom start s ++ tagsFrom (start + s.length) rest := by
  induction s using tags_induction generalizing start with
  | nil => rw [tagsFrom]; rfl
  | tag t later hbody ih =>
    rw [List.append_assoc, tagsFrom_text hbody, tagsFrom_text hbody, ih hs.of_append,
      List.length_append, t.length_text, Nat.add_assoc]
    split <;> rfl
  | char c later hnone ih =>
    have hnone' : tagHere? (c :: (later ++ rest)) = none :=
      (tagHere?_append hs (List.cons_ne_nil c later) rest).trans hnone
    have htail : EndsClosed later := hs.of_append (s := [c])
    rw [List.cons_append, tagsFrom_cons hnone', tagsFrom_cons hnone, ih htail, List.length_cons,
      Nat.add_assoc, Nat.add_comm 1]

end Reading

/-- The bodies of tags do not depend on where their text stands. -/
theorem map_tagsFrom (s : List Char) (start start' : Nat) :
    (tagsFrom start s).map (·.2) = (tagsFrom start' s).map (·.2) := by
  induction s using tags_induction generalizing start start' with
  | nil => rw [tagsFrom, tagsFrom]
  | tag t later hbody ih =>
    have hlater := ih (start + t.length) (start' + t.length)
    rw [tagsFrom_text hbody, tagsFrom_text hbody]
    split
    · exact hlater
    · exact congrArg (t.body :: ·) hlater
  | char c later hnone ih =>
    rw [tagsFrom_cons hnone, tagsFrom_cons hnone]
    exact ih _ _

/-- The same place with other tags around all of its own, and other styles before. -/
def Opened.within (outer s : Opened) : Opened := ⟨s.tags ++ outer.tags, outer.styles ++ s.styles⟩

namespace Opened

variable {s s' : Opened} (outer : Opened)

theorem start_within {name body : List Char} (hstart : s.start name body = .ok s') :
    (outer.within s).start name body = .ok (outer.within s') := by
  unfold start at hstart ⊢
  cases hname : nameOf name with
  | error fault =>
    rw [hname] at hstart
    cases hstart
  | ok style =>
    rw [hname] at hstart
    cases hstart
    simp [within, bind, Except.bind, pure, Except.pure]

/-- A tag that is closed without the tags around it is closed with them. -/
theorem close_within {name body : List Char} {position : Nat} (position' : Nat)
    (hclose : s.close name body position = .ok s') :
    (outer.within s).close name body position' = .ok (outer.within s') := by
  unfold close at hclose ⊢
  split at hclose
  · next hempty =>
    rw [if_pos hempty]
    cases htags : s.tags with
    | nil =>
      rw [htags] at hclose
      cases hclose
    | cons tag others =>
      rw [htags] at hclose
      have hwithin : (outer.within s).tags = tag :: (others ++ outer.tags) := by
        rw [within, htags]
        rfl
      rw [hwithin]
      cases hchecked : tag.checkClosed with
      | error fault =>
        simp only [hchecked] at hclose
        cases hclose
      | ok =>
        simp only [hchecked] at hclose ⊢
        cases hclose
        rfl
  · next hnonempty =>
    rw [if_neg hnonempty]
    cases hname : nameOf name with
    | error fault =>
      rw [hname] at hclose
      cases hclose
    | ok style =>
      rw [hname] at hclose
      cases hfind : s.tags.find? (·.name = style) with
      | none =>
        simp only [bind, Except.bind, hfind] at hclose
        cases hclose
      | some tag =>
        have hfind' : (outer.within s).tags.find? (·.name = style) = some tag := by
          rw [within, List.find?_append, hfind, Option.some_or]
        have herase : (outer.within s).tags.eraseP (·.name = style) =
            s.tags.eraseP (·.name = style) ++ outer.tags :=
          List.eraseP_append_left (List.find?_some hfind) _ (List.mem_of_find?_eq_some hfind)
        simp only [bind, Except.bind, hfind, hfind', herase] at hclose ⊢
        cases hchecked : tag.checkClosed with
        | error fault =>
          rw [hchecked] at hclose
          cases hclose
        | ok =>
          rw [hchecked] at hclose
          cases hclose
          rfl

theorem apply_within {body : List Char} {position : Nat} (position' : Nat)
    (happly : s.apply position body = .ok s') :
    (outer.within s).apply position' body = .ok (outer.within s') := by
  unfold apply at happly ⊢
  split at happly
  · exact close_within outer position' happly
  · exact start_within outer happly

theorem applyAll_within {tags tags' : List (Nat × List Char)}
    (hbodies : tags.map (·.2) = tags'.map (·.2)) (happly : s.applyAll tags = .ok s') :
    (outer.within s).applyAll tags' = .ok (outer.within s') := by
  induction tags generalizing s tags' with
  | nil =>
    obtain rfl := List.map_eq_nil_iff.1 hbodies.symm
    cases happly
    rfl
  | cons tag tags ih =>
    obtain ⟨tag', tags', rfl, hbody, hrest⟩ := List.map_eq_cons_iff.1 hbodies.symm
    obtain ⟨position, body⟩ := tag
    obtain ⟨position', body'⟩ := tag'
    obtain rfl : body' = body := hbody
    rw [applyAll] at happly ⊢
    cases hstep : s.apply position body' with
    | error fault =>
      rw [hstep] at happly
      cases happly
    | ok s₁ =>
      rw [hstep] at happly
      rw [apply_within outer position' hstep]
      exact ih hrest.symm happly

theorem applyAll_append (tags tags' : List (Nat × List Char)) :
    s.applyAll (tags ++ tags') = (s.applyAll tags).bind fun s => s.applyAll tags' := by
  induction tags generalizing s with
  | nil => rfl
  | cons tag tags ih =>
    rw [List.cons_append, applyAll, applyAll]
    cases s.apply tag.1 tag.2 with
    | error fault => rfl
    | ok s₁ => exact ih

end Opened

/-- Two parts that pass pass together, if the first one ends closed. -/
theorem checkShown_append {a b : String}
    (htags : ∀ start, tagsFrom start (a ++ b).toList =
      tagsFrom start a.toList ++ tagsFrom (start + a.toList.length) b.toList)
    (ha : checkShown a = .ok ()) (hb : checkShown b = .ok ()) : checkShown (a ++ b) = .ok () := by
  obtain ⟨sa, hsa, hstylesA⟩ := exists_opened_of_checkShown ha
  obtain ⟨sb, hsb, hstylesB⟩ := exists_opened_of_checkShown hb
  refine checkShown_of_applyAll (s := sa.within sb) ?_ ?_
  · rw [htags, Opened.applyAll_append, hsa]
    have hlater := Opened.applyAll_within sa (map_tagsFrom b.toList 0 (0 + a.toList.length)) hsb
    have hempty : sa.within {} = sa := by simp [Opened.within]
    rwa [hempty] at hlater
  · exact fun style hstyle => (List.mem_append.1 hstyle).elim (hstylesA style) (hstylesB style)

end Playground.Console
