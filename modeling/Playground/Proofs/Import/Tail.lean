import Playground.Proofs.Import.FixedPoints
import Playground.Proofs.Import.OneLine

namespace Playground.Import

section Scan

theorem exists_occurrence_of_mem_scan {s : List Char} {c : Clause} (hc : .clause c ∈ scan s) :
    ∃ o : Occurrence, c = o.clause := by
  fun_induction scan s with
  | case1 s found h _ ih =>
    rcases List.mem_cons.1 hc with he | hc
    · cases he
      obtain ⟨o, ho, -⟩ := clause?_first h
      exact ⟨o, ho⟩
    · exact ih hc
  | case2 => cases hc
  | case3 c r h ih =>
    rcases List.mem_cons.1 hc with he | hc
    · cases he
    · exact ih hc

/-- Without a quote there is no import. -/
theorem scan_of_noQuote {s : List Char} (hs : ∀ c ∈ s, isQuote c = false) :
    scan s = s.map .plain := by
  induction s with
  | nil => exact scan_nil
  | cons c s ih =>
    obtain ⟨-, hrest⟩ := List.forall_mem_cons.1 hs
    have hnone : clause? (c :: s) = none := by
      refine (clause?_eq_none_iff _).2 fun o hat => ?_
      have hmark : o.mark ∈ o.text := by simp [Occurrence.text, Occurrence.clause, Ending.within,
        Clause.text]
      exact Bool.eq_false_iff.1 (hs _ (hat.subset hmark)) o.isQuote_mark
    rw [scan_of_none hnone, ih hrest, List.map_cons]

variable {body tail : List Char}

theorem clause?_of_append_eq_none (h : clause? (body ++ tail) = none) : clause? body = none := by
  rw [clause?_eq_none_iff] at h ⊢
  exact fun o hat => h o (hat.trans (List.prefix_append body tail))

/-- A clause that lies before the tail is found without it. -/
theorem clause?_of_append_eq_some {found : Clause × List Char}
    (h : clause? (body ++ tail) = some found) (hin : found.1.text.length ≤ body.length) :
    ∃ rest, clause? body = some (found.1, rest) ∧ found.2 = rest ++ tail := by
  obtain ⟨o, ho, hfirst⟩ := clause?_first h
  have htext := clause?_text h
  have hat : o.text <+: body := by
    have hstart : found.1.text <+: body ++ tail := ⟨_, htext.symm⟩
    have hbody := List.prefix_of_prefix_length_le hstart (List.prefix_append body tail) hin
    rwa [ho] at hbody
  cases hbody : clause? body with
  | none => exact absurd hat ((clause?_eq_none_iff _).1 hbody o)
  | some found' =>
    obtain ⟨o', ho', hfirst'⟩ := clause?_first hbody
    have htext' := clause?_text hbody
    have hat' : o'.text <+: body := by
      rw [Occurrence.text, ← ho']
      exact ⟨_, htext'.symm⟩
    have hprecedes := hfirst o' (hat'.trans (List.prefix_append body tail))
    obtain rfl := Occurrence.eq_of_precedes hat hat' hprecedes (hfirst' o hat)
    obtain ⟨clause, rest⟩ := found'
    obtain rfl : clause = found.1 := ho'.trans ho.symm
    refine ⟨rest, rfl, ?_⟩
    rw [htext', List.append_assoc] at htext
    exact (List.append_cancel_left htext).symm

/-- A clause that runs over the border has only its keyword and blanks before the tail. -/
theorem exists_ending_of_over {c : Char} {front rest : List Char} {found : Clause × List Char}
    (hc : Occurrence.StartsWord c) (h : clause? (front ++ '\n' :: c :: rest) = some found)
    (hover : front.length < found.1.text.length) :
    ∃ (e : Ending) (lead : List Char), found.1 = e.within (front ++ '\n' :: lead) ∧
      ∀ d ∈ front ++ ['\n'], isQuote d = false := by
  obtain ⟨o, ho, -⟩ := clause?_first h
  have hat : o.text <+: front ++ '\n' :: ([] ++ c :: rest) := by
    rw [Occurrence.text, ← ho]
    exact ⟨_, (clause?_text h).symm⟩
  have hlength : front.length < o.text.length := by rwa [Occurrence.text, ← ho]
  obtain ⟨lead, b, rfl, hopening⟩ :=
    Occurrence.newline_in_opening (List.forall_mem_nil _) hc hat hlength
  refine ⟨o.toEnding, b ++ o.names, ?_, ?_⟩
  · rw [ho, Occurrence.clause, hopening]
    simp
  · have hkeyword : ∀ d ∈ ['i', 'm', 'p', 'o', 'r', 't'], isQuote d = false := by simp [isQuote]
    intro d hd
    rw [List.append_assoc] at hd
    rcases List.mem_append.1 hd with hd | hd
    · exact hkeyword d hd
    · refine isQuote_eq_false_of_isBlank (o.isBlankRun.2 d ?_)
      rw [hopening]
      rcases List.mem_append.1 hd with hd | hd
      · exact List.mem_append_left _ hd
      · rw [List.mem_singleton.1 hd]
        exact List.mem_append_right _ List.mem_cons_self

end Scan

section Spans

theorem relativeSpans_append (start : Nat) (ps qs : List Piece) :
    relativeSpans start (ps ++ qs) =
      relativeSpans start ps ++ relativeSpans (start + (ps.flatMap Piece.text).length) qs := by
  induction ps generalizing start with
  | nil => simp [relativeSpans]
  | cons p ps ih =>
    cases p with
    | plain c => simp [relativeSpans, ih, Nat.add_assoc]
    | clause c =>
      simp only [List.cons_append, relativeSpans, ih, List.flatMap_cons, List.length_append,
        Nat.add_assoc]
      split <;> rfl

theorem relativeSpans_eq_nil_iff (start : Nat) (ps : List Piece) :
    relativeSpans start ps = [] ↔ ∀ p ∈ ps, p.relative? = none := by
  rw [← List.map_eq_nil_iff (f := fun span : Nat × Nat × List Char => span.2.2),
    relativeSpans_specifiers, List.filterMap_eq_nil_iff]

theorem relativeSpans_bounds {start : Nat} {ps : List Piece} {span : Nat × Nat × List Char}
    (h : span ∈ relativeSpans start ps) :
    start < span.2.1 ∧ span.2.1 ≤ start + (ps.flatMap Piece.text).length := by
  induction ps generalizing start with
  | nil => cases h
  | cons p ps ih =>
    rw [List.flatMap_cons, List.length_append]
    have later (h : span ∈ relativeSpans (start + p.text.length) ps) :
        start < span.2.1 ∧ span.2.1 ≤ start + (p.text.length + (ps.flatMap Piece.text).length) := by
      obtain ⟨hlow, hhigh⟩ := ih h
      omega
    cases p with
    | plain c => exact later h
    | clause c =>
      simp only [relativeSpans] at h
      split at h
      · next hrel =>
        rcases List.mem_cons.1 h with rfl | h
        · have hspecifier : 0 < c.specifier.length := by
            refine List.length_pos_iff.2 fun hnil => ?_
            rw [hnil] at hrel
            cases hrel
          simp only [Piece.text, Clause.text, List.length_append]
          omega
        · exact later h
      · exact later h

end Spans

/-- The pieces of a tail as a search through the whole text cuts it. A clause that runs over the
border has its beginning before the tail, and only the rest of it is a piece here. -/
structure CutsTail (body tail : List Char) (ts : List Piece) : Prop where
  text : ts.flatMap Piece.text = tail
  respelled : ∀ f, (scan (body ++ tail)).flatMap (fun p => (p.respell f).text) =
    (scan body).flatMap (fun p => (p.respell f).text) ++ ts.flatMap fun p => (p.respell f).text
  spans : ∀ start, relativeSpans start (scan (body ++ tail)) =
    relativeSpans start (scan body) ++ relativeSpans (start + body.length) ts
  ends : ∀ c, .clause c ∈ ts → ∃ (e : Ending) (lead : List Char), c = e.within lead

namespace CutsTail

variable {body tail : List Char} {ts : List Piece}

theorem of_nil (tail : List Char) : CutsTail [] tail (scan tail) where
  text := scan_text tail
  respelled f := by rw [scan_nil]; rfl
  spans start := by rw [scan_nil]; rfl
  ends c hc := by
    obtain ⟨o, rfl⟩ := exists_occurrence_of_mem_scan hc
    exact ⟨o.toEnding, _, rfl⟩

/-- Before the border both searches take the same piece. -/
theorem cons {p : Piece} {rest : List Char} (hbody : scan body = p :: scan rest)
    (hall : scan (body ++ tail) = p :: scan (rest ++ tail)) (h : CutsTail rest tail ts) :
    CutsTail body tail ts where
  text := h.text
  respelled f := by
    rw [hall, hbody, List.flatMap_cons, List.flatMap_cons, h.respelled f, List.append_assoc]
  spans start := by
    have hlength : body.length = p.text.length + rest.length := by
      rw [← scan_text body, hbody, List.flatMap_cons, scan_text, List.length_append]
    have hcons (ps : List Piece) : relativeSpans start (p :: ps) =
        relativeSpans start [p] ++ relativeSpans (start + p.text.length) ps := by
      have happend := relativeSpans_append start [p] ps
      simpa using happend
    rw [hall, hbody, hcons, hcons (scan rest), h.spans, List.append_assoc, hlength, Nat.add_assoc]
  ends := h.ends

/-- Over the border both searches take the same up to it. -/
theorem crossing {e : Ending} {lead rest : List Char} (hquote : ∀ c ∈ body, isQuote c = false)
    (hall : scan (body ++ tail) = .clause (e.within (body ++ lead)) :: scan rest) :
    CutsTail body tail (.clause (e.within lead) :: scan rest) := by
  have hbody := scan_of_noQuote hquote
  have hplain (f : Piece → List Char) (hf : ∀ c, f (.plain c) = [c]) :
      (scan body).flatMap f = body := by
    rw [hbody, List.flatMap_map]
    simp [hf]
  refine ⟨?_, fun f => ?_, fun start => ?_, fun c hc => ?_⟩
  · have htext := scan_text (body ++ tail)
    rw [hall] at htext
    refine (List.append_right_inj body).1 ?_
    rw [← htext]
    simp [Piece.text, Clause.text, Ending.within]
  · rw [hall, hplain _ fun c => rfl]
    simp [Piece.respell, Clause.respell, Piece.text, Clause.text, Ending.within]
  · have hnone : relativeSpans start (scan body) = [] := by
      rw [relativeSpans_eq_nil_iff, hbody]
      simp [Piece.relative?]
    rw [hall, hnone, List.nil_append]
    simp [relativeSpans, Piece.text, Clause.text, Ending.within, Nat.add_assoc]
  · rcases List.mem_cons.1 hc with hc | hc
    · cases hc
      exact ⟨e, lead, rfl⟩
    · obtain ⟨o, rfl⟩ := exists_occurrence_of_mem_scan hc
      exact ⟨o.toEnding, _, rfl⟩

end CutsTail

theorem Occurrence.IsAbove.of_append {front body : List Char} (h : IsAbove (front ++ body)) :
    IsAbove body := by
  rcases List.eq_nil_or_concat body with rfl | ⟨lines, c, rfl⟩
  · exact .inl rfl
  · rw [List.concat_eq_append] at h ⊢
    rcases h with h | ⟨lines', h⟩
    · simp at h
    · rw [← List.append_assoc] at h
      obtain ⟨-, hc⟩ := List.append_inj' h rfl
      exact .inr ⟨lines, by rw [hc]⟩

/-- Behind whole lines, a tail that starts with a word is cut alone but for the blanks before it. -/
theorem exists_cutsTail {body rest : List Char} {c : Char} (hbody : Occurrence.IsAbove body)
    (hc : Occurrence.StartsWord c) : ∃ ts, CutsTail body (c :: rest) ts := by
  induction hlength : body.length using Nat.strong_induction_on generalizing body with
  | _ n ih =>
    cases body with
    | nil => exact ⟨_, .of_nil _⟩
    | cons d body =>
      cases hclause : clause? (d :: body ++ c :: rest) with
      | none =>
        have hscan := scan_of_none (clause?_of_append_eq_none hclause)
        have hbelow : Occurrence.IsAbove ([d] ++ body) := hbody
        obtain ⟨ts, hts⟩ := ih body.length (by simp [← hlength]) hbelow.of_append rfl
        exact ⟨ts, hts.cons hscan (scan_of_none hclause)⟩
      | some found =>
        by_cases hin : found.1.text.length ≤ (d :: body).length
        · obtain ⟨left, hfound, hrest⟩ := clause?_of_append_eq_some hclause hin
          have htext := clause?_text hfound
          have hshort : left.length < (d :: body).length := length_lt_of_clause? hfound
          rw [htext] at hbody
          obtain ⟨ts, hts⟩ := ih left.length (by omega) hbody.of_append rfl
          refine ⟨ts, hts.cons (scan_of_some hfound) ?_⟩
          rw [scan_of_some hclause, hrest]
        · obtain ⟨front, hfront⟩ := hbody.resolve_left (List.cons_ne_nil d body)
          rw [hfront, List.append_assoc, List.singleton_append] at hclause
          have hover : front.length < found.1.text.length := by
            rw [hfront, List.length_append] at hin
            simp only [List.length_singleton] at hin
            omega
          obtain ⟨e, lead, hlead, hquote⟩ := exists_ending_of_over hc hclause hover
          have hscan : scan (front ++ ['\n'] ++ c :: rest) =
              .clause (e.within (front ++ ['\n'] ++ lead)) :: scan found.2 := by
            simpa [hlead] using scan_of_some hclause
          rw [hfront]
          exact ⟨_, .crossing hquote hscan⟩

section Slashes

theorem count_slash_of_parentChars {filename : List Char} (hdir : Path.parentChars filename ≠ []) :
    filename.count '/' = (Path.parentChars filename).count '/' + 1 := by
  unfold Path.parentChars at hdir ⊢
  split
  · next dir name hcut =>
    obtain ⟨rfl, hname⟩ := Text.cutAtLast_eq_some hcut
    simp [List.count_eq_zero_of_not_mem hname]
  · next hcut =>
    rw [hcut] at hdir
    exact absurd rfl hdir

/-- A specifier that a reading from the root goes on from starts in the folder of its file, so the
whole folder has come in behind it. -/
theorem count_slash_lt_of_prefix {filename s : List Char} (hdir : Path.parentChars filename ≠ [])
    (hs : isRelative s = true) (h : s <+: resolveChars filename s) :
    filename.count '/' < (resolveChars filename s).count '/' := by
  obtain ⟨r, rfl⟩ : ∃ r, s = '.' :: r := by
    simpa [isRelative, List.head?_eq_some_iff] using hs
  have hdots : ∀ r', r ≠ '.' :: r' := by
    rintro r' rfl
    obtain ⟨dir, rest, -, -, hrooted⟩ := resolveChars_eq_rooted filename hs
    rw [hrooted, rooted] at h
    have hslash := (List.cons_prefix_cons.1 (List.cons_prefix_cons.1 h).2).1
    exact absurd hslash (by decide)
  have hresolve : resolveChars filename ('.' :: r) =
      rooted (Path.parentChars filename) (r.drop 1) := by
    unfold resolveChars
    split
    · next r' he => exact absurd (List.cons.inj he).2 (hdots r')
    · next he => rw [(List.cons.inj he).2]
    · next hno => exact absurd rfl (hno r)
  rw [hresolve, count_slash_of_parentChars hdir, rooted, if_neg (by simpa using hdir)]
  simp

/-- A text that goes on with a quote does not stay the same when the specifier before the quote is
read from the root, for the folder would bring more slashes than there are. -/
theorem resolveChars_append_ne {filename s : List Char} (hdir : Path.parentChars filename ≠ [])
    (hs : isRelative s = true) (hinside : ∀ c ∈ s, isQuote c = false) {q : Char}
    (hq : isQuote q = true) {rest : List Char}
    (hslashes : (s ++ q :: rest).count '/' ≤ filename.count '/') (rest' : List Char) :
    resolveChars filename s ++ q :: rest' ≠ s ++ q :: rest := by
  intro h
  rcases List.append_eq_append_iff.1 h with ⟨a, hspecifier, hbehind⟩ | ⟨a, hresolved, -⟩
  · cases a with
    | nil =>
      rw [List.append_nil] at hspecifier
      exact resolveChars_ne_self hdir hs hspecifier.symm
    | cons c a =>
      have hc : isQuote c = false := hinside c (by rw [hspecifier]; simp)
      rw [(List.cons.inj hbehind).1, hc] at hq
      cases hq
  · have hmore := count_slash_lt_of_prefix hdir hs ⟨a, hresolved.symm⟩
    rw [← h, List.count_append] at hslashes
    omega

end Slashes

section Tail

variable {filename : List Char} {ts : List Piece}

theorem Ending.text_within (e : Ending) (lead rest : List Char) :
    (e.within lead).text ++ rest =
      (lead ++ (e.phrase ++ [e.mark])) ++ (e.specifier ++ e.close :: rest) := by
  simp [Clause.text, within]

theorem Ending.text_respell (e : Ending) (lead rest : List Char) (f : List Char → List Char) :
    ((Piece.clause (e.within lead)).respell f).text ++ rest =
      (lead ++ (e.phrase ++ [e.mark])) ++ (f e.specifier ++ e.close :: rest) := by
  simp [Piece.respell, Clause.respell, Piece.text, Clause.text, within]

theorem exists_ending_of_relative {p : Piece} (hrel : p.relative? ≠ none)
    (hends : ∀ c, p = .clause c → ∃ (e : Ending) (lead : List Char), c = e.within lead) :
    ∃ (e : Ending) (lead : List Char), isRelative e.specifier = true ∧
      p = .clause (e.within lead) := by
  cases p with
  | plain c => exact absurd rfl hrel
  | clause c =>
    obtain ⟨e, lead, rfl⟩ := hends c rfl
    refine ⟨e, lead, ?_, rfl⟩
    by_contra hno
    exact hrel (if_neg hno)

/-- A change of one specifier is not made up for by that of another, as long as the pieces have no
more slashes than the name of the file. -/
theorem respelled_eq_text_iff (hdir : Path.parentChars filename ≠ [])
    (hends : ∀ c, .clause c ∈ ts → ∃ (e : Ending) (lead : List Char), c = e.within lead)
    (hslashes : (ts.flatMap Piece.text).count '/' ≤ filename.count '/') :
    ts.flatMap (fun p => (p.respell (resolveChars filename)).text) = ts.flatMap Piece.text ↔
      ∀ p ∈ ts, p.relative? = none := by
  induction ts with
  | nil => simp
  | cons p ts ih =>
    rw [List.flatMap_cons, List.count_append] at hslashes
    rw [List.flatMap_cons, List.flatMap_cons, List.forall_mem_cons]
    by_cases hrel : p.relative? = none
    · rw [(respell_eq_self_iff hdir p).2 hrel, List.append_right_inj, and_iff_right hrel]
      exact ih (fun c hc => hends c (List.mem_cons_of_mem p hc)) (by omega)
    · refine iff_of_false (fun h => ?_) fun h => hrel h.1
      obtain ⟨e, lead, hrelative, rfl⟩ :=
        exists_ending_of_relative hrel fun c hc => hends c (hc ▸ List.mem_cons_self)
      have hinside : ∀ d ∈ e.specifier, isQuote d = false := fun d hd =>
        isQuote_eq_false_of_isSpecifierChar (e.isSpecifierChar d hd)
      have htext := e.text_within lead (ts.flatMap Piece.text)
      rw [← List.count_append, Piece.text, htext, List.count_append] at hslashes
      rw [e.text_respell, Piece.text, htext, List.append_right_inj] at h
      exact resolveChars_append_ne hdir hrelative hinside e.isQuote_close (by omega) _ h

theorem CutsTail.spans_le_iff {body tail : String} (h : CutsTail body.toList tail.toList ts) :
    (∀ span ∈ findRelative (body ++ tail), span.2.1 ≤ body.toList.length) ↔
      ∀ p ∈ ts, p.relative? = none := by
  rw [← relativeSpans_eq_nil_iff (0 + body.toList.length), findRelative, List.forall_mem_map,
    String.toList_append, h.spans, List.forall_mem_append, List.eq_nil_iff_forall_not_mem]
  have hbefore : ∀ span ∈ relativeSpans 0 (scan body.toList),
      span.2.1 ≤ body.toList.length := fun span hspan => by
    have hbounds := (relativeSpans_bounds hspan).2
    rwa [scan_text, Nat.zero_add] at hbounds
  rw [and_iff_right hbefore]
  refine forall₂_congr fun span hspan => iff_of_false (Nat.not_le.2 ?_) id
  have hbounds := (relativeSpans_bounds hspan).1
  rwa [Nat.zero_add] at hbounds

/-- Behind `from`, blanks and a quote comes a dot. Only so a text can open a relative specifier. -/
def OpensRelative (s : List Char) : Prop :=
  ∃ (front b : List Char) (q : Char) (rest : List Char), IsBlankRun b ∧ isQuote q = true ∧
    s = front ++ 'm' :: (b ++ q :: '.' :: rest)

theorem CutsTail.opensRelative {body tail : List Char} (h : CutsTail body tail ts) {p : Piece}
    (hp : p ∈ ts) (hrel : p.relative? ≠ none) : OpensRelative tail := by
  obtain ⟨e, lead, hrelative, rfl⟩ := exists_ending_of_relative hrel fun c hc => h.ends c (hc ▸ hp)
  obtain ⟨before, after, rfl⟩ := List.append_of_mem hp
  obtain ⟨b₁, b₂, -, hb₂, hphrase⟩ := e.isFromPhrase
  obtain ⟨r, hr⟩ : ∃ r, e.specifier = '.' :: r := by
    simpa [isRelative, List.head?_eq_some_iff] using hrelative
  refine ⟨before.flatMap Piece.text ++ (lead ++ (b₁ ++ ['f', 'r', 'o'])), b₂, e.mark,
    r ++ e.close :: after.flatMap Piece.text, hb₂, e.isQuote_mark, ?_⟩
  rw [← h.text, List.flatMap_append, List.flatMap_cons, Piece.text, e.text_within, hphrase, hr]
  simp

end Tail

section Whole

variable {filename body tail : String} (hbody : Occurrence.IsAbove body.toList)
  (htail : ∃ c rest, tail.toList = c :: rest ∧ Occurrence.StartsWord c)

include hbody htail

/-- A tail that starts with a word behind whole lines comes through anchoring exactly when no
relative specifier that is found ends in it. -/
theorem anchor_append_eq_iff
    (hname : '/' ∈ filename.toList → Path.parentChars filename.toList ≠ [])
    (hslashes : tail.toList.count '/' ≤ filename.toList.count '/') :
    anchor filename (body ++ tail) = anchor filename body ++ tail ↔
      '/' ∉ filename.toList ∨
        ∀ span ∈ findRelative (body ++ tail), span.2.1 ≤ body.toList.length := by
  by_cases hslash : '/' ∈ filename.toList
  · obtain ⟨c, rest, htail, hc⟩ := htail
    obtain ⟨ts, hts⟩ := exists_cutsTail hbody hc
    rw [← htail] at hts
    rw [hts.spans_le_iff, or_iff_right (not_not_intro hslash),
      ← respelled_eq_text_iff (hname hslash) hts.ends (by rwa [hts.text]), hts.text,
      ← String.toList_inj, String.toList_append, toList_anchor hslash, toList_anchor hslash,
      String.toList_append, hts.respelled, List.append_right_inj]
  · refine iff_of_true ?_ (.inl hslash)
    have hroot (code : String) : anchor filename code = code := by
      rw [anchor, if_neg (by simpa using hslash)]
    rw [hroot, hroot]

theorem findRelative_le_of_not_opensRelative (hopens : ¬ OpensRelative tail.toList) :
    ∀ span ∈ findRelative (body ++ tail), span.2.1 ≤ body.toList.length := by
  obtain ⟨c, rest, htail, hc⟩ := htail
  obtain ⟨ts, hts⟩ := exists_cutsTail hbody hc
  rw [← htail] at hts
  refine hts.spans_le_iff.2 fun p hp => ?_
  by_contra hrel
  exact hopens (hts.opensRelative hp hrel)

end Whole

end Playground.Import
