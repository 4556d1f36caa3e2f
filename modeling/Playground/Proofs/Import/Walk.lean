import Playground.Proofs.Import.Route

namespace Playground

namespace Path

/-- One segment of a walk: an empty one and a dot stay, two dots leave the last folder if there is
one, and every other one is entered. -/
def walkStep (dirs : List (List Char)) (segment : List Char) : List (List Char) :=
  if segment = [] ∨ segment = ['.'] then dirs
  else if segment = ['.', '.'] then dirs.dropLast
  else dirs ++ [segment]

def walkChars (dirs : List (List Char)) (path : List Char) : List (List Char) :=
  (Text.splitOn '/' path).foldl walkStep dirs

/-- Where a path leads to from a folder. -/
def walk (dirs : List (List Char)) (path : String) : List (List Char) := walkChars dirs path.toList

theorem walkChars_nil (dirs : List (List Char)) : walkChars dirs [] = dirs := rfl

theorem walkChars_dot (dirs : List (List Char)) : walkChars dirs ['.'] = dirs := rfl

theorem walkChars_append (dirs : List (List Char)) (a b : List Char) :
    walkChars dirs (a ++ '/' :: b) = walkChars (walkChars dirs a) b := by
  simp only [walkChars, Text.splitOn_eq, List.splitOn_append_cons_self, List.foldl_append]

theorem foldl_walkStep (dirs : List (List Char)) {names : List (List Char)}
    (hnames : ∀ name ∈ names, isStepSegment name = false) :
    names.foldl walkStep dirs = dirs ++ names := by
  induction names generalizing dirs with
  | nil => simp
  | cons name names ih =>
    obtain ⟨hname, hrest⟩ := List.forall_mem_cons.1 hnames
    simp only [isStepSegment, Bool.or_eq_false_iff, decide_eq_false_iff_not] at hname
    have hstep : walkStep dirs name = dirs ++ [name] := by simp [walkStep, hname]
    rw [List.foldl_cons, hstep, ih _ hrest, List.append_assoc, List.singleton_append]

/-- Names are entered one after the other. -/
theorem walkChars_joined (dirs : List (List Char)) {names : List (List Char)}
    (hslash : ∀ name ∈ names, '/' ∉ name) (hnames : ∀ name ∈ names, isStepSegment name = false) :
    walkChars dirs (joined names) = dirs ++ names := by
  by_cases hnil : names = []
  · subst hnil
    simp [walkChars_nil]
  · have hsegments := segments_joined hslash hnil
    rw [segments, String.toList_ofList] at hsegments
    rw [walkChars, hsegments, foldl_walkStep dirs hnames]

/-- Two dots at the start of a segment are all of it. -/
def HasPlainDots (path : List Char) : Prop :=
  ∀ segment ∈ Text.splitOn '/' path, ['.', '.'] <+: segment → segment = ['.', '.']

/-- Behind the two dots that a path starts with it ends, or its next segment follows. -/
theorem HasPlainDots.cases {r : List Char} (h : HasPlainDots ('.' :: '.' :: r)) :
    r = [] ∨ ∃ r', r = '/' :: r' ∧ HasPlainDots r' := by
  cases r with
  | nil => exact .inl rfl
  | cons c r =>
    by_cases hc : c = '/'
    · subst hc
      refine .inr ⟨r, rfl, fun segment hsegment => h segment ?_⟩
      have hsplit := List.splitOn_append_cons_self (a := '/') ['.', '.'] r
      rw [Text.splitOn_eq] at hsegment ⊢
      exact hsplit ▸ List.mem_append_right _ hsegment
    · obtain ⟨p, ps, hp⟩ : ∃ p ps, Text.splitOn '/' ('.' :: '.' :: c :: r) =
          ('.' :: '.' :: c :: p) :: ps := by
        cases hr : Text.splitOn '/' r with
        | nil => exact ⟨[], [], by simp [Text.splitOn, hc, hr]⟩
        | cons p ps => exact ⟨p, ps, by simp [Text.splitOn, hc, hr]⟩
      have hfirst := h ('.' :: '.' :: c :: p) (by simp [hp]) ⟨c :: p, rfl⟩
      cases hfirst

end Path

namespace Import

/-- A climb leaves folders, and the rest of the path leads on from those that are left to where the
whole path led. -/
theorem walkChars_climb {names : List (List Char)} (hnames : ∀ name ∈ names, '/' ∉ name)
    {s : List Char} (hs : Path.HasPlainDots s) :
    ∃ kept, kept <+: names ∧ (climb (Path.joined names) s).1 = Path.joined kept ∧
      Path.walkChars kept (climb (Path.joined names) s).2 = Path.walkChars names s := by
  generalize hdir : Path.joined names = dir
  fun_induction climb dir s generalizing names with
  | case1 dir r ih =>
    subst hdir
    have houter : ∀ name ∈ names.dropLast, '/' ∉ name :=
      fun name hname => hnames name (List.dropLast_subset _ hname)
    have hparent := (Path.parentChars_joined hnames).symm
    obtain ⟨hrest, hwalk⟩ : Path.HasPlainDots (r.drop 1) ∧
        Path.walkChars names.dropLast (r.drop 1) = Path.walkChars names ('.' :: '.' :: r) := by
      rcases hs.cases with rfl | ⟨r', rfl, hr'⟩
      · exact ⟨by simp [Path.HasPlainDots, Text.splitOn], rfl⟩
      · exact ⟨hr', (Path.walkChars_append names ['.', '.'] r').symm⟩
    obtain ⟨kept, hkept, hdir, hled⟩ := ih houter hrest hparent
    have houterNames : names.dropLast <+: names := List.dropLast_prefix names
    exact ⟨kept, hkept.trans houterNames, hdir, hled.trans hwalk⟩
  | case2 dir s => exact ⟨names, List.prefix_rfl, hdir.symm, rfl⟩

/-- Read from the root, the rest of a path leads on from the folder in front of it. -/
theorem walkChars_rooted {names : List (List Char)} (hslash : ∀ name ∈ names, '/' ∉ name)
    (hnames : ∀ name ∈ names, Path.isStepSegment name = false) (rest : List Char) :
    Path.walkChars [] (rooted (Path.joined names) rest) = Path.walkChars names rest := by
  have hlead (s : List Char) : Path.walkChars [] ('.' :: '/' :: s) = Path.walkChars [] s :=
    Path.walkChars_append [] ['.'] s
  unfold rooted
  rw [hlead]
  split
  · next hempty =>
    have hne : ∀ name ∈ names, name ≠ [] := by
      rintro name hname rfl
      exact absurd (hnames [] hname) (by decide)
    rw [(Path.joined_eq_nil_iff hne).1 (List.isEmpty_iff.1 hempty)]
  · rw [Path.walkChars_append, Path.walkChars_joined [] hslash hnames, List.nil_append]

/-- A specifier that starts with a step, in which two dots are always a step of their own. -/
structure IsStepwise (s : String) : Prop where
  starts : s = "." ∨ s = ".." ∨ "./".toList <+: s.toList ∨ "../".toList <+: s.toList
  plain : Path.HasPlainDots s.toList

theorem IsStepwise.cases {s : String} (h : IsStepwise s) :
    s.toList = ['.'] ∨ (∃ r, s.toList = '.' :: '/' :: r) ∨ ∃ r, s.toList = '.' :: '.' :: r := by
  rcases h.starts with rfl | rfl | ⟨r, hr⟩ | ⟨r, hr⟩
  · exact .inl rfl
  · exact .inr (.inr ⟨[], rfl⟩)
  · exact .inr (.inl ⟨r, hr.symm⟩)
  · exact .inr (.inr ⟨'/' :: r, hr.symm⟩)

/-- A specifier is read as a folder that the file lies in and a path that leads on from there to
where the specifier leads. -/
theorem resolveChars_eq_rooted_walk {f : List Char} {names : List (List Char)}
    (hnames : ∀ name ∈ names, '/' ∉ name) (hdir : Path.parentChars f = Path.joined names)
    {s : String} (hs : IsStepwise s) :
    ∃ kept rest, kept <+: names ∧ resolveChars f s.toList = rooted (Path.joined kept) rest ∧
      Path.walkChars kept rest = Path.walk names s := by
  unfold Path.walk
  rcases hs.cases with hdot | ⟨r, hr⟩ | ⟨r, hr⟩
  · refine ⟨names, [], List.prefix_rfl, ?_, ?_⟩
    · rw [hdot, ← hdir]
      rfl
    · rw [hdot, Path.walkChars_nil, Path.walkChars_dot]
  · refine ⟨names, r, List.prefix_rfl, ?_, ?_⟩
    · rw [hr, ← hdir]
      rfl
    · rw [hr]
      exact (Path.walkChars_append names ['.'] r).symm
  · obtain ⟨kept, hkept, htop, hled⟩ := walkChars_climb hnames hs.plain
    refine ⟨kept, _, hkept, ?_, hled⟩
    rw [← htop, ← hdir, hr]
    rfl

/-- A specifier that is read from the virtual root leads from there to where it led from the folder
of its file, also if it climbs further than there are folders. -/
theorem walk_resolve {f s : String} (hf : Path.IsVirtual f) (hs : IsStepwise s) :
    "./".toList <+: (resolve f s).toList ∧
      Path.walk [] (resolve f s) = Path.walk (Path.folders f) s := by
  have hslash : ∀ name ∈ Path.folders f, '/' ∉ name := fun name hname =>
    Path.slash_not_mem_of_mem_segments (List.dropLast_subset _ hname)
  have hnames : ∀ name ∈ Path.folders f, Path.isStepSegment name = false := fun name hname =>
    (Path.isVirtual_iff.1 hf).2 name (List.dropLast_subset _ hname)
  obtain ⟨kept, rest, hkept, hresolve, hwalk⟩ :=
    resolveChars_eq_rooted_walk hslash (Path.parentChars_eq_joined f) hs
  have hroot := walkChars_rooted (fun name hname => hslash name (hkept.subset hname))
    (fun name hname => hnames name (hkept.subset hname)) rest
  have hread : (resolve f s).toList = rooted (Path.joined kept) rest := by
    rw [resolve, String.toList_ofList, hresolve]
  rw [Path.walk, hread, hroot, hwalk]
  exact ⟨⟨_, rfl⟩, rfl⟩

/-- Three steps up from two folders, with empty segments and single dots between the steps. -/
theorem walk_resolve_pastRoot :
    let s := ".././..//../x/./y/../z/"
    Path.IsVirtual "a/b/f.vue" ∧ IsStepwise s ∧
      Path.walk (Path.folders "a/b/f.vue") s = [['x'], ['z']] ∧
      Path.walk [] (resolve "a/b/f.vue" s) = [['x'], ['z']] := by
  intro s
  have hf : Path.IsVirtual "a/b/f.vue" := rfl
  have hs : IsStepwise s :=
    ⟨.inr (.inr (.inr (by decide))), by unfold Path.HasPlainDots; decide⟩
  have hwalk : Path.walk (Path.folders "a/b/f.vue") s = [['x'], ['z']] := by decide
  exact ⟨hf, hs, hwalk, (walk_resolve hf hs).2.trans hwalk⟩

end Import

end Playground
