namespace Playground.Text

def occursIn (needle : List Char) : List Char → Bool
  | [] => needle.isEmpty
  | c :: r => needle.isPrefixOf (c :: r) || occursIn needle r

/-- Replaces the occurrences of `o :: os` from left to right; the search goes on after the
replacement. -/
def replaceAllFrom (o : Char) (os new : List Char) : List Char → List Char
  | [] => []
  | c :: r =>
    if c = o ∧ os.isPrefixOf r then new ++ replaceAllFrom o os new (r.drop os.length)
    else c :: replaceAllFrom o os new r
termination_by s => s.length
decreasing_by all_goals simp only [List.length_drop, List.length_cons]; omega

/-- Every occurrence of `old` becomes `new`. The empty text occurs around every character. -/
def replaceAll (old new s : List Char) : List Char :=
  match old with
  | [] => new ++ s.flatMap (fun c => c :: new)
  | o :: os => replaceAllFrom o os new s

def replaceFirst (old new : List Char) : List Char → List Char
  | [] => if old.isEmpty then new else []
  | c :: r =>
    if old.isPrefixOf (c :: r) then new ++ (c :: r).drop old.length
    else c :: replaceFirst old new r

/-- The text before and after the first `sep`, or none when it does not occur. -/
def cutAt (sep : Char) : List Char → Option (List Char × List Char)
  | [] => none
  | c :: r => if c = sep then some ([], r) else (cutAt sep r).map fun p => (c :: p.1, p.2)

/-- The text before and after the last `sep`, or none when it does not occur. -/
def cutAtLast (sep : Char) : List Char → Option (List Char × List Char)
  | [] => none
  | c :: r =>
    match cutAtLast sep r with
    | some p => some (c :: p.1, p.2)
    | none => if c = sep then some ([], r) else none

def splitOn (sep : Char) : List Char → List (List Char)
  | [] => [[]]
  | c :: r =>
    if c = sep then [] :: splitOn sep r
    else match splitOn sep r with
      | [] => [[c]]
      | p :: ps => (c :: p) :: ps

def contains (needle s : String) : Bool := occursIn needle.toList s.toList

def replace (old new s : String) : String :=
  String.ofList (replaceAll old.toList new.toList s.toList)

theorem cutAt_eq_some {sep : Char} {s a b : List Char} (h : cutAt sep s = some (a, b)) :
    s = a ++ sep :: b ∧ sep ∉ a := by
  induction s generalizing a b with
  | nil => simp [cutAt] at h
  | cons c r ih =>
    by_cases hc : c = sep
    · simp [cutAt, hc] at h
      obtain ⟨rfl, rfl⟩ := h
      simp [hc]
    · simp only [cutAt, hc, if_false, Option.map_eq_some_iff, Prod.mk.injEq] at h
      obtain ⟨⟨x, y⟩, hx, rfl, rfl⟩ := h
      obtain ⟨rfl, hn⟩ := ih hx
      simp [hn, Ne.symm hc]

theorem cutAtLast_eq_none {sep : Char} {s : List Char} : cutAtLast sep s = none ↔ sep ∉ s := by
  induction s with
  | nil => simp [cutAtLast]
  | cons c r ih =>
    cases h : cutAtLast sep r with
    | none =>
      have hr := ih.1 h
      by_cases hc : c = sep
      · simp [cutAtLast, h, hc]
      · simp [cutAtLast, h, hc, hr, Ne.symm hc]
    | some p =>
      have hr : sep ∈ r := Classical.byContradiction fun hn => by simp [ih.2 hn] at h
      simp [cutAtLast, h, hr]

theorem cutAtLast_eq_some {sep : Char} {s a b : List Char} (h : cutAtLast sep s = some (a, b)) :
    s = a ++ sep :: b ∧ sep ∉ b := by
  induction s generalizing a b with
  | nil => simp [cutAtLast] at h
  | cons c r ih =>
    cases hr : cutAtLast sep r with
    | none =>
      by_cases hc : c = sep
      · simp [cutAtLast, hr, hc] at h
        obtain ⟨rfl, rfl⟩ := h
        exact ⟨by simp [hc], cutAtLast_eq_none.1 hr⟩
      · simp [cutAtLast, hr, hc] at h
    | some p =>
      simp [cutAtLast, hr] at h
      obtain ⟨rfl, rfl⟩ := h
      obtain ⟨rfl, hn⟩ := ih hr
      simp [hn]

end Playground.Text
