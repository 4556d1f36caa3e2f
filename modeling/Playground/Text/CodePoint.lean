namespace Playground.Text

/-- Halves of surrogate pairs are code points, but no characters. -/
def isHalf (n : Nat) : Bool := 0xD800 ≤ n && n ≤ 0xDFFF

/-- A text holds a half as the private character this far above it. -/
def halfDistance : Nat := 0x100000

/-- Stands before a private character that is meant as such. -/
def privateMark : Nat := 0x10E000

/-- A code point as a text holds it. -/
def ofPoint (n : Nat) : List Char :=
  if isHalf n then [Char.ofNat (n + halfDistance)]
  else if isHalf (n - halfDistance) ∨ n = privateMark then [Char.ofNat privateMark, Char.ofNat n]
  else [Char.ofNat n]

def ofPoints (ns : List Nat) : List Char := ns.flatMap ofPoint

def pointOf (c : Char) : Nat :=
  if isHalf (c.toNat - halfDistance) then c.toNat - halfDistance else c.toNat

/-- The code points that a text holds. -/
def points : List Char → List Nat
  | [] => []
  | [c] => [pointOf c]
  | c :: d :: r =>
    if c.toNat = privateMark then d.toNat :: points r else pointOf c :: points (d :: r)

def hasHalf (s : String) : Bool := (points s.toList).any isHalf

/-- A text for those who know no halves: each shows as the mark of a character that cannot be
shown. -/
def plain (s : String) : String :=
  String.ofList ((points s.toList).map fun n => if isHalf n then '\uFFFD' else Char.ofNat n)

/-- A text of those who know no halves. -/
def ofPlain (s : String) : String := String.ofList (ofPoints (s.toList.map (·.toNat)))

theorem points_cons {c : Char} (h : c.toNat ≠ privateMark) (s : List Char) :
    points (c :: s) = pointOf c :: points s := by
  cases s with
  | nil => rfl
  | cons d r => simp [points, h]

theorem toNat_ofNat {n : Nat} (h : n.isValidChar) : (Char.ofNat n).toNat = n := by
  rw [Char.ofNat, dif_pos h]; rfl

/-- Every code point can be held, and no two in the same way. -/
theorem points_ofPoint_append {n : Nat} (h : n.isValidChar ∨ isHalf n = true) (s : List Char) :
    points (ofPoint n ++ s) = n :: points s := by
  by_cases half : isHalf n = true
  · have bounds : 0xD800 ≤ n ∧ n ≤ 0xDFFF := by simpa [isHalf] using half
    have valid : (n + halfDistance).isValidChar := by
      right; simp only [halfDistance]; omega
    have held := toNat_ofNat valid
    have noMark : (Char.ofNat (n + halfDistance)).toNat ≠ privateMark := by
      rw [held]; simp only [halfDistance, privateMark]; omega
    simp only [ofPoint, half, if_true, List.singleton_append, points_cons noMark, pointOf, held,
      Nat.add_sub_cancel]
  · have valid : n.isValidChar := h.resolve_right half
    have held := toNat_ofNat valid
    by_cases meant : isHalf (n - halfDistance) = true ∨ n = privateMark
    · have mark : (Char.ofNat privateMark).toNat = privateMark := toNat_ofNat (by decide)
      simp [ofPoint, half, meant, points, mark, held]
    · have noMark : (Char.ofNat n).toNat ≠ privateMark := by
        rw [held]; exact fun e => meant (Or.inr e)
      have noHalf : isHalf (n - halfDistance) = false := by
        simpa using fun e => meant (Or.inl e)
      have shape : ofPoint n = [Char.ofNat n] := by simp [ofPoint, half, meant]
      rw [shape, List.singleton_append, points_cons noMark]
      simp [pointOf, held, noHalf]

theorem points_ofPoints {ns : List Nat} (h : ∀ n ∈ ns, n.isValidChar ∨ isHalf n = true) :
    points (ofPoints ns) = ns := by
  induction ns with
  | nil => rfl
  | cons n ns ih =>
    rw [ofPoints, List.flatMap_cons, points_ofPoint_append (h n (List.mem_cons_self ..))]
    rw [← ofPoints, ih fun m hm => h m (List.mem_cons_of_mem _ hm)]

theorem isHalf_toNat (c : Char) : isHalf c.toNat = false := by
  have valid := c.valid
  simp only [isHalf, Bool.and_eq_false_iff, decide_eq_false_iff_not]
  simp only [UInt32.isValidChar, Nat.isValidChar, Char.toNat] at *
  omega

theorem plain_ofPlain (s : String) : plain (ofPlain s) = s := by
  have held : points (ofPoints (s.toList.map (·.toNat))) = s.toList.map (·.toNat) := by
    apply points_ofPoints
    intro n hn
    obtain ⟨c, _, rfl⟩ := List.mem_map.1 hn
    exact Or.inl c.valid
  have back : ∀ c : Char, (if isHalf c.toNat then '\uFFFD' else Char.ofNat c.toNat) = c := by
    intro c
    simp [isHalf_toNat]
  rw [plain, ofPlain, String.toList_ofList, held, List.map_map]
  exact (congrArg String.ofList ((List.map_congr_left fun c _ => back c).trans (List.map_id _))).trans
    String.ofList_toList

end Playground.Text
