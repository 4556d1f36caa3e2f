namespace Playground.Text

/-- The characters that end a line. The unit separator is blank but ends no line. -/
def isLineEnd (c : Char) : Bool :=
  let n := c.toNat
  (0xA ≤ n && n ≤ 0xD) || (0x1C ≤ n && n ≤ 0x1E) || n == 0x85 || n == 0x2028 || n == 0x2029

/-- The lines of a text without their ends. A carriage return and the line feed after it end one
line together, and a text that ends with a line end has no empty line after it. -/
def lines : List Char → List (List Char)
  | [] => []
  | '\r' :: '\n' :: r => [] :: lines r
  | c :: r =>
    if isLineEnd c then [] :: lines r
    else match lines r with
      | [] => [[c]]
      | l :: ls => (c :: l) :: ls

def firstLine (s : List Char) : List Char := (lines s).headD []

def joinLines (ls : List (List Char)) : List Char := ['\n'].intercalate ls

/-- A text without the one line feed that may end it. -/
def withoutLineEnd (s : List Char) : List Char :=
  if s.getLast? = some '\n' then s.dropLast else s

theorem lines_not_end {s l : List Char} (hl : l ∈ lines s) : ∀ c ∈ l, isLineEnd c = false := by
  fun_induction lines s generalizing l with
  | case1 => simp at hl
  | case2 r ih =>
    rcases List.mem_cons.1 hl with rfl | h
    · simp
    · exact ih h
  | case3 c r _ _ ih =>
    rcases List.mem_cons.1 hl with rfl | h
    · simp
    · exact ih h
  | case4 c r _ hc hr =>
    simp_all
  | case5 c r _ hc l' ls hr ih =>
    rcases List.mem_cons.1 hl with rfl | h
    · intro d hd
      rcases List.mem_cons.1 hd with rfl | hd
      · simpa using hc
      · exact ih (by simp [hr]) d hd
    · exact ih (by simp [hr, h])

end Playground.Text
