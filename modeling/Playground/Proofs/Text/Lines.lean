import Playground.Text.Lines

namespace Playground.Text

section Line

variable {l : List Char} (hl : ∀ c ∈ l, isLineEnd c = false)
include hl

end Line

theorem joinLines_cons (line : List Char) (lines : List (List Char)) :
    joinLines (line :: lines) = line ++ lines.flatMap ('\n' :: ·) := by
  induction lines generalizing line with
  | nil => simp [joinLines]
  | cons next lines ih =>
    have hnext := ih next
    rw [joinLines] at hnext ⊢
    rw [List.intercalate_cons_cons, hnext]
    simp

end Playground.Text
