import Playground.Proofs.Text.Lines
import Playground.Toolchain.Failure

namespace Playground.Failure

/-- A failure has a kind, and its name does not start with the end of a line. -/
def IsNamed (f : Failure) : Prop := ∃ c ∈ f.kind.toList.head?, Text.isLineEnd c = false

section Head

variable {f : Failure}

end Head

section Limit

variable (f : Failure) (n : Nat)

end Limit

theorem IsNamed.awaited {f : Failure} (hf : f.IsNamed) : f.awaited.IsNamed := by
  have hnamed : 'R' ∈ "RuntimeError".toList.head? := by decide
  unfold Failure.awaited
  split
  · exact ⟨'R', hnamed, by decide⟩
  · exact hf

end Playground.Failure
