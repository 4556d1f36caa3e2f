namespace Playground.Text

/-- A set of characters, given by the code points where membership changes, in increasing order.
A code point is a member when an odd number of changes lie at or below it. -/
structure CharSet where
  changes : List Nat

def CharSet.crossings (n : Nat) : List Nat → Nat
  | [] => 0
  | b :: bs => if b ≤ n then crossings n bs + 1 else 0

def CharSet.contains (s : CharSet) (c : Char) : Bool :=
  crossings c.toNat s.changes % 2 == 1

end Playground.Text
