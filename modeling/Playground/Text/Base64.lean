namespace Playground.Text

def sextet? (c : Char) : Option Nat :=
  let n := c.toNat
  if 'A' ≤ c ∧ c ≤ 'Z' then some (n - 65)
  else if 'a' ≤ c ∧ c ≤ 'z' then some (n - 71)
  else if '0' ≤ c ∧ c ≤ '9' then some (n + 4)
  else if c = '+' then some 62
  else if c = '/' then some 63
  else none

/-- The bytes of a group of sextets, the first highest. A group of one sextet has no byte. -/
def bytesOfGroup : List Nat → List Nat
  | [a, b] => [(a * 64 + b) / 16]
  | [a, b, c] => [(a * 4096 + b * 64 + c) / 1024, (a * 4096 + b * 64 + c) / 4 % 256]
  | [a, b, c, d] =>
    let n := a * 262144 + b * 4096 + c * 64 + d
    [n / 65536, n / 256 % 256, n % 256]
  | _ => []

/-- Reads groups of four sextets. Characters that are none are skipped. A group that is short needs
its padding, and nothing is read after that. -/
def base64Groups (group : List Nat) (pads : Nat) : List Char → Option (List Nat)
  | [] => if group.isEmpty then some [] else none
  | c :: r =>
    if c = '=' then
      if 2 ≤ group.length ∧ 4 ≤ group.length + pads + 1 then some (bytesOfGroup group)
      else base64Groups group (if 2 ≤ group.length then pads + 1 else pads) r
    else match sextet? c with
      | none => base64Groups group pads r
      | some s =>
        if group.length = 3 then (base64Groups [] 0 r).map (bytesOfGroup (group ++ [s]) ++ ·)
        else base64Groups (group ++ [s]) 0 r

def decodeBase64 (s : List Char) : Option (List Nat) := base64Groups [] 0 s

example : decodeBase64 "aGVsbG8=".toList = some [104, 101, 108, 108, 111] := by decide

end Playground.Text
