import Playground.Text.Lines

namespace Playground

/-- The code of one build, client or SSR, as it grows. -/
structure Variant where
  parts : List String := []
  deriving DecidableEq, Repr

namespace Variant

def code (v : Variant) : String := String.join v.parts

def append (code : String) (v : Variant) : Variant := ⟨v.parts ++ [code]⟩

def degradedNote (error : String) : String :=
  "/* SSR compile error: " ++ String.ofList (Text.firstLine error.toList) ++ " */"

/-- Everything so far gives way to a comment that shows the first line of an error. -/
def degrade (error : String) (_ : Variant) : Variant := ⟨[degradedNote error]⟩

def hasCode (v : Variant) : Bool := !v.code.isEmpty

end Variant

end Playground
