import Playground.Digest.Sha1
import Playground.Text.Quoted

namespace Playground

/-- A scope id is short and stable while the file keeps its name: the first word of the digest of
the name, in eight hexadecimal digits. -/
def scopeId (filename : String) : String :=
  String.ofList (Text.hexDigits 8 (Digest.sha1 (Text.plain filename).toUTF8.toList).a.toNat)

/-- Why a name has no digest: the halves of pairs that stand first in it. -/
def halvesMessage (start stop : Nat) (first : Nat) : String :=
  "'utf-8' codec can't encode " ++
    (if stop = start + 1 then
      "character '" ++ String.ofList (Text.hexEscape first) ++ "' in position " ++ toString start
    else "characters in position " ++ toString start ++ "-" ++ toString (stop - 1)) ++
    ": surrogates not allowed"

/-- A name that holds a half of a pair has no bytes to make a digest of. -/
def halvesFault? (filename : String) : Option String :=
  let points := Text.points filename.toList
  let start := (points.takeWhile fun n => !Text.isHalf n).length
  let halves := (points.drop start).takeWhile Text.isHalf
  halves.head?.map fun first => halvesMessage start (start + halves.length) first

/-- The attribute that marks the elements and styles of one component. -/
def scopeAttribute (id : String) : String := "data-v-" ++ id

end Playground
