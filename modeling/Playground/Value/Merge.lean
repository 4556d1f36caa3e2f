import Playground.Value.Basic

namespace Playground

/-- Merges overrides into a map. Two maps under one key merge in turn; any other override replaces
what it meets. -/
def mergeFields (base : Fields) : Fields → Fields
  | [] => base
  | (k, v) :: overrides =>
    let merged := match v, Assoc.get? k base with
      | .map inner, some (.map current) => .map (mergeFields current inner)
      | _, _ => v
    mergeFields (Assoc.put k merged base) overrides

end Playground
