import SealedChain.Json.Basic

/-!
# Truth of a value

Null, false, zero of any kind and everything empty are false; all else is true.
-/
namespace SealedChain.Json

def isTruthy : Json → Bool
  | .null => false
  | .bool b => b
  | .integer i => i != 0
  | .real x => !x.isZero
  | .string s => s != ""
  | .array items => !items.isEmpty
  | .object members => !members.isEmpty

end SealedChain.Json
