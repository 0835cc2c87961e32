import SealedChain.Json.Codec
import SealedChain.Json.Shape

/-!
# Block hashes by height

Past block hashes are read by calling a reserved contract: the calldata is the height as one
thirty-two-byte word, most significant byte first, and the answer is the hash recorded for that
height, or the zero word when none is.
-/
namespace SealedChain

def historyContract : Address := Word.ofNat 20 0x0000f90827f1c53a10cb7a02335b175320002935

/-- What is answered for a height with no recorded hash. -/
def sentinelHash : Hash := Word.zero 32

def defaultHashCount : Nat := 256

/-- A contract call: its target and its calldata under one of two names. -/
structure CallRequest where
  target : Option Address := none
  data : Option Bytes := none
  input : Option Bytes := none
  deriving DecidableEq

def historyCalldata (height : Nat) : Bytes := (Word.ofNat 32 height).toBytes

/-- The height that calldata of one word asks for. -/
def historyHeight? (calldata : Bytes) : Option Nat :=
  (Word.ofBytes? 32 calldata).map Word.toNat

namespace CallRequest

def blockHash (height : Nat) : CallRequest :=
  { target := some historyContract, data := some (historyCalldata height) }

/-- The calldata; the newer name counts before the older one. -/
def calldata (c : CallRequest) : Option Bytes :=
  match c.input with
  | some bs => some bs
  | none => c.data

def members (c : CallRequest) : List (String × Json) :=
  (match c.target with | some a => [("to", .ofWord a)] | none => []) ++
    (match c.data with | some bs => [("data", .ofBytes bs)] | none => []) ++
    (match c.input with | some bs => [("input", .ofBytes bs)] | none => [])

def toJson (c : CallRequest) : Json := .object c.members

def shape : Json.Shape := .record [("to", .word 20), ("data", .any), ("input", .any)]

def ofJson? (v : Json) : Option CallRequest := do
  let ms ← v.fields? ["to", "data", "input"]
  let target ← Json.optionalField? "to" (Json.word? 20) ms
  let data ← Json.optionalField? "data" Json.bytes? ms
  let input ← Json.optionalField? "input" Json.bytes? ms
  return { target, data, input }

end CallRequest

theorem historyHeight?_historyCalldata (height : Nat) (h : height < limit64) :
    historyHeight? (historyCalldata height) = some height := by
  simp only [historyHeight?, historyCalldata, Word.ofBytes?_toBytes, Option.map_some,
    Option.some.injEq, Word.toNat_ofNat]
  exact Nat.mod_eq_of_lt (Nat.lt_of_lt_of_le h (by decide))

end SealedChain
