import SealedChain.Json.Codec
import SealedChain.Json.Shape

/-!
# Blocks as callers see them

The acknowledgment of a created block, and the record of a committed block that the queries answer
with.
-/
namespace SealedChain

structure ImportedAux where
  headerOnly : Bool := false
  clearJustificationRequests : Bool := false
  needsJustification : Bool := false
  badJustification : Bool := false
  isNewBest : Bool := false
  deriving DecidableEq, Repr

namespace ImportedAux

def names : List String :=
  ["header_only", "clear_justification_requests", "needs_justification", "bad_justification",
    "is_new_best"]

def members (a : ImportedAux) : List (String × Json) :=
  [("header_only", .bool a.headerOnly),
    ("clear_justification_requests", .bool a.clearJustificationRequests),
    ("needs_justification", .bool a.needsJustification),
    ("bad_justification", .bool a.badJustification),
    ("is_new_best", .bool a.isNewBest)]

def toJson (a : ImportedAux) : Json := .object a.members

def shape : Json.Shape := .record (names.map (·, .any))

def ofJson? (v : Json) : Option ImportedAux := do
  let ms ← v.fields? names
  let headerOnly ← Json.required? "header_only" Json.bool? ms
  let clearJustificationRequests ← Json.required? "clear_justification_requests" Json.bool? ms
  let needsJustification ← Json.required? "needs_justification" Json.bool? ms
  let badJustification ← Json.required? "bad_justification" Json.bool? ms
  let isNewBest ← Json.required? "is_new_best" Json.bool? ms
  return { headerOnly, clearJustificationRequests, needsJustification, badJustification, isNewBest }

end ImportedAux

structure CreatedBlock where
  hash : Hash
  aux : ImportedAux
  deriving DecidableEq

namespace CreatedBlock

def members (b : CreatedBlock) : List (String × Json) :=
  [("hash", .ofWord b.hash), ("aux", b.aux.toJson)]

/-- The acknowledgment with its members in the order in which they are written on their own. -/
def toJson (b : CreatedBlock) : Json := .object b.members

def shape : Json.Shape := .record [("hash", .word 32), ("aux", ImportedAux.shape)]

def ofJson? (v : Json) : Option CreatedBlock := do
  let ms ← v.fields? ["hash", "aux"]
  let hash ← Json.required? "hash" (Json.word? 32) ms
  let aux ← Json.required? "aux" ImportedAux.ofJson? ms
  return { hash, aux }

end CreatedBlock

structure BlockRecord where
  number : Nat
  hash : Hash
  parent : Hash
  transactions : List Hash
  deriving DecidableEq

namespace BlockRecord

def members (b : BlockRecord) : List (String × Json) :=
  [("number", .ofQuantity b.number), ("hash", .ofWord b.hash), ("parentHash", .ofWord b.parent),
    ("transactions", .array (b.transactions.map .ofWord))]

def toJson (b : BlockRecord) : Json := .object b.members

def shape : Json.Shape :=
  .record [("number", .any), ("hash", .word 32), ("parentHash", .word 32),
    ("transactions", .list (.word 32))]

def ofJson? (v : Json) : Option BlockRecord := do
  let ms ← v.fields? ["number", "hash", "parentHash", "transactions"]
  let number ← Json.required? "number" Json.quantity? ms
  let hash ← Json.required? "hash" (Json.word? 32) ms
  let parent ← Json.required? "parentHash" (Json.word? 32) ms
  let transactions ← Json.required? "transactions" (Json.list? (Json.word? 32)) ms
  return { number, hash, parent, transactions }

end BlockRecord

end SealedChain
