import SealedChain.Rpc.Error
import SealedChain.Rpc.Request

/-!
# Replies

A reply carries the id of its request and a result, an error, both or neither. A result that is
null is there; a null error is not. The error counts before the result.
-/
namespace SealedChain.Rpc

structure Reply where
  version : Option String
  id : Json
  result : Option Json
  error : Option ErrorObject
  deriving DecidableEq

inductive Payload where
  | result (v : Json)
  | error (e : ErrorObject)
  | empty
  deriving DecidableEq

namespace Reply

def success (id result : Json) : Reply := ⟨some Rpc.version, id, some result, none⟩

def failure (id : Json) (error : ErrorObject) : Reply := ⟨some Rpc.version, id, none, some error⟩

/-- The id of the request that the reply can answer. -/
def correlationId (r : Reply) : Option Nat := r.id.unsigned?

def payload (r : Reply) : Payload :=
  match r.error, r.result with
  | some e, _ => .error e
  | none, some v => .result v
  | none, none => .empty

/-- The members in the order in which they are written; what is absent is left out. -/
def members (r : Reply) : List (String × Json) :=
  (match r.version with | some v => [("jsonrpc", .string v)] | none => []) ++
    ("id", r.id) ::
    ((match r.result with | some v => [("result", v)] | none => []) ++
      (match r.error with | some e => [("error", e.toJson)] | none => []))

def toJson (r : Reply) : Json := .object r.members

def frame (r : Reply) : String := r.toJson.render

def shape : Json.Shape :=
  .record [("jsonrpc", .any), ("id", .any), ("result", .any), ("error", ErrorObject.shape)]

def ofJson? (v : Json) : Option Reply := do
  let ms ← v.fields? ["jsonrpc", "id", "result", "error"]
  let version ← Json.optionalField? "jsonrpc" Json.string? ms
  let error ← Json.optionalField? "error" ErrorObject.ofJson? ms
  return { version, id := (Json.lookup "id" ms).getD .null, result := Json.lookup "result" ms, error }

end Reply

end SealedChain.Rpc
