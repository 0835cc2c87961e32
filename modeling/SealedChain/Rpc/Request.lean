import SealedChain.Json.Codec
import SealedChain.Json.Shape

/-!
# Request frames

A request as its sender writes it: a numeric id, a method and a list of parameters. The frame is
its text with the members in a fixed order.
-/
namespace SealedChain.Rpc

def version : String := "2.0"

structure Request where
  version : String
  id : Nat
  method : String
  params : List Json
  deriving DecidableEq

namespace Request

def new (id : Nat) (method : String) (params : List Json) : Request :=
  ⟨Rpc.version, id, method, params⟩

def members (r : Request) : List (String × Json) :=
  [("jsonrpc", .string r.version), ("id", .nat r.id), ("method", .string r.method),
    ("params", .array r.params)]

def toJson (r : Request) : Json := .object r.members

def frame (r : Request) : String := r.toJson.render

def shape : Json.Shape :=
  .record [("jsonrpc", .any), ("id", .any), ("method", .any), ("params", .any)]

def ofJson? (v : Json) : Option Request := do
  let ms ← v.fields? ["jsonrpc", "id", "method", "params"]
  let version ← Json.required? "jsonrpc" Json.string? ms
  let id ← Json.required? "id" Json.unsigned? ms
  let method ← Json.required? "method" Json.string? ms
  let params ← Json.required? "params" Json.array? ms
  return { version, id, method, params }

def ofFrame? (text : String) : Option Request := (Json.parseAs shape text).bind ofJson?

end Request

end SealedChain.Rpc
