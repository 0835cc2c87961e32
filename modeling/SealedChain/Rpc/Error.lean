import SealedChain.Json.Codec
import SealedChain.Json.Shape

/-!
# Error objects of the protocol

The error codes of JSON-RPC 2.0 that the node answers with, the wording it lets out for each, and
the error object of a reply.
-/
namespace SealedChain.Rpc

inductive ErrorCode where
  | parseError
  | invalidRequest
  | methodNotFound
  | invalidParams
  | internalError
  | serverError
  deriving DecidableEq, Repr

namespace ErrorCode

def code : ErrorCode → Int
  | .parseError => -32700
  | .invalidRequest => -32600
  | .methodNotFound => -32601
  | .invalidParams => -32602
  | .internalError => -32603
  | .serverError => -32000

/-- The wording for a failure that leaves the node: the detail for faults that the caller can
mend in the parameters, a fixed phrase for the others. -/
def wording (code : ErrorCode) (detail : String) : String :=
  match code with
  | .parseError => "Parse error"
  | .invalidRequest => "Invalid request"
  | .methodNotFound => "Method not found"
  | .internalError => "Internal error"
  | .invalidParams | .serverError => detail

end ErrorCode

structure ErrorObject where
  code : Int
  message : String
  data : Option Json := none
  deriving DecidableEq

namespace ErrorObject

def new (code : ErrorCode) (message : String) : ErrorObject := ⟨code.code, message, none⟩

def members (e : ErrorObject) : List (String × Json) :=
  [("code", .integer e.code), ("message", .string e.message)] ++
    match e.data with
    | none => []
    | some d => [("data", d)]

def toJson (e : ErrorObject) : Json := .object e.members

def shape : Json.Shape := .record [("code", .any), ("message", .any), ("data", .any)]

def ofJson? (v : Json) : Option ErrorObject := do
  let ms ← v.fields? ["code", "message", "data"]
  let code ← Json.required? "code" Json.signed? ms
  let message ← Json.required? "message" Json.string? ms
  let data ← Json.optionalField? "data" some ms
  return { code, message, data }

def display (e : ErrorObject) : String :=
  e.message ++ " (code " ++ String.ofList (Digits.signed e.code) ++ ")"

end ErrorObject

end SealedChain.Rpc
