import SealedChain.Rpc.Error
import SealedChain.Rpc.Request

/-!
# Envelopes of requests

A request is an object that names the protocol version and a method, with an optional id and
optional parameters in a list. `validate` reports the first fault that it meets; `detectId` finds
the id of a faulty request, if it has one to answer to.
-/
namespace SealedChain.Node

inductive EnvelopeFault where
  | notObject
  | version
  | otherVersion
  | method
  | emptyMethod
  | id
  | params
  deriving DecidableEq, Repr

namespace EnvelopeFault

def code : EnvelopeFault → Rpc.ErrorCode
  | .params => .invalidParams
  | _ => .invalidRequest

def message : EnvelopeFault → String
  | .notObject => "Request must be a JSON object"
  | .version => "Missing or invalid 'jsonrpc' field"
  | .otherVersion => "JSON-RPC version must be 2.0"
  | .method => "Missing or invalid 'method' field"
  | .emptyMethod => "Method must not be empty"
  | .id => "Id must be a number, a string or null"
  | .params => "Params must be an array or null"

end EnvelopeFault

structure Envelope where
  version : String
  method : String
  params : Option (List Json)
  id : Json
  deriving DecidableEq

inductive ParamFault where
  | missing
  | undecodable
  | tooMany
  deriving DecidableEq, Repr

def ParamFault.message : ParamFault → String
  | .missing => "Missing parameter"
  | .undecodable => "Failed to deserialize parameter"
  | .tooMany => "Too many parameters"

namespace Envelope

def isId (v : Json) : Bool := v.isNumber || v.isString || v == .null

/-- The id of a request that may be faulty: null unless its id is a number or a string. -/
def detectId (v : Json) : Json :=
  match v.get? "id" with
  | some id => if id.isNumber || id.isString then id else .null
  | none => .null

def paramsOf : Option Json → Except EnvelopeFault (Option (List Json))
  | some (.array items) => .ok (some items)
  | some .null | none => .ok none
  | some _ => .error .params

def validate (v : Json) : Except EnvelopeFault Envelope :=
  match v with
  | .object members =>
    match (Json.lookup "jsonrpc" members).bind Json.string? with
    | none => .error .version
    | some version =>
      if version ≠ Rpc.version then .error .otherVersion
      else match (Json.lookup "method" members).bind Json.string? with
        | none => .error .method
        | some method =>
          if method = "" then .error .emptyMethod
          else
            let id := (Json.lookup "id" members).getD .null
            if !isId id then .error .id
            else (paramsOf (Json.lookup "params" members)).map fun params =>
              { version, method, params, id }
  | _ => .error .notObject

/-- The parameters by position; none were sent, none are there. -/
def args (e : Envelope) : List Json := e.params.getD []

def param {α : Type} (e : Envelope) (index : Nat) (read? : Json → Option α) :
    Except ParamFault α :=
  match e.args[index]? with
  | none => .error .missing
  | some v =>
    match read? v with
    | none => .error .undecodable
    | some x => .ok x

def optionalParam {α : Type} (e : Envelope) (index : Nat) (read? : Json → Option α) :
    Except ParamFault (Option α) :=
  match e.args[index]? with
  | none | some .null => .ok none
  | some v =>
    match read? v with
    | none => .error .undecodable
    | some x => .ok (some x)

def atMost (e : Envelope) (count : Nat) : Except ParamFault Unit :=
  if count < e.args.length then .error .tooMany else .ok ()

end Envelope

end SealedChain.Node
