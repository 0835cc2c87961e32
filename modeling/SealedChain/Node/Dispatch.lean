import SealedChain.Chain.Basic
import SealedChain.Node.Envelope
import SealedChain.Rpc.Method

/-!
# Answers of the node

`respond` answers the body of a request: too large a body, text that is no value, a faulty envelope
and an unknown method are refused in that order, then the method's own checks apply. Every answer
is one object with a result or an error under the id of the request. The answer to a finalization
comes once the committer has applied it.
-/
namespace SealedChain.Node

def maxBodySize : Nat := 10 * 1024 * 1024

inductive MethodFault where
  | unknownMethod
  | params (fault : ParamFault)
  | command (fault : BlockCommand.ParamsError)
  | foreignTarget
  | calldata
  | chain (error : ChainError)
  deriving DecidableEq

namespace MethodFault

def code : MethodFault → Rpc.ErrorCode
  | .unknownMethod => .methodNotFound
  | .params _ | .command _ | .calldata => .invalidParams
  | .foreignTarget => .serverError
  | .chain e => e.code

def message : MethodFault → String
  | .unknownMethod => "Method not found"
  | .params fault => fault.message
  | .command fault => fault.message
  | .foreignTarget => "execution is not supported"
  | .calldata => "Calldata must be a single 32-byte block number"
  | .chain e => e.message

end MethodFault

def successText (id result : Json) : String :=
  (Json.ofMembers [("jsonrpc", .string Rpc.version), ("result", result), ("id", id)]).render

def errorText (id : Json) (code : Rpc.ErrorCode) (message : String) : String :=
  let error := Json.ofMembers [("code", .integer code.code), ("message", .string message)]
  (Json.ofMembers [("jsonrpc", .string Rpc.version), ("error", error), ("id", id)]).render

def answerText (id : Json) : Except MethodFault Json → String
  | .ok result => successText id result
  | .error fault => errorText id fault.code fault.message

def recordOrNull : Option BlockRecord → Json
  | some b => b.toJson.sorted
  | none => .null

def asParams {α : Type} : Except ParamFault α → Except MethodFault α
  | .ok x => .ok x
  | .error fault => .error (.params fault)

/-- Answers a query, which leaves the chain as it is; none if the method is not a query. -/
def query? (c : Chain) (e : Envelope) : Rpc.Method → Option (Except MethodFault Json)
  | .blockNumber => some do
    asParams (e.atMost 0)
    return .ofQuantity c.blockNumber
  | .chainId => some do
    asParams (e.atMost 0)
    return .ofQuantity c.config.chainId
  | .netVersion => some do
    asParams (e.atMost 0)
    return .string (String.ofList (Digits.decimal c.config.chainId))
  | .getBlockByNumber => some do
    asParams (e.atMost 2)
    let tag ← asParams (e.param 0 BlockTag.ofJson?)
    let _ ← asParams (e.optionalParam 1 Json.bool?)
    return recordOrNull (c.blockByNumber? tag)
  | .getBlockByHash => some do
    asParams (e.atMost 2)
    let hash ← asParams (e.param 0 (Json.word? 32))
    let _ ← asParams (e.optionalParam 1 Json.bool?)
    return recordOrNull (c.blockByHash? hash)
  | .call => some do
    asParams (e.atMost 2)
    let call ← asParams (e.param 0 CallRequest.ofJson?)
    let _ ← asParams (e.optionalParam 1 BlockTag.ofJson?)
    if call.target ≠ some historyContract then throw .foreignTarget
    match call.calldata.bind historyHeight? with
    | none => throw .calldata
    | some height =>
      let hash := if height < limit64 then c.blockHash height else sentinelHash
      return .ofBytes hash.toBytes
  | .createBlock | .finalizeBlock | .sendRawTransaction => none

def commandOf (e : Envelope) : Except MethodFault BlockCommand :=
  match BlockCommand.ofParams e.args with
  | .ok command => .ok command
  | .error fault => .error (.command fault)

/-- The transaction that a request submits. -/
def transactionOf (e : Envelope) : Except MethodFault Bytes := do
  asParams (e.atMost 1)
  asParams (e.param 0 Json.bytes?)

/-- The block that a request finalizes. Any second parameter is accepted. -/
def finalizedOf (e : Envelope) : Except MethodFault Hash := do
  asParams (e.atMost 2)
  asParams (e.param 0 (Json.word? 32))

/-- What becomes of a request. -/
inductive Outcome where
  | answered (text : String)
  /-- Its answer, under this id, comes with the answer to its ticket. -/
  | awaiting (id : Json)
  deriving DecidableEq

def finalizedText (id : Json) (result : Except ChainError Unit) : String :=
  answerText id (match result with
    | .ok () => .ok (.bool true)
    | .error e => .error (.chain e))

/-- Runs the method of a request on the chain. A finalization is queued under the ticket. -/
def run (c : Chain) (ticket : Nat) (e : Envelope) : Chain × Outcome :=
  let answer := fun r => Outcome.answered (answerText e.id r)
  match Rpc.Method.ofName? e.method with
  | none => (c, answer (.error .unknownMethod))
  | some .createBlock =>
    match commandOf e with
    | .error fault => (c, answer (.error fault))
    | .ok command =>
      match c.create command with
      | (c, .ok created) => (c, answer (.ok created.toJson.sorted))
      | (c, .error error) => (c, answer (.error (.chain error)))
  | some .sendRawTransaction =>
    match transactionOf e with
    | .error fault => (c, answer (.error fault))
    | .ok raw =>
      match c.submit raw with
      | (c, .ok hash) => (c, answer (.ok (.ofWord hash)))
      | (c, .error error) => (c, answer (.error (.chain error)))
  | some .finalizeBlock =>
    match finalizedOf e with
    | .error fault => (c, answer (.error fault))
    | .ok hash =>
      match c.finalize? hash ticket with
      | some c => (c, .awaiting e.id)
      | none => (c, answer (.error (.chain .stopped)))
  | some method =>
    match query? c e method with
    | some result => (c, answer result)
    | none => (c, answer (.error .unknownMethod))

def respond (c : Chain) (ticket : Nat) (body : ByteArray) : Chain × Outcome :=
  if maxBodySize < body.size then
    (c, .answered (errorText .null .invalidRequest "Request too large"))
  else match Json.parseBytes body with
    | none => (c, .answered (errorText .null .parseError "Parse error"))
    | some v =>
      match Envelope.validate v with
      | .error fault =>
        (c, .answered (errorText (Envelope.detectId v) fault.code (fault.code.wording fault.message)))
      | .ok e => run c ticket e

end SealedChain.Node
