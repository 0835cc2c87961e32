import SealedChain.Block.History
import SealedChain.Block.Record
import SealedChain.Block.Tag
import SealedChain.Client.Error
import SealedChain.Rpc.Method

/-!
# Queries

A query is a method with its parameters and the type that its result is read as. Its answer is the
error of the reply, or its result so read.
-/
namespace SealedChain

/-- What a reply says to a call that asks for its result. -/
def Rpc.Reply.outcome (method : String) (reply : Rpc.Reply) : Except ClientError Json :=
  match reply.payload with
  | .result v => .ok v
  | .error e => .error (.protocol method e)
  | .empty => .error (.malformedReply method reply)

structure Query (α : Type) where
  method : String
  params : List Json
  decode : Json → Except DecodeFault α

namespace Query

variable {α β : Type}

def request (method : String) (params : List Json) (read? : Json → Option α) : Query α where
  method
  params
  decode v := match read? v with
    | some x => .ok x
    | none => .error .shape

def send (method : String) (params : List Json) : Query Json := ⟨method, params, .ok⟩

def map (f : α → β) (q : Query α) : Query β := { q with decode v := (q.decode v).map f }

def answer (q : Query α) (reply : Rpc.Reply) : Except ClientError α :=
  match reply.outcome q.method with
  | .error e => .error e
  | .ok v => (q.decode v).mapError (.decode q.method)

def chainId : Query Nat := request Rpc.Method.chainId.name [] Json.quantity?

def blockNumber : Query Nat := request Rpc.Method.blockNumber.name [] Json.quantity?

def blockByNumber (tag : BlockTag) : Query (Option BlockRecord) :=
  request Rpc.Method.getBlockByNumber.name [tag.toJson, .bool false]
    (Json.optional? BlockRecord.ofJson?)

def blockByHash (hash : Hash) : Query (Option BlockRecord) :=
  request Rpc.Method.getBlockByHash.name [.ofWord hash, .bool false]
    (Json.optional? BlockRecord.ofJson?)

/-- The hash recorded for a height, asked of the history contract. -/
def blockHashAt (height : Nat) : Query Hash where
  method := Rpc.Method.call.name
  params := [(CallRequest.blockHash height).toJson.sorted, BlockTag.latest.toJson]
  decode v := match v.bytes? with
    | none => .error .shape
    | some bs => match Word.ofBytes? 32 bs with
      | some hash => .ok hash
      | none => .error (.wordSize bs.length)

def sendRawTransaction (raw : Bytes) : Query Hash :=
  request Rpc.Method.sendRawTransaction.name [.ofBytes raw] (Json.word? 32)

end Query

end SealedChain
