import SealedChain.Block.Command
import SealedChain.Block.Record
import SealedChain.Client.Error
import SealedChain.Json.Truth
import SealedChain.Rpc.Method

/-!
# Commands and their acknowledgments

A command asks the node to seal or to finalize a block. Its reply acknowledges it when it has no
error and a result that is true. The acknowledgment of a sealed block names the block.
-/
namespace SealedChain

structure EngineCommand where
  method : String
  params : List Json
  deriving DecidableEq

namespace EngineCommand

def createBlock (command : BlockCommand) : EngineCommand :=
  ⟨Rpc.Method.createBlock.name, command.params⟩

def finalizeBlock (hash : Hash) : EngineCommand :=
  ⟨Rpc.Method.finalizeBlock.name, [.ofWord hash, .null]⟩

end EngineCommand

/-- A result that acknowledges a command. -/
structure Acknowledgment where
  result : Json
  deriving DecidableEq

namespace Acknowledgment

def ofReply (method : String) (reply : Rpc.Reply) : Except ClientError Acknowledgment :=
  match reply.error, reply.result with
  | some e, _ => .error (.protocol method e)
  | none, some v => if v.isTruthy then .ok ⟨v⟩ else .error (.engine reply)
  | none, none => .error (.engine reply)

def created? (a : Acknowledgment) : Option CreatedBlock := CreatedBlock.ofJson? a.result

/-- The hash that the result names. -/
def hash? (a : Acknowledgment) : Option Hash := (a.result.get? "hash").bind (Json.word? 32)

end Acknowledgment

end SealedChain
