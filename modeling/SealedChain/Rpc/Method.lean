/-!
# Method names

The methods that the node answers and the client calls.
-/
namespace SealedChain.Rpc

inductive Method where
  | createBlock
  | finalizeBlock
  | sendRawTransaction
  | blockNumber
  | chainId
  | getBlockByNumber
  | getBlockByHash
  | call
  | netVersion
  deriving DecidableEq, Repr

namespace Method

def all : List Method :=
  [.createBlock, .finalizeBlock, .sendRawTransaction, .blockNumber, .chainId, .getBlockByNumber,
    .getBlockByHash, .call, .netVersion]

def name : Method → String
  | .createBlock => "engine_createBlock"
  | .finalizeBlock => "engine_finalizeBlock"
  | .sendRawTransaction => "eth_sendRawTransaction"
  | .blockNumber => "eth_blockNumber"
  | .chainId => "eth_chainId"
  | .getBlockByNumber => "eth_getBlockByNumber"
  | .getBlockByHash => "eth_getBlockByHash"
  | .call => "eth_call"
  | .netVersion => "net_version"

def ofName? (s : String) : Option Method := all.find? (·.name == s)

theorem ofName?_name (m : Method) : ofName? m.name = some m := by
  cases m <;> decide

theorem name_of_ofName? {s : String} {m : Method} (h : ofName? s = some m) : m.name = s := by
  have := List.find?_some h
  simpa using this

end Method

end SealedChain.Rpc
