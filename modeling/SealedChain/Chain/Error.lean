import SealedChain.Chain.Window
import SealedChain.Rpc.Error

/-!
# Failures of the chain

Why an operation on the chain was refused, the wording of each refusal and the code that a reply
gives it.
-/
namespace SealedChain

inductive ChainError where
  | noTransactions
  | forking (parent head : Hash)
  | unknownBlock (hash : Hash)
  | emptyTransaction
  | stopped
  | window (cause : HashWindow.NotContiguous)
  deriving DecidableEq

namespace ChainError

def message : ChainError → String
  | .noTransactions => "no transactions to include"
  | .forking _ _ => "forking is not supported"
  | .unknownBlock _ => "unknown block"
  | .emptyTransaction => "empty transaction"
  | .stopped => "chain is shutting down"
  | .window cause => cause.message

def code : ChainError → Rpc.ErrorCode
  | .forking _ _ | .unknownBlock _ | .emptyTransaction => .invalidParams
  | .noTransactions | .stopped | .window _ => .internalError

end ChainError

end SealedChain
