import SealedChain.Client.Error

/-!
# Settling

An acknowledged block has settled once its effects can be seen. A client either waits for a fixed
time or asks for the block again and again until it is there. A block that is there counts however
late it is; the time limit is looked at only after a poll that did not find the block.
-/
namespace SealedChain

def defaultSettlingDelay : Millis := 500

/-- How a client waits for an acknowledged block. -/
inductive Settlement where
  | fixedDelay (delay : Millis)
  | awaitBlock (pollInterval timeout : Millis)
  deriving DecidableEq, Repr

namespace Settlement

def default : Settlement := .fixedDelay defaultSettlingDelay

def text : Settlement → String
  | .fixedDelay delay => "FixedDelay(" ++ delay.text ++ ")"
  | .awaitBlock pollInterval timeout =>
    "AwaitBlock \x7b poll_interval: " ++ pollInterval.text ++ ", timeout: " ++ timeout.text ++ " \x7d"

end Settlement

inductive PollVerdict where
  | settled
  | failed (error : ClientError)
  | timedOut
  | again
  deriving DecidableEq

/-- The verdict on a poll that ended `waited` after the first one began: whether it found the
block, or why it failed. -/
def PollVerdict.of (timeout waited : Millis) : Except ClientError Bool → PollVerdict
  | .error e => .failed e
  | .ok true => .settled
  | .ok false => if timeout ≤ waited then .timedOut else .again

end SealedChain
