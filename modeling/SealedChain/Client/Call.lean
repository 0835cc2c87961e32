import SealedChain.Client.Acknowledgment
import SealedChain.Client.Query
import SealedChain.Client.Settlement

/-!
# Calls

What is asked of a client, and how a call goes on after each thing that it waited for: it exchanges
a request for a reply, settles what was acknowledged, sleeps, or ends. A block that was acknowledged
with its hash is asked for until it is there, if the client settles so.
-/
namespace SealedChain

structure ClientConfig where
  requestTimeout : Millis := 30000
  settlement : Settlement := .default
  deriving DecidableEq, Repr

inductive CallAnswer where
  | value (v : Json)
  | reply (r : Rpc.Reply)
  | number (n : Nat)
  | hash (h : Hash)
  | block (b : Option BlockRecord)
  | acknowledged (a : Acknowledgment)
  | settled
  deriving DecidableEq

inductive Call where
  | query (q : Query CallAnswer) (timeout : Option Millis)
  | exchange (method : String) (params : List Json)
  | command (command : EngineCommand) (settles : Bool)
  | settle (ack : Acknowledgment)

structure Polling where
  hash : Hash
  interval : Millis
  timeout : Millis
  began : Millis
  /-- What the call ends with once the block is visible. -/
  answer : CallAnswer

/-- What the reply to an exchange is for. -/
inductive Goal where
  | query (q : Query CallAnswer)
  | reply
  | acknowledge (settles : Bool)
  | poll (polling : Polling)

inductive Waking where
  | answer (answer : CallAnswer)
  | poll (polling : Polling)

/-- An exchange that has been registered, and the time that it has. -/
structure Running where
  id : Nat
  limit : Millis
  goal : Goal

inductive Errand where
  | exchange (method : String) (params : List Json) (limit : Millis) (goal : Goal)
  | await (exchange : Running)
  | settle (ack : Acknowledgment) (answer : CallAnswer)
  | sleep (waking : Waking)

/-- How a call goes on. -/
inductive Onward where
  | ended (result : Except ClientError CallAnswer)
  | sleep (delay : Millis) (waking : Waking)

def Call.errand (config : ClientConfig) : Call → Errand
  | .query q timeout =>
    .exchange q.method q.params (timeout.getD config.requestTimeout) (.query q)
  | .exchange method params => .exchange method params config.requestTimeout .reply
  | .command c settles => .exchange c.method c.params config.requestTimeout (.acknowledge settles)
  | .settle ack => .settle ack .settled

def Polling.query (polling : Polling) : Query (Option BlockRecord) :=
  Query.blockByHash polling.hash

/-- A call waits for the block of an acknowledgment, and then ends with the answer. -/
def Settlement.onward (settlement : Settlement) (now : Millis) (ack : Acknowledgment)
    (answer : CallAnswer) : Onward :=
  let pause := fun (delay : Millis) =>
    if delay = 0 then Onward.ended (.ok answer) else .sleep delay (.answer answer)
  match settlement, ack.hash? with
  | .fixedDelay delay, _ => pause delay
  | .awaitBlock .., none => pause defaultSettlingDelay
  | .awaitBlock interval timeout, some hash =>
    .sleep 0 (.poll { hash, interval, timeout, began := now, answer })

def Polling.onward (polling : Polling) (now : Millis)
    (answer : Except ClientError (Option BlockRecord)) : Onward :=
  let waited := now - polling.began
  match PollVerdict.of polling.timeout waited (answer.map Option.isSome) with
  | .settled => .ended (.ok polling.answer)
  | .failed e => .ended (.error e)
  | .timedOut => .ended (.error (.settleTimeout polling.hash waited))
  | .again => .sleep polling.interval (.poll polling)

def Goal.onward (goal : Goal) (settlement : Settlement) (now : Millis) (method : String)
    (reply : Rpc.Reply) : Onward :=
  match goal with
  | .query q => .ended (q.answer reply)
  | .reply => .ended (.ok (.reply reply))
  | .acknowledge settles =>
    match Acknowledgment.ofReply method reply with
    | .error e => .ended (.error e)
    | .ok ack =>
      if settles then settlement.onward now ack (.acknowledged ack)
      else .ended (.ok (.acknowledged ack))
  | .poll polling => polling.onward now (polling.query.answer reply)

end SealedChain
