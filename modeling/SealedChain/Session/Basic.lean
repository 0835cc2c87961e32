import SealedChain.Client.Call
import SealedChain.Client.Exchange
import SealedChain.Client.Transport.Http
import SealedChain.Node.Http

/-!
# Sessions

A session holds a node, at most one client and the tasks that use them, under a clock that moves
only when told. The committer, the client's dispatcher and every task run in turn until each waits
for a timer or for one of the others.
-/
namespace SealedChain

inductive Link where
  /-- A peer that reads frames and replies as told; a raw one takes every frame as it is. -/
  | peer (raw : Bool)
  | node
  /-- A server that makes these of the frames posted to it, and then cannot be reached. -/
  | server (outcomes : List Http.PostOutcome)

/-- The client of a session and what is on its way to it and from it. -/
structure Line where
  link : Link
  config : ClientConfig
  client : Client := {}
  /-- Whether the client is still held, and not only by its calls. -/
  held : Bool := true
  connected : Bool := true
  inbox : List String := []
  outbox : List String := []
  requests : List Rpc.Request := []

inductive TicketUse where
  | text (id : Json)
  | http (id : Json)
  | result
  | frame (exchange : Running) (id : Json)

inductive Work where
  | call (errand : Errand)
  | respond (body : ByteArray)
  | accept (request : Node.HttpRequest)
  | finalize (hash : Hash)
  | ticket (ticket : Nat) (use : TicketUse)
  | done

def Work.isCall : Work → Bool
  | .call _ | .ticket _ (.frame ..) => true
  | _ => false

inductive TaskResult where
  | call (result : Except ClientError CallAnswer)
  | text (answer : String)
  | http (response : Node.HttpResponse)
  | finalized (result : Except ChainError Unit)
  | nothingToSettle

inductive Activity where
  | committer
  | dispatcher
  | task (number : Nat)
  deriving DecidableEq, Repr

inductive CommitterPhase where
  | held
  | running
  | stopped
  | dropped
  deriving DecidableEq, Repr

structure Timer where
  deadline : Millis
  activity : Activity
  deriving DecidableEq, Repr

structure Session where
  now : Millis := 0
  chain : Chain
  committer : CommitterPhase := .running
  cancelled : Bool := false
  line : Option Line := none
  tasks : List Work := []
  ready : List Activity := []
  timers : List Timer := []
  nextTicket : Nat := 0
  /-- The answers whose tickets have not been taken up. -/
  answers : List TicketAnswer := []
  /-- The results that have not been told. -/
  results : List (Nat × TaskResult) := []
  /-- The acknowledgments by the number of their call. -/
  acknowledgments : List (Nat × Acknowledgment) := []

namespace Session

def wake (s : Session) (a : Activity) : Session :=
  if a ∈ s.ready then s else { s with ready := s.ready ++ [a] }

/-- Lets the activity that is running go on before any other. -/
def goOn (s : Session) (a : Activity) : Session :=
  { s with ready := a :: s.ready.filter (· != a) }

def setTimer (s : Session) (a : Activity) (duration : Millis) : Session :=
  { s with timers := s.timers ++ [⟨s.now + duration, a⟩] }

def hasTimer (s : Session) (a : Activity) : Bool := s.timers.any (·.activity == a)

def dropTimer (s : Session) (a : Activity) : Session :=
  { s with timers := s.timers.filter (·.activity != a) }

def setTask (s : Session) (n : Nat) (w : Work) : Session := { s with tasks := s.tasks.set n w }

def spawn (s : Session) (w : Work) : Session :=
  { s with tasks := s.tasks ++ [w] }.wake (.task s.tasks.length)

def setLine (s : Session) (line : Line) : Session := { s with line := some line }

def finish (s : Session) (n : Nat) (result : TaskResult) : Session :=
  let s := (s.setTask n .done).dropTimer (.task n)
  let s := { s with results := s.results ++ [(n, result)] }
  match result with
  | .call (.ok (.acknowledged ack)) =>
    { s with acknowledgments := s.acknowledgments ++ [(n, ack)] }
  | _ => s

def wakeWhere (s : Session) (test : Work → Bool) : Session :=
  (s.tasks.zipIdx.filter fun (w, _) => test w).foldl (fun s (_, n) => s.wake (.task n)) s

def wakeExchanges (s : Session) (ids : List Nat) : Session :=
  ids.foldl (fun s id => s.wakeWhere fun
    | .call (.await exchange) => exchange.id == id
    | _ => false) s

def deliverAnswers (s : Session) (answers : List TicketAnswer) : Session :=
  answers.foldl (fun s answer => s.wakeWhere fun
    | .ticket t _ => t == answer.ticket
    | _ => false) { s with answers := s.answers ++ answers }

/-- The session with another chain; the committer looks whether there is something to apply. -/
def withChain (s : Session) (chain : Chain) : Session :=
  { s with chain }.wake .committer

def pushInbound (s : Session) (frame : String) : Session :=
  match s.line with
  | none => s
  | some line => (s.setLine { line with inbox := line.inbox ++ [frame] }).wake .dispatcher

def clientAlive (s : Session) : Bool :=
  match s.line with
  | none => false
  | some line => line.held || s.tasks.any Work.isCall

end Session

end SealedChain
