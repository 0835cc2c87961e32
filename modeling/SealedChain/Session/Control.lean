import SealedChain.Session.Run

/-!
# Sessions from outside

What may be done to a session between its turns, and what can be seen of it after them. Calls and
requests begin tasks, which are numbered in the order in which they begin; everything else happens
at once.
-/
namespace SealedChain

namespace Session

def start (config : ChainConfig) (phase : CommitterPhase) (line : Option Line) : Session :=
  let s : Session := { chain := Chain.start config, committer := phase, line }
  if phase = .dropped then s.stopCommitter .dropped else s

def call? (s : Session) (call : Call) : Option Session :=
  s.line.map fun line => s.spawn (.call (call.errand line.config))

def acknowledgment? (s : Session) (n : Nat) : Option Acknowledgment :=
  (s.acknowledgments.find? (·.1 == n)).map (·.2)

def settleCall? (s : Session) (n : Nat) : Option Session :=
  match s.acknowledgment? n with
  | some ack => s.call? (.settle ack)
  | none => some ((s.spawn .done).finish s.tasks.length .nothingToSettle)

def deliver (s : Session) (frame : String) : Session × Bool :=
  match s.line with
  | some { link := .peer _, connected := true, .. } =>
    if s.clientAlive then (s.pushInbound frame, true) else (s, false)
  | _ => (s, false)

def request? (s : Session) (position : Nat) : Option Rpc.Request :=
  s.line.bind (·.requests[position]?)

def respond (s : Session) (request : Rpc.Request) (result : Json) : Session × Bool :=
  s.deliver (Rpc.Reply.success (.nat request.id) result).frame

def respondError (s : Session) (request : Rpc.Request) (error : Rpc.ErrorObject) :
    Session × Bool :=
  s.deliver (Rpc.Reply.failure (.nat request.id) error).frame

/-- A peer goes away. What is not a peer stays. -/
def disconnect (s : Session) : Session :=
  match s.line with
  | some line =>
    match line.link with
    | .peer _ => (s.setLine { line with connected := false }).wake .dispatcher
    | .node | .server _ => s
  | none => s

/-- The client is kept by its calls alone from now on. -/
def dropClient (s : Session) : Session :=
  match s.line with
  | some line => s.setLine { line with held := false }
  | none => s

/-- Seals a block the given number of times, and gives the last outcome. -/
def create (s : Session) (command : BlockCommand) :
    Nat → Session × Option (Except ChainError CreatedBlock)
  | 0 => (s, none)
  | times + 1 =>
    let (chain, outcome) := s.chain.create command
    let s := s.withChain chain
    if times = 0 then (s, some outcome) else s.create command times

def submit (s : Session) (raw : Bytes) : Session × Except ChainError Hash :=
  let (chain, outcome) := s.chain.submit raw
  (s.withChain chain, outcome)

/-- A committer that was held begins. -/
def startCommitter (s : Session) : Session :=
  if s.committer = .held then { s with committer := .running }.wake .committer else s

def cancelCommitter (s : Session) : Session := { s with cancelled := true }.wake .committer

/-- A committer that never began goes away. -/
def dropCommitter (s : Session) : Session :=
  if s.committer = .held then s.stopCommitter .dropped else s

structure Observation where
  results : List (Nat × TaskResult)
  frames : List String
  clientGone : Bool
  /-- How many exchanges wait for a reply, while the client is held. -/
  pending : Option Nat

def requestsOf (frames : List String) : List Rpc.Request := frames.filterMap Rpc.Request.ofFrame?

def readFrames (s : Session) : Session × List String :=
  match s.line with
  | none => (s, [])
  | some line =>
    let emptied := { line with outbox := [] }
    match line.link with
    | .peer false =>
      let requests := requestsOf line.outbox
      (s.setLine { emptied with requests := line.requests ++ requests },
        requests.map Rpc.Request.frame)
    | .peer true => (s.setLine emptied, line.outbox)
    | .node | .server _ => (s, [])

/-- Whether a peer that is still there has seen the end of the client. -/
def peerSeesEnd (s : Session) : Bool :=
  match s.line with
  | some { link := .peer _, connected := true, .. } => !s.clientAlive
  | _ => false

/-- What can be seen of a session that has settled. What is told is not told again. -/
def observe (s : Session) : Session × Observation :=
  let (s, frames) := s.readFrames
  let results := (List.range s.tasks.length).filterMap fun n => s.results.find? (·.1 == n)
  let pending := match s.line with
    | some line => if line.held then some line.client.pending.length else none
    | none => none
  ({ s with results := [] }, { results, frames, clientGone := s.peerSeesEnd, pending })

end Session

end SealedChain
