import SealedChain.Session.Basic

/-!
# Turns

What the committer, the dispatcher and a task do when it is their turn. `settle` lets them run until
each waits; `advance` moves the clock from timer to timer, each of which goes off at its own time.
-/
namespace SealedChain.Session

def applyHeld (s : Session) : Session :=
  let (chain, answers) := s.chain.apply
  let s := { s with chain, committer := if chain.accepting then s.committer else .stopped }
  (s.deliverAnswers answers).goOn .committer

def stopCommitter (s : Session) (phase : CommitterPhase) : Session :=
  let (chain, answers) := s.chain.stop
  ({ s with chain, committer := phase }.dropTimer .committer).deliverAnswers answers

/-- The committer's turn: a sealed block waits for the commit delay before it is applied. -/
def runCommitter (s : Session) : Session :=
  if s.committer ≠ .running then s
  else if s.cancelled then s.stopCommitter .stopped
  else match s.chain.inHand with
    | some _ => if s.hasTimer .committer then s else s.applyHeld
    | none =>
      let chain := s.chain.take
      match chain.inHand with
      | none => s
      | some (.commit _) =>
        let s := { s with chain }
        if 0 < chain.config.commitDelay then s.setTimer .committer chain.config.commitDelay
        else s.applyHeld
      | some (.finalize ..) => { s with chain }.applyHeld

/-- The dispatcher's turn: it routes every frame, and closes the client when no more can come. -/
def runDispatcher (s : Session) : Session :=
  match s.line with
  | none => s
  | some line =>
    let client := line.client.dispatch line.inbox !line.connected
    let answered := (line.inbox.flatMap repliesOf).filterMap (·.correlationId)
    (s.setLine { line with inbox := [], client }).wakeExchanges
      ((answered ++ line.client.pending).filter fun id =>
        id ∈ line.client.pending && !(id ∈ client.pending))

def goOnward (s : Session) (n : Nat) : Onward → Session
  | .ended result => s.finish n (.call result)
  | .sleep delay waking =>
    let s := s.setTask n (.call (.sleep waking))
    if delay = 0 then s.goOn (.task n) else s.setTimer (.task n) delay

/-- A task looks how its exchange ended, if it has. -/
def concludeExchange (s : Session) (n : Nat) (line : Line) (exchange : Running) : Session :=
  match line.client.find? exchange.id with
  | some ⟨_, method, params, .ended (.error cause), _⟩ =>
    s.finish n (.call (.error (.transport method params cause)))
  | some ⟨_, method, _, .ended (.ok reply), _⟩ =>
    (s.dropTimer (.task n)).goOnward n
      (exchange.goal.onward line.config.settlement s.now method reply)
  | _ => s

def pollExchange (s : Session) (n : Nat) (line : Line) (exchange : Running) : Session :=
  let received := line.client.step (.receive exchange.id)
  let client :=
    if s.hasTimer (.task n) then received
    else received.step (.timeOut exchange.id exchange.limit)
  let line := { line with client }
  (s.setLine line).concludeExchange n line exchange

/-- The frame of an exchange is carried, or it is not, and the exchange waits for its reply. -/
def afterSending (s : Session) (n : Nat) (line : Line) (exchange : Running)
    (result : Except TransportError Unit) : Session :=
  let line := { line with client := line.client.step (.sent exchange.id result) }
  ((s.setLine line).setTask n (.call (.await exchange))).pollExchange n line exchange

def postToNode (s : Session) (n : Nat) (line : Line) (exchange : Running) (frame : String) :
    Session :=
  match Node.accept s.chain s.nextTicket ⟨"POST", "/", frame.toUTF8⟩ with
  | (chain, .responded response) =>
    let s := (s.withChain chain).wake .dispatcher
    s.afterSending n { line with inbox := line.inbox ++ [response.body] } exchange (.ok ())
  | (chain, .awaiting id) =>
    let s := s.setTask n (.ticket s.nextTicket (.frame exchange id))
    { s.withChain chain with nextTicket := s.nextTicket + 1 }.pollExchange n line exchange

/-- Hands the frame of an exchange to what carries it. -/
def sendFrame (s : Session) (n : Nat) (line : Line) (exchange : Running) (frame : String) :
    Session :=
  match line.link with
  | .peer _ =>
    if line.connected then
      s.afterSending n { line with outbox := line.outbox ++ [frame] } exchange (.ok ())
    else s.afterSending n line exchange (.error .closed)
  | .node => (s.setLine line).postToNode n line exchange frame
  | .server outcomes =>
    let line := { line with link := .server outcomes.tail }
    match Http.receive frame (outcomes.headD (.failed .unreachable)) with
    | .ok inbound =>
      (s.wake .dispatcher).afterSending n { line with inbox := line.inbox ++ [inbound] } exchange
        (.ok ())
    | .error cause => s.afterSending n line exchange (.error cause)

def startExchange (s : Session) (n : Nat) (line : Line) (method : String) (params : List Json)
    (limit : Millis) (goal : Goal) : Session :=
  if method = "" then s.finish n (.call (.error .emptyMethod))
  else
    let id := line.client.nextId
    let client := (line.client.step (.start method params)).step (.check id)
    let line := { line with client }
    let exchange := { id, limit, goal }
    match client.stage? id with
    | some .sending =>
      let s := if limit = 0 then s else s.setTimer (.task n) limit
      s.sendFrame n line exchange (Rpc.Request.new id method params).frame
    | _ => (s.setLine line).concludeExchange n line exchange

def useTicket (s : Session) (n : Nat) (use : TicketUse) (result : Except ChainError Unit) :
    Session :=
  match use with
  | .text id => s.finish n (.text (Node.finalizedText id result))
  | .http id => s.finish n (.http (.ofAnswer (Node.finalizedText id result)))
  | .result => s.finish n (.finalized result)
  | .frame exchange id =>
    match s.line with
    | none => s
    | some line =>
      let line := { line with inbox := line.inbox ++ [Node.finalizedText id result] }
      (s.wake .dispatcher).afterSending n line exchange (.ok ())

/-- A task looks for the answer to its ticket, or gives up when the time of its exchange is over. -/
def pollTicket (s : Session) (n ticket : Nat) (use : TicketUse) : Session :=
  match s.answers.find? (·.ticket == ticket), use, s.line with
  | some answer, _, _ =>
    { s with answers := s.answers.filter (·.ticket != ticket) }.useTicket n use answer.result
  | none, .frame exchange _, some line => s.pollExchange n line exchange
  | none, _, _ => s

def runErrand (s : Session) (n : Nat) (line : Line) : Errand → Session
  | .exchange method params limit goal => s.startExchange n line method params limit goal
  | .await exchange => s.pollExchange n line exchange
  | .settle ack answer => s.goOnward n (line.config.settlement.onward s.now ack answer)
  | .sleep waking =>
    if s.hasTimer (.task n) then s
    else match waking with
      | .answer answer => s.finish n (.call (.ok answer))
      | .poll polling =>
        let q := polling.query
        s.startExchange n line q.method q.params line.config.requestTimeout (.poll polling)

def runTask (s : Session) (n : Nat) : Session :=
  match s.tasks[n]?, s.line with
  | some (.call errand), some line => s.runErrand n line errand
  | some (.respond body), _ =>
    match Node.respond s.chain s.nextTicket body with
    | (chain, .answered text) => (s.withChain chain).finish n (.text text)
    | (chain, .awaiting id) =>
      let s := s.setTask n (.ticket s.nextTicket (.text id))
      { s.withChain chain with nextTicket := s.nextTicket + 1 }
  | some (.accept request), _ =>
    match Node.accept s.chain s.nextTicket request with
    | (chain, .responded response) => (s.withChain chain).finish n (.http response)
    | (chain, .awaiting id) =>
      let s := s.setTask n (.ticket s.nextTicket (.http id))
      { s.withChain chain with nextTicket := s.nextTicket + 1 }
  | some (.finalize hash), _ =>
    match s.chain.finalize? hash s.nextTicket with
    | none => s.finish n (.finalized (.error .stopped))
    | some chain =>
      let s := s.setTask n (.ticket s.nextTicket .result)
      { s.withChain chain with nextTicket := s.nextTicket + 1 }
  | some (.ticket ticket use), _ => s.pollTicket n ticket use
  | _, _ => s

def run (s : Session) : Activity → Session
  | .committer => s.runCommitter
  | .dispatcher => s.runDispatcher
  | .task n => s.runTask n

/-- Lets the activities run in turn, at most as many times as told, until none is ready. -/
def runReady : (turns : Nat) → Session → Session
  | 0, s => s
  | turns + 1, s =>
    match s.ready with
    | [] => s
    | a :: rest => runReady turns ({ s with ready := rest }.run a)

/-- More turns than a session takes at one time, unless something polls without a pause for what
never comes. -/
def maxTurns : Nat := 1000000

def settle (s : Session) : Session := runReady maxTurns s

def nextDeadline? (s : Session) : Option Millis := (s.timers.map (·.deadline)).min?

/-- The clock moves to a time, and the timers of that time go off in the order in which they were
set. -/
def fire (s : Session) (time : Millis) : Session :=
  let due := s.timers.filter (·.deadline ≤ time)
  let rest := s.timers.filter (time < ·.deadline)
  due.foldl (fun s timer => s.wake timer.activity) { s with now := time, timers := rest }

/-- The clock moves from `now` to `target`, stopping at each timer on its way. -/
def advanceTo (now target : Millis) (s : Session) : Session :=
  match s.nextDeadline? with
  | none => { s with now := target }
  | some time =>
    if h : now < time ∧ time ≤ target then
      have : target - time < target - now := Nat.sub_lt_sub_left (Nat.lt_of_lt_of_le h.1 h.2) h.1
      advanceTo time target (s.fire time).settle
    else { s with now := target }
termination_by target - now

def advance (s : Session) (duration : Millis) : Session :=
  advanceTo s.now (s.now + duration) s

end SealedChain.Session
