import SealedChain.Client.Call
import SealedChain.Proofs.Call.Post
import SealedChain.Proofs.Chain.Replay
import SealedChain.Proofs.Chain.Visible
import SealedChain.Proofs.Client.Ending

/-!
# A node and its engines

Engines share one node. Each has a client of its own, whose frames it posts to the node, and any
number of calls under way at a time. Everything falls between everything else: the committer works
at its own pace, others send the node requests of their own, exchanges end and are given up, and
calls go on whenever it is their turn. A frame that has been registered can reach the node at any
time and more than once, and what the node responds is on its way from then on: it can come in at
any time, more than once or never. So whatever a network does with frames is among the runs.
-/
namespace SealedChain

/-- A frame that the node has taken, and the ticket that its answer waits for. -/
structure Posted where
  ticket : Nat
  frame : String
  id : Json

/-- How far a call has come. -/
inductive Standing where
  | under (errand : Errand)
  | ended (result : Except ClientError CallAnswer)

def Onward.standing : Onward → Standing
  | .ended result => .ended result
  | .sleep _ waking => .under (.sleep waking)

structure Undertaking where
  call : Call
  standing : Standing

structure Engine where
  config : ClientConfig
  line : Dispatcher := {}
  calls : List Undertaking := []
  posted : List Posted := []
  inbound : List String := []

namespace Engine

def client (e : Engine) : Client := e.line.client

def begin (e : Engine) (call : Call) : Engine :=
  { e with calls := e.calls ++ [⟨call, .under (call.errand e.config)⟩] }

def setCall (e : Engine) (k : Nat) (standing : Standing) : Engine :=
  { e with calls := e.calls.modify k fun u => { u with standing } }

def move (e : Engine) (event : Dispatcher.Event) : Engine := { e with line := e.line.step event }

def startExchange (e : Engine) (k : Nat) (method : String) (params : List Json) (limit : Millis)
    (goal : Goal) : Engine :=
  if method = "" then e.setCall k (.ended (.error .emptyMethod))
  else
    (e.move (.call (.start method params) rfl)).setCall k
      (.under (.await ⟨e.client.nextId, limit, goal⟩))

/-- The turn of a call. How long a sleep was has no part in it. -/
def turn (e : Engine) (now : Millis) (k : Nat) : Errand → Engine
  | .exchange method params limit goal => e.startExchange k method params limit goal
  | .await exchange =>
    match e.client.find? exchange.id with
    | some ⟨_, method, params, .ended (.error cause), _⟩ =>
      e.setCall k (.ended (.error (.transport method params cause)))
    | some ⟨_, method, _, .ended (.ok reply), _⟩ =>
      e.setCall k (exchange.goal.onward e.config.settlement now method reply).standing
    | _ => e
  | .settle ack answer => e.setCall k (e.config.settlement.onward now ack answer).standing
  | .sleep (.answer answer) => e.setCall k (.ended (.ok answer))
  | .sleep (.poll polling) =>
    let q := polling.query
    e.startExchange k q.method q.params e.config.requestTimeout (.poll polling)

def hear (e : Engine) (frame : String) (response : Node.HttpResponse) : Engine :=
  match Http.receive frame (.response response.status response.body) with
  | .ok inbound => { e with inbound := e.inbound ++ [inbound] }
  | .error _ => e

theorem hear_eq (e : Engine) {frame inbound : String} {response : Node.HttpResponse}
    (h : Http.receive frame (.response response.status response.body) = .ok inbound) :
    e.hear frame response = { e with inbound := e.inbound ++ [inbound] } := by
  rw [hear, h]

/-- The node has taken a frame: it responds at once, or the frame waits for the answer to a ticket. -/
def take (e : Engine) (ticket : Nat) (frame : String) : Node.HttpOutcome → Engine
  | .responded response => e.hear frame response
  | .awaiting id => { e with posted := e.posted ++ [⟨ticket, frame, id⟩] }

def tell (e : Engine) (answer : TicketAnswer) : Engine :=
  match e.posted.find? (·.ticket == answer.ticket) with
  | some p =>
    { e with posted := e.posted.filter (·.ticket != answer.ticket) }.hear p.frame
      (.ofAnswer (Node.finalizedText p.id answer.result))
  | none => e

end Engine

structure Deployment where
  chain : Chain
  nextTicket : Nat := 0
  now : Millis := 0
  engines : Nat → Engine

namespace Deployment

def start (config : ChainConfig) (configs : Nat → ClientConfig) : Deployment where
  chain := .start config
  engines i := { config := configs i }

def modify (d : Deployment) (i : Nat) (f : Engine → Engine) : Deployment :=
  { d with engines := fun j => if j = i then f (d.engines j) else d.engines j }

inductive Event where
  | pass (duration : Millis)
  /-- The committer, or a caller that the chain has at its own place. -/
  | chain (event : Chain.Event)
  | request (r : Node.HttpRequest)
  | call (engine : Nat) (call : Call)
  | turn (engine call : Nat)
  | exchange (engine : Nat) (event : Client.Event) (own : event.isCall = true)
  | post (engine id : Nat)
  | arrive (engine k : Nat)
  | hangUp (engine : Nat)
  | dispatch (engine : Nat)

def post (d : Deployment) (i : Nat) (frame : String) : Deployment :=
  let accepted := Node.accept d.chain d.nextTicket ⟨"POST", "/", frame.toUTF8⟩
  { d with chain := accepted.1, nextTicket := d.nextTicket + 1 }.modify i
    (·.take d.nextTicket frame accepted.2)

def step (d : Deployment) : Event → Deployment
  | .pass duration => { d with now := d.now + duration }
  | .chain event =>
    { d with
      chain := d.chain.step event
      engines := fun i => (d.chain.answers event).foldl Engine.tell (d.engines i) }
  | .request r =>
    { d with
      chain := (Node.accept d.chain d.nextTicket r).1
      nextTicket := d.nextTicket + 1 }
  | .call i call => d.modify i (·.begin call)
  | .turn i k =>
    match (d.engines i).calls[k]? with
    | some ⟨_, .under errand⟩ => d.modify i fun e => e.turn d.now k errand
    | _ => d
  | .exchange i event own => d.modify i (·.move (.call event own))
  | .post i id =>
    match (d.engines i).client.find? id with
    | some e => d.post i e.frame
    | none => d
  | .arrive i k =>
    match (d.engines i).inbound[k]? with
    | some frame => d.modify i (·.move (.arrive frame))
    | none => d
  | .hangUp i => d.modify i (·.move .hangUp)
  | .dispatch i => d.modify i (·.move .next)

def run (d : Deployment) (es : List Event) : Deployment := es.foldl step d

def sealing (d : Deployment) : List Event → List SealedBlock
  | [] => []
  | e :: es => d.chain.queuedBetween (d.step e).chain ++ (d.step e).sealing es

theorem run_nil (d : Deployment) : d.run [] = d := rfl

theorem run_append (d : Deployment) (es fs : List Event) :
    d.run (es ++ fs) = (d.run es).run fs :=
  List.foldl_append

theorem run_concat (d : Deployment) (es : List Event) (e : Event) :
    d.run (es ++ [e]) = (d.run es).step e := by
  rw [run_append]
  rfl

theorem sealing_append (d : Deployment) (es fs : List Event) :
    d.sealing (es ++ fs) = d.sealing es ++ (d.run es).sealing fs := by
  induction es generalizing d with
  | nil => rfl
  | cons e es ih =>
    simp only [List.cons_append, sealing, ih, List.append_assoc]
    rfl

theorem sealing_concat (d : Deployment) (es : List Event) (e : Event) :
    d.sealing (es ++ [e]) =
      d.sealing es ++ (d.run es).chain.queuedBetween ((d.run es).step e).chain := by
  rw [sealing_append]
  simp [sealing]

@[simp] theorem chain_modify (d : Deployment) (i : Nat) (f : Engine → Engine) :
    (d.modify i f).chain = d.chain := rfl

theorem engines_modify_self (d : Deployment) (i : Nat) (f : Engine → Engine) :
    (d.modify i f).engines i = f (d.engines i) := if_pos rfl

theorem engines_modify_ne (d : Deployment) {i j : Nat} (f : Engine → Engine) (h : j ≠ i) :
    (d.modify i f).engines j = d.engines j := if_neg h

end Deployment

theorem Node.accept_change (c : Chain) (ticket : Nat) (r : HttpRequest) :
    Chain.Change c (accept c ticket r).1 (c.queuedBetween (accept c ticket r).1) := by
  rcases accept_changed c ticket r with hsame | ⟨e, hstep⟩
  · rw [hsame, Chain.Change.same.queuedBetween]
    exact .same
  · rw [hstep, (c.step_change e).queuedBetween]
    exact c.step_change e

namespace Deployment

theorem step_change (d : Deployment) (e : Event) :
    Chain.Change d.chain (d.step e).chain (d.chain.queuedBetween (d.step e).chain) := by
  have unchanged : Chain.Change d.chain d.chain (d.chain.queuedBetween d.chain) := by
    rw [Chain.Change.same.queuedBetween]
    exact .same
  cases e with
  | chain event =>
    have hchange := d.chain.step_change event
    rw [← hchange.queuedBetween] at hchange
    exact hchange
  | request r => exact Node.accept_change _ _ r
  | post i id =>
    simp only [step]
    split
    · exact Node.accept_change _ _ _
    · exact unchanged
  | turn | arrive =>
    simp only [step]
    split <;> exact unchanged
  | _ => exact unchanged

end Deployment

/-- What an event can do to an engine while the chain changes from the one to the other. -/
inductive Engine.Change (c : Chain) (e : Engine) : Chain → Engine → Prop
  | same (c' : Chain) : Change c e c' e
  | told (c' : Chain) (answers : List TicketAnswer) : Change c e c' (answers.foldl tell e)
  | began (c' : Chain) (call : Call) : Change c e c' (e.begin call)
  | turned (c' : Chain) (k : Nat) (call : Call) (errand : Errand) (now : Millis)
      (under : e.calls[k]? = some ⟨call, .under errand⟩) : Change c e c' (e.turn now k errand)
  | moved (c' : Chain) (event : Dispatcher.Event)
      (sent : ∀ frame, event = .arrive frame → frame ∈ e.inbound) : Change c e c' (e.move event)
  | taken (ticket : Nat) (x : Exchange) (asked : x ∈ e.client.exchanges) :
      Change c e (Node.accept c ticket ⟨"POST", "/", x.frame.toUTF8⟩).1
        (e.take ticket x.frame (Node.accept c ticket ⟨"POST", "/", x.frame.toUTF8⟩).2)

namespace Deployment

theorem step_engine (d : Deployment) (event : Event) (i : Nat) :
    Engine.Change d.chain (d.engines i) (d.step event).chain ((d.step event).engines i) := by
  have modified : ∀ (d' : Deployment) (j : Nat) (f : Engine → Engine),
      d'.engines i = d.engines i →
      (i = j → Engine.Change d.chain (d.engines i) d'.chain (f (d.engines i))) →
      Engine.Change d.chain (d.engines i) (d'.modify j f).chain ((d'.modify j f).engines i) := by
    intro d' j f hsame hf
    by_cases hij : i = j
    · rw [← hij, engines_modify_self, hsame]
      exact hf hij
    · rw [engines_modify_ne d' f hij, hsame]
      exact .same _
  have moved : ∀ {j : Nat} (event : Dispatcher.Event),
      (∀ frame, event = .arrive frame → frame ∈ (d.engines j).inbound) →
      Engine.Change d.chain (d.engines i) d.chain ((d.modify j (·.move event)).engines i) :=
    fun event hsent => modified d _ (·.move event) rfl fun hij => .moved _ event (hij ▸ hsent)
  cases event with
  | pass | request => exact .same _
  | chain event => exact .told _ _
  | call j call => exact modified d j (·.begin call) rfl fun _ => .began _ call
  | turn j k =>
    simp only [step]
    split
    · rename_i call errand hk
      exact modified d j (·.turn d.now k errand) rfl fun hij =>
        .turned _ k call errand d.now (hij ▸ hk)
    · exact .same _
  | exchange j event own => exact moved (.call event own) (by intro _ h; cases h)
  | hangUp j => exact moved .hangUp (by intro _ h; cases h)
  | dispatch j => exact moved .next (by intro _ h; cases h)
  | arrive j k =>
    simp only [step]
    split
    · rename_i frame hk
      refine moved (.arrive frame) fun _ h => ?_
      exact Dispatcher.Event.arrive.inj h ▸ List.mem_of_getElem? hk
    · exact .same _
  | post j id =>
    simp only [step, post]
    split
    · rename_i x hx
      refine modified _ j _ rfl fun hij => ?_
      exact .taken d.nextTicket x (hij ▸ List.mem_of_find?_eq_some hx)
    · exact .same _

theorem run_visible (d : Deployment) (es : List Event) {hash : Hash} (hv : d.chain.Visible hash) :
    (d.run es).chain.Visible hash := by
  induction es generalizing d with
  | nil => exact hv
  | cons e es ih => exact ih _ ((d.step_change e).visible hv)

theorem sealing_hashed (d : Deployment) (es : List Event) : ∀ b ∈ d.sealing es, b.Hashed := by
  induction es generalizing d with
  | nil => simp [sealing]
  | cons e es ih =>
    intro b hb
    rcases List.mem_append.mp hb with hb | hb
    · exact (d.step_change e).hashed b hb
    · exact ih _ b hb

theorem consistent_run (config : ChainConfig) (configs : Nat → ClientConfig) (es : List Event) :
    ∃ done rest, (start config configs).sealing es = done ++ rest ∧
      Chain.Consistent config ((start config configs).run es).chain done rest := by
  induction es using List.reverseRecOn with
  | nil => exact ⟨[], [], rfl, Chain.consistent_start config⟩
  | append_singleton es e ih =>
    obtain ⟨done, rest, hsealed, h⟩ := ih
    obtain ⟨moved, rest', hmoved, h'⟩ := h.change (step_change _ e)
    refine ⟨done ++ moved, rest', ?_, run_concat _ es e ▸ h'⟩
    rw [sealing_concat, hsealed, List.append_assoc, hmoved, List.append_assoc]

end Deployment

end SealedChain
