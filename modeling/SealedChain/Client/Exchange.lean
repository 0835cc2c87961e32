import SealedChain.Client.Error
import SealedChain.Rpc.Request

/-!
# Exchanges of a client

A client carries any number of exchanges of a request for a reply. Each exchange has an id of its
own. The id is in the table of pending ids from its registration until a reply is routed to it or
the exchange ends. An exchange registers, looks whether the inbound stream has ended, sends its
frame and waits. When the stream ends the client is closed first and the table is cleared then, so
an exchange that found the client open is in the table when the table is cleared.
-/
namespace SealedChain

/-- What has been put where an exchange finds its reply. -/
inductive Slot where
  | empty
  | filled (reply : Rpc.Reply)
  | abandoned
  deriving DecidableEq

inductive Stage where
  | registered
  /-- It found the client open and has to send its frame. -/
  | sending
  | waiting
  | ended (outcome : Except TransportError Rpc.Reply)
  | cancelled

structure Exchange where
  id : Nat
  method : String
  params : List Json
  stage : Stage := .registered
  slot : Slot := .empty

def Exchange.frame (e : Exchange) : String := (Rpc.Request.new e.id e.method e.params).frame

structure Client where
  nextId : Nat := 1
  /-- The ids that a reply can still answer. -/
  pending : List Nat := []
  closed : Bool := false
  exchanges : List Exchange := []

/-- The values that a frame holds, alone or in a batch; text that is no value holds none. -/
def elementsOf (frame : String) : List Json :=
  match Json.parse frame with
  | none => []
  | some (.array items) => items
  | some v => [v]

def repliesOf (frame : String) : List Rpc.Reply := (elementsOf frame).filterMap Rpc.Reply.ofJson?

namespace Client

def find? (c : Client) (id : Nat) : Option Exchange := c.exchanges.find? (·.id == id)

def stage? (c : Client) (id : Nat) : Option Stage := (c.find? id).map (·.stage)

def modify (c : Client) (id : Nat) (f : Exchange → Exchange) : Client :=
  { c with exchanges := c.exchanges.map fun e => if e.id = id then f e else e }

def forget (c : Client) (id : Nat) : Client := { c with pending := c.pending.filter (· != id) }

def finish (c : Client) (id : Nat) (stage : Stage) : Client :=
  (c.modify id fun e => { e with stage }).forget id

def register (c : Client) (method : String) (params : List Json) : Client :=
  { c with
    nextId := c.nextId + 1
    pending := c.nextId :: c.pending
    exchanges := { id := c.nextId, method, params } :: c.exchanges }

def check (c : Client) (id : Nat) : Client :=
  match c.stage? id with
  | some .registered =>
    if c.closed then c.finish id (.ended (.error .closed))
    else c.modify id fun e => { e with stage := .sending }
  | _ => c

/-- The frame of an exchange was carried, or it was not. -/
def sent (c : Client) (id : Nat) (result : Except TransportError Unit) : Client :=
  match c.stage? id, result with
  | some .sending, .ok () => c.modify id fun e => { e with stage := .waiting }
  | some .sending, .error cause => c.finish id (.ended (.error cause))
  | _, _ => c

/-- A waiting exchange takes what its slot holds. -/
def receive (c : Client) (id : Nat) : Client :=
  match c.find? id with
  | some ⟨_, _, _, .waiting, .filled reply⟩ => c.finish id (.ended (.ok reply))
  | some ⟨_, _, _, .waiting, .abandoned⟩ => c.finish id (.ended (.error .closed))
  | _ => c

/-- The time of an exchange is up. A reply that is already there counts. -/
def timeOut (c : Client) (id : Nat) (limit : Millis) : Client :=
  match c.find? id with
  | some ⟨_, _, _, .sending, _⟩ | some ⟨_, _, _, .waiting, .empty⟩ =>
    c.finish id (.ended (.error (.timeout limit)))
  | _ => c

def cancel (c : Client) (id : Nat) : Client :=
  match c.stage? id with
  | some .registered | some .sending | some .waiting => c.finish id .cancelled
  | _ => c

/-- The reply is put where its exchange finds it, and the id leaves the table. -/
def deliver (c : Client) (id : Nat) (reply : Rpc.Reply) : Client :=
  (c.modify id fun e => { e with slot := .filled reply }).forget id

/-- Routes a reply to the exchange with its id; a reply to none is dropped. -/
def route (c : Client) (reply : Rpc.Reply) : Client :=
  match reply.correlationId with
  | some id => if id ∈ c.pending then c.deliver id reply else c
  | none => c

/-- Routes one value of a frame, unless the inbound stream has ended; what is no reply is dropped. -/
def element (c : Client) (v : Json) : Client :=
  if c.closed then c
  else match Rpc.Reply.ofJson? v with
    | some reply => c.route reply
    | none => c

def routeFrame (c : Client) (frame : String) : Client := (elementsOf frame).foldl element c

def close (c : Client) : Client := { c with closed := true }

/-- The table of a closed client is cleared, and the exchanges in it get no reply any more. -/
def clear (c : Client) : Client :=
  if c.closed then
    { c with
      pending := []
      exchanges := c.exchanges.map fun e =>
        if e.id ∈ c.pending then { e with slot := .abandoned } else e }
  else c

/-- The frames of the inbound stream are routed in order; if the stream has ended, its end takes
effect after them. -/
def dispatch (c : Client) (frames : List String) (ended : Bool) : Client :=
  let routed := frames.foldl routeFrame c
  if ended then routed.close.clear else routed

inductive Event where
  | start (method : String) (params : List Json)
  | check (id : Nat)
  | sent (id : Nat) (result : Except TransportError Unit)
  | receive (id : Nat)
  | timeOut (id : Nat) (limit : Millis)
  | cancel (id : Nat)
  | element (v : Json)
  | close
  | clear

/-- An exchange without a method is refused before it is registered. -/
def step (c : Client) : Event → Client
  | .start method params => if method = "" then c else c.register method params
  | .check id => c.check id
  | .sent id result => c.sent id result
  | .receive id => c.receive id
  | .timeOut id limit => c.timeOut id limit
  | .cancel id => c.cancel id
  | .element v => c.element v
  | .close => c.close
  | .clear => c.clear

@[simp] theorem pending_modify (c : Client) (id : Nat) (f : Exchange → Exchange) :
    (c.modify id f).pending = c.pending := rfl

theorem mem_pending_forget (c : Client) (id k : Nat) :
    k ∈ (c.forget id).pending ↔ k ∈ c.pending ∧ k ≠ id := by
  simp [forget]

@[simp] theorem not_mem_pending_finish (c : Client) (id : Nat) (stage : Stage) :
    id ∉ (c.finish id stage).pending := by
  simp [finish, mem_pending_forget]

end Client

end SealedChain
