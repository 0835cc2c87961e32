import SealedChain.Client.Acknowledgment
import SealedChain.Client.Query
import SealedChain.Proofs.Client.Run
import SealedChain.Proofs.Rpc.Frame

/-!
# Calls carried to a node

A call is carried when the client starts an exchange, the node answers its frame, and the text of
the answer is routed back. An open client then ends the exchange with the reply that holds what the
method gave, whatever other exchanges it has.
-/
namespace SealedChain

namespace Client

def Latest (c : Client) (e : Exchange) : Prop := ∃ rest, c.exchanges = e :: rest

namespace Latest

variable {c : Client} {e : Exchange}

theorem find? (h : c.Latest e) : c.find? e.id = some e := by
  obtain ⟨rest, hrest⟩ := h
  simp [Client.find?, hrest]

theorem stage? (h : c.Latest e) : c.stage? e.id = some e.stage := by
  rw [Client.stage?, h.find?, Option.map_some]

theorem modify (h : c.Latest e) (f : Exchange → Exchange) : (c.modify e.id f).Latest (f e) := by
  obtain ⟨rest, hrest⟩ := h
  exact ⟨rest.map fun x => if x.id = e.id then f x else x, by simp [Client.modify, hrest]⟩

theorem finish (h : c.Latest e) (stage : Stage) :
    (c.finish e.id stage).Latest { e with stage } :=
  h.modify fun e => { e with stage }

theorem deliver (h : c.Latest e) (reply : Rpc.Reply) :
    (c.deliver e.id reply).Latest { e with slot := .filled reply } :=
  h.modify fun e => { e with slot := .filled reply }

theorem step_check (h : c.Latest e) (hstage : e.stage = .registered) (hopen : c.closed = false) :
    c.step (.check e.id) = c.modify e.id fun e => { e with stage := .sending } := by
  simp only [step, check, h.stage?, hstage, hopen]
  rfl

theorem step_sent (h : c.Latest e) (hstage : e.stage = .sending) :
    c.step (.sent e.id (.ok ())) = c.modify e.id fun e => { e with stage := .waiting } := by
  simp only [step, sent, h.stage?, hstage]

theorem step_receive (h : c.Latest e) (hstage : e.stage = .waiting) {reply : Rpc.Reply}
    (hslot : e.slot = .filled reply) :
    c.step (.receive e.id) = c.finish e.id (.ended (.ok reply)) := by
  obtain ⟨id, method, params, stage, slot⟩ := e
  obtain rfl : stage = .waiting := hstage
  obtain rfl : slot = .filled reply := hslot
  simp only [step, receive, h.find?]

theorem stage?_routed (h : c.Latest e) (hstage : e.stage = .sending) (hopen : c.closed = false)
    (hpending : e.id ∈ c.pending) {text : String} {v : Json} {reply : Rpc.Reply}
    (htext : elementsOf text = [v]) (hv : Rpc.Reply.ofJson? v = some reply)
    (hid : reply.correlationId = some e.id) :
    (((c.step (.sent e.id (.ok ()))).routeFrame text).step (.receive e.id)).stage? e.id =
      some (.ended (.ok reply)) := by
  have hwaiting := h.modify fun e => { e with stage := .waiting }
  have hfilled := hwaiting.deliver reply
  have hrouted : (c.modify e.id fun e => { e with stage := .waiting }).routeFrame text =
      (c.modify e.id fun e => { e with stage := .waiting }).deliver e.id reply := by
    rw [routeFrame, htext]
    exact element_deliver hopen hv hid hpending
  rw [h.step_sent hstage, hrouted, hfilled.step_receive rfl rfl]
  exact (hfilled.finish _).stage?

end Latest

end Client

/-- What a call makes of how its exchange has ended. -/
def conclude (method : String) (params : List Json) :
    Option Stage → Option (Except ClientError Rpc.Reply)
  | some (.ended (.ok reply)) => some (.ok reply)
  | some (.ended (.error cause)) => some (.error (.transport method params cause))
  | _ => none

/-- Carries a call to a node and its answer back: the reply that the call gets, if it gets any, and
the chain after it. -/
def carry (client : Client) (c : Chain) (ticket : Nat) (method : String) (params : List Json) :
    Option (Except ClientError Rpc.Reply) × Chain :=
  let id := client.nextId
  let sending := (client.step (.start method params)).step (.check id)
  match sending.find? id with
  | none => (none, c)
  | some e =>
    let sent := sending.step (.sent id (.ok ()))
    match Node.respond c ticket e.frame.toUTF8 with
    | (c, .answered text) =>
      (conclude method params (((sent.routeFrame text).step (.receive id)).stage? id), c)
    | (c, .awaiting _) => (conclude method params (sent.stage? id), c)

def Query.ask {α : Type} (q : Query α) (client : Client) (c : Chain) (ticket : Nat) :
    Option (Except ClientError α) × Chain :=
  let (reply, c) := carry client c ticket q.method q.params
  (reply.map (·.bind q.answer), c)

def EngineCommand.issue (command : EngineCommand) (client : Client) (c : Chain) (ticket : Nat) :
    Option (Except ClientError Acknowledgment) × Chain :=
  let (reply, c) := carry client c ticket command.method command.params
  (reply.map (·.bind (Acknowledgment.ofReply command.method)), c)

/-- A client that can call: its inbound stream has not ended and its next id has sixty-four bits. -/
structure Client.Ready (client : Client) : Prop where
  opened : client.closed = false
  id_lt : client.nextId < limit64

/-- The frame of the client's next call is no longer than the node admits. -/
def Admissible (client : Client) (method : String) (params : List Json) : Prop :=
  (Rpc.Request.new client.nextId method params).frame.toUTF8.size ≤ Node.maxBodySize

def Query.Admissible {α : Type} (q : Query α) (client : Client) : Prop :=
  SealedChain.Admissible client q.method q.params

def EngineCommand.Admissible (command : EngineCommand) (client : Client) : Prop :=
  SealedChain.Admissible client command.method command.params

variable {client : Client} {method : String} {params : List Json}

/-- A call whose frame is admissible gets the reply that holds what its method gave. -/
theorem carry_eq (hready : client.Ready) (hmethod : method ≠ "")
    (hparams : Json.fitsItems params 125 = true) (hsize : Admissible client method params)
    {c c' : Chain} {ticket : Nat} {r : Except Node.MethodFault Json}
    (hrun : Node.run c ticket (Node.envelopeOf client.nextId method params) =
      (c', .answered (Node.answerText (.nat client.nextId) r)))
    (hr : ∀ result, r = .ok result → result.fits 126 = true) :
    carry client c ticket method params = (some (.ok (Node.replyOf client.nextId r)), c') := by
  obtain ⟨v, helements, hv⟩ := Node.elementsOf_answerText hready.id_lt hr
  have hreply : (Node.replyOf client.nextId r).correlationId = some client.nextId := by
    cases r <;> exact Node.unsigned?_nat hready.id_lt
  have hstart : client.step (.start method params) = client.register method params := by
    simp only [Client.step, if_neg hmethod]
  have hregistered : (client.register method params).Latest
      { id := client.nextId, method, params } := ⟨_, rfl⟩
  have hsending := hregistered.modify fun e => { e with stage := .sending }
  have hrespond := (Node.respond_frame c ticket hready.id_lt hmethod hparams hsize).trans hrun
  have hended := hsending.stage?_routed rfl hready.opened List.mem_cons_self helements hv hreply
  unfold carry
  simp only [hstart, hregistered.step_check rfl hready.opened, hsending.find?]
  rw [Exchange.frame, hrespond]
  simp only [hended, conclude]

end SealedChain
