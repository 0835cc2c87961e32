import SealedChain.Proofs.Engine.Sound

/-!
# Round trips

When nothing falls in between, an exchange of an idle engine brings the node's answer back in a few
steps, and the call goes on with it. So a call that seals a block ends with the acknowledgment of
the block, and a call that waits for a visible block ends with its next poll.
-/
namespace SealedChain

namespace Dispatcher

/-- Nothing is left to dispatch, and frames can still come in. -/
structure Idle (d : Dispatcher) : Prop where
  running : d.finished = false
  streaming : d.ended = false
  inHand : d.inHand = []
  inbox : d.inbox = []

namespace Idle

variable {d : Dispatcher}

theorem perform (h : d.Idle) (event : Client.Event) : (d.perform event).Idle := { h with }

theorem arrive (h : d.Idle) {frame : String} {v : Json} (helements : elementsOf frame = [v]) :
    ((d.step (.arrive frame)).step .next).step .next =
      { d.perform (.element v) with arrived := d.arrived ++ [frame] } := by
  obtain ⟨history, arrived, inbox, inHand, ended, finished⟩ := d
  obtain ⟨hrunning, hstreaming, hinHand, hinbox⟩ := h
  simp only at hrunning hstreaming hinHand hinbox
  subst hrunning hstreaming hinHand hinbox
  simp [step, next, Dispatcher.perform, helements]

theorem receive (h : d.Idle) (hopen : d.client.closed = false) {x : Exchange}
    (hx : d.client.Latest x) (hstage : x.stage = .waiting) (hpending : x.id ∈ d.client.pending)
    {frame : String} {reply : Rpc.Reply} (hbrings : Brings frame x.id reply) :
    let d' := (((d.step (.arrive frame)).step .next).step .next).perform (.receive x.id)
    d'.Idle ∧ d'.client = (d.client.deliver x.id reply).finish x.id (.ended (.ok reply)) ∧
      d'.client.Latest { x with stage := .ended (.ok reply), slot := .filled reply } := by
  obtain ⟨v, helements, hv, hid⟩ := hbrings
  have hdelivered : (d.perform (.element v)).client = d.client.deliver x.id reply := by
    rw [client_perform]
    exact Client.element_deliver hopen hv hid hpending
  have hfilled := hx.deliver reply
  intro d'
  have hclient : d'.client = (d.client.deliver x.id reply).finish x.id (.ended (.ok reply)) := by
    simp only [d', h.arrive helements, client_perform]
    exact (congrArg (·.step (.receive x.id)) hdelivered).trans (hfilled.step_receive hstage rfl)
  refine ⟨?_, hclient, hclient ▸ hfilled.finish _⟩
  simp only [d', h.arrive helements]
  exact { h with }

theorem carried (h : d.Idle) (hopen : d.client.closed = false) {method : String}
    (hmethod : method ≠ "") (params : List Json) {frame : String} {reply : Rpc.Reply}
    (hbrings : Brings frame d.client.nextId reply) :
    let id := d.client.nextId
    let sending := (d.perform (.start method params)).perform (.check id)
    let sent := sending.perform (.sent id (.ok ()))
    let d' := (((sent.step (.arrive frame)).step .next).step .next).perform (.receive id)
    sending.client.Latest ⟨id, method, params, .sending, .empty⟩ ∧ d'.Idle ∧
      d'.client.closed = false ∧ d'.client.nextId = id + 1 ∧
      d'.client.find? id = some ⟨id, method, params, .ended (.ok reply), .filled reply⟩ := by
  intro id sending sent d'
  let registered := d.client.register method params
  have hregistered : registered.Latest ⟨id, method, params, .registered, .empty⟩ := ⟨_, rfl⟩
  have hsending : sending.client = registered.modify id fun x => { x with stage := .sending } := by
    simp only [sending, client_perform, Client.step, if_neg hmethod]
    exact hregistered.step_check rfl hopen
  have hlatest : sending.client.Latest ⟨id, method, params, .sending, .empty⟩ :=
    hsending ▸ hregistered.modify _
  have hsent : sent.client = sending.client.modify id fun x => { x with stage := .waiting } :=
    (client_perform _ _).trans (hlatest.step_sent rfl)
  have hwaiting : sent.client.Latest ⟨id, method, params, .waiting, .empty⟩ :=
    hsent ▸ hlatest.modify _
  have hpending : id ∈ sent.client.pending := by
    rw [hsent, hsending]
    exact List.mem_cons_self
  have hidle : sent.Idle := ((h.perform _).perform _).perform _
  obtain ⟨hidle', hclient, hended⟩ := hidle.receive (by rw [hsent, hsending]; exact hopen)
    hwaiting rfl hpending hbrings
  refine ⟨hlatest, hidle', ?_, ?_, hended.find?⟩ <;> rw [hclient, hsent, hsending]
  · exact hopen
  · rfl

end Idle

end Dispatcher

@[simp] theorem Engine.setCall_setCall (e : Engine) (k : Nat) (standing standing' : Standing) :
    (e.setCall k standing).setCall k standing' = e.setCall k standing' :=
  congrArg (fun calls => { e with calls }) (List.modify_modify_eq _ _ _ _)

/-- An engine between exchanges: the id of the next one, and how many frames it has been sent. -/
structure Engine.Rests (e : Engine) (id received : Nat) : Prop where
  idle : e.line.Idle
  opened : e.client.closed = false
  nextId : e.client.nextId = id
  received : e.inbound.length = received

namespace Deployment

/-- What a run of events has made of the chain and of one engine, no time having passed. -/
structure Leads (d : Deployment) (i : Nat) (es : List Event) (c : Chain)
    (blocks : List SealedBlock) (e : Engine) : Prop where
  chain : (d.run es).chain = c
  sealed : d.sealing es = blocks
  now : (d.run es).now = d.now
  engine : (d.run es).engines i = e

variable {d : Deployment} {i : Nat} {es : List Event} {c : Chain} {blocks : List SealedBlock}
  {e : Engine}

namespace Leads

theorem nil (d : Deployment) (i : Nat) : d.Leads i [] d.chain [] (d.engines i) :=
  ⟨rfl, rfl, rfl, rfl⟩

theorem concat (h : d.Leads i es c blocks e) {event : Event} {d' : Deployment}
    (hstep : (d.run es).step event = d') (hnow : d'.now = d.now) :
    d.Leads i (es ++ [event]) d'.chain (blocks ++ c.queuedBetween d'.chain) (d'.engines i) where
  chain := by rw [run_concat, hstep]
  sealed := by rw [sealing_concat, hstep, h.sealed, h.chain]
  now := by rw [run_concat, hstep, hnow]
  engine := by rw [run_concat, hstep]

theorem modify (h : d.Leads i es c blocks e) (event : Event) (f : Engine → Engine)
    (hstep : (d.run es).step event = (d.run es).modify i f) :
    d.Leads i (es ++ [event]) c blocks (f e) := by
  have hsame : c.queuedBetween c = [] := Chain.Change.same.queuedBetween
  have hnext := h.concat hstep h.now
  rwa [chain_modify, engines_modify_self, h.chain, h.engine, hsame, List.append_nil] at hnext

theorem call (h : d.Leads i es c blocks e) (call : Call) :
    d.Leads i (es ++ [.call i call]) c blocks (e.begin call) :=
  h.modify (.call i call) (·.begin call) rfl

theorem exchange (h : d.Leads i es c blocks e) (event : Client.Event)
    (own : event.isCall = true) :
    d.Leads i (es ++ [.exchange i event own]) c blocks (e.move (.call event own)) :=
  h.modify (.exchange i event own) (·.move (.call event own)) rfl

theorem dispatch (h : d.Leads i es c blocks e) :
    d.Leads i (es ++ [.dispatch i]) c blocks (e.move .next) :=
  h.modify (.dispatch i) (·.move .next) rfl

theorem turn (h : d.Leads i es c blocks e) {k : Nat} {call : Call} {errand : Errand}
    (hk : e.calls[k]? = some ⟨call, .under errand⟩) :
    d.Leads i (es ++ [.turn i k]) c blocks (e.turn d.now k errand) := by
  refine h.modify (.turn i k) (·.turn d.now k errand) ?_
  simp only [step, h.engine, hk, h.now]

theorem await (h : d.Leads i es c blocks e) {k id : Nat} {call : Call} {limit : Millis} {goal : Goal}
    (hk : e.calls[k]? = some ⟨call, .under (.await ⟨id, limit, goal⟩)⟩) {method : String}
    {params : List Json} {reply : Rpc.Reply} {slot : Slot}
    (hended : e.line.client.find? id = some ⟨id, method, params, .ended (.ok reply), slot⟩) :
    d.Leads i (es ++ [.turn i k]) c blocks
      (e.setCall k (goal.onward e.config.settlement d.now method reply).standing) := by
  have hturn := h.turn hk
  simp only [Engine.turn, Engine.client, hended] at hturn
  exact hturn

theorem arrive (h : d.Leads i es c blocks e) {k : Nat} {frame : String}
    (hk : e.inbound[k]? = some frame) :
    d.Leads i (es ++ [.arrive i k]) c blocks (e.move (.arrive frame)) := by
  refine h.modify (.arrive i k) (·.move (.arrive frame)) ?_
  simp only [step, h.engine, hk]

theorem post (h : d.Leads i es c blocks e) {x : Exchange} (hx : e.client.find? x.id = some x)
    {c' : Chain} {response : Node.HttpResponse}
    (haccept : ∀ ticket, Node.accept c ticket ⟨"POST", "/", x.frame.toUTF8⟩ =
      (c', .responded response))
    {inbound : String}
    (hreceive : Http.receive x.frame (.response response.status response.body) = .ok inbound) :
    d.Leads i (es ++ [.post i x.id]) c' (blocks ++ c.queuedBetween c')
      { e with inbound := e.inbound ++ [inbound] } := by
  have hstep : (d.run es).step (.post i x.id) = (d.run es).post i x.frame := by
    simp only [step, h.engine, hx]
  have hnext := h.concat hstep h.now
  rw [Deployment.post, chain_modify, engines_modify_self] at hnext
  simp only [h.chain, h.engine, haccept, Engine.take, e.hear_eq hreceive] at hnext
  exact hnext

theorem operate (h : d.Leads i es c blocks e) (event : Chain.Event)
    (hanswers : c.answers event = []) :
    d.Leads i (es ++ [.chain event]) (c.step event) (blocks ++ c.queuedBetween (c.step event)) e := by
  have hstep : (d.run es).step (.chain event) = _ := rfl
  have hnext := h.concat hstep h.now
  simpa only [step, h.chain, h.engine, hanswers, List.foldl_nil] using hnext

end Leads

def roundTrip (i k id received : Nat) : List Event :=
  [.turn i k, .exchange i (.check id) rfl, .post i id, .exchange i (.sent id (.ok ())) rfl,
    .arrive i received, .dispatch i, .dispatch i, .exchange i (.receive id) rfl, .turn i k]

theorem Leads.roundTrip {id received : Nat} (h : d.Leads i es c blocks e)
    (hrests : e.Rests id received) {k : Nat} {call : Call} {errand : Errand}
    (hk : e.calls[k]? = some ⟨call, .under errand⟩) {method : String} {params : List Json}
    {limit : Millis} {goal : Goal}
    (hasks : e.turn d.now k errand = e.startExchange k method params limit goal)
    (hmethod : method ≠ "") {c' : Chain} {response : Node.HttpResponse}
    (haccept : ∀ ticket,
      Node.accept c ticket ⟨"POST", "/", (Rpc.Request.new id method params).frame.toUTF8⟩ =
        (c', .responded response))
    {reply : Rpc.Reply} (hid : id < limit64) (hcarries : Node.Carries id response reply) :
    ∃ e', d.Leads i (es ++ Deployment.roundTrip i k id received) c'
        (blocks ++ c.queuedBetween c') e' ∧
      e'.Rests (id + 1) (received + 1) ∧ e'.config = e.config ∧
      e'.calls = (e.setCall k (goal.onward e.config.settlement d.now method reply).standing).calls := by
  obtain ⟨hidle, hopen, rfl, rfl⟩ := hrests
  obtain ⟨frame, hreceive, hbrings⟩ := hcarries.receive hid method params
  obtain ⟨hsending, hidle', hopen', hnext, hended⟩ := hidle.carried hopen hmethod params hbrings
  have hbegun := h.turn hk
  rw [hasks, Engine.startExchange, if_neg hmethod] at hbegun
  have hposted := (hbegun.exchange (.check e.client.nextId) rfl).post hsending.find? haccept hreceive
  have hsent := hposted.exchange (.sent e.client.nextId (.ok ())) rfl
  have harrived := hsent.arrive (k := e.inbound.length) List.getElem?_concat_length
  have hreceived := harrived.dispatch.dispatch.exchange (.receive e.client.nextId) rfl
  have hawait : (e.setCall k (.under (.await ⟨e.client.nextId, limit, goal⟩))).calls[k]? =
      some ⟨call, .under (.await ⟨e.client.nextId, limit, goal⟩)⟩ := by
    simp [Engine.setCall, hk]
  have hgone := hreceived.await hawait hended
  simp only [List.append_assoc, List.singleton_append] at hgone
  exact ⟨_, hgone, ⟨hidle', hopen', hnext, List.length_append⟩, rfl, List.modify_modify_eq _ _ _ _⟩

end Deployment

theorem Engine.calls_begin (e : Engine) (call : Call) (standing : Standing) :
    ((e.begin call).setCall e.calls.length standing).calls = e.calls ++ [⟨call, standing⟩] := by
  simp [begin, setCall, List.modify_eq_set_getElem?]

namespace Deployment.Leads

variable {d : Deployment} {i : Nat} {es : List Event} {c : Chain} {blocks : List SealedBlock}
  {e : Engine} {id received : Nat}

/-- A production that does not wait ends with the acknowledgment of its block. -/
theorem produce (h : d.Leads i es c blocks e) (hrests : e.Rests id received) (hid : id < limit64)
    {command : BlockCommand} {created : CreatedBlock} (hcreated : (c.create command).2 = .ok created) :
    let call : Call := .command (.createBlock command) false
    ∃ e', d.Leads i (es ++ [.call i call] ++ Deployment.roundTrip i e.calls.length id received)
        (c.create command).1 (blocks ++ c.queuedBetween (c.create command).1) e' ∧
      e'.Rests (id + 1) (received + 1) ∧ e'.config = e.config ∧
      e'.calls = e.calls ++
        [⟨call, .ended (.ok (.acknowledged ⟨created.toJson.sorted⟩))⟩] := by
  intro call
  have hbegun : (e.begin call).Rests id received := { hrests with }
  have hk : (e.begin call).calls[e.calls.length]? =
      some ⟨call, .under (call.errand e.config)⟩ := List.getElem?_concat_length
  have haccept : ∀ ticket, Node.accept c ticket _ = _ :=
    fun ticket => Node.accept_creation hid ticket command
  obtain ⟨e', hleads, hrests', hconfig, hcalls⟩ := (h.call call).roundTrip hbegun hk rfl
    (Rpc.Method.name_ne_empty .createBlock) haccept hid (.answer _ (Node.readsBack_created _))
  refine ⟨e', hleads, hrests', hconfig, hcalls.trans ?_⟩
  rw [hcreated, Goal.onward, Node.ofReply_created]
  exact e.calls_begin call _

theorem settle (h : d.Leads i es c blocks e) (hrests : e.Rests id received) (hid : id < limit64)
    (hawaits : e.config.settlement.awaits = true) {ack : Acknowledgment} {hash : Hash}
    (hhash : ack.hash? = some hash) {record : BlockRecord} (hfound : c.blockByHash? hash = some record)
    (hnumber : record.number < limit64) :
    ∃ e', d.Leads i (es ++ [.call i (.settle ack)] ++ [.turn i e.calls.length] ++
        Deployment.roundTrip i e.calls.length id received) c blocks e' ∧
      e'.Rests (id + 1) (received + 1) ∧ e'.config = e.config ∧
      e'.calls = e.calls ++ [⟨.settle ack, .ended (.ok .settled)⟩] := by
  obtain ⟨interval, timeout, hsettlement⟩ :
      ∃ interval timeout, e.config.settlement = .awaitBlock interval timeout := by
    cases hs : e.config.settlement with
    | fixedDelay delay =>
      rw [hs] at hawaits
      cases hawaits
    | awaitBlock interval timeout => exact ⟨interval, timeout, rfl⟩
  let polling : Polling := ⟨hash, interval, timeout, d.now, .settled⟩
  let begun := e.begin (.settle ack)
  let waiting := begun.setCall e.calls.length (.under (.sleep (.poll polling)))
  have hbegun : begun.calls[e.calls.length]? =
      some ⟨.settle ack, .under (.settle ack .settled)⟩ := List.getElem?_concat_length
  have hturn : begun.turn d.now e.calls.length (.settle ack .settled) = waiting := by
    simp [waiting, begun, polling, Engine.turn, Engine.begin, hsettlement, Settlement.onward, hhash,
      Onward.standing]
  have hwaiting := (h.call (.settle ack)).turn hbegun
  rw [hturn] at hwaiting
  have hk : waiting.calls[e.calls.length]? =
      some ⟨.settle ack, .under (.sleep (.poll polling))⟩ := by
    rw [e.calls_begin]
    exact List.getElem?_concat_length
  have haccept : ∀ ticket, Node.accept c ticket _ = _ :=
    fun ticket => Node.accept_poll hid ticket hash
  rw [hfound] at haccept
  obtain ⟨e', hleads, hrests', hconfig, hcalls⟩ := hwaiting.roundTrip { hrests with } hk rfl
    (Rpc.Method.name_ne_empty .getBlockByHash) haccept hid
    (.answer _ (by rintro _ ⟨⟩; exact Node.readsBack_recordOrNull _))
  have hsame : c.queuedBetween c = [] := Chain.Change.same.queuedBetween
  rw [hsame, List.append_nil] at hleads
  refine ⟨e', hleads, hrests', hconfig, hcalls.trans ?_⟩
  have hanswer : polling.query.answer _ = _ := Query.answer_blockByHash id hnumber
  rw [Goal.onward, Polling.onward, hanswer, Engine.setCall_setCall]
  exact e.calls_begin (.settle ack) _

end Deployment.Leads

end SealedChain
