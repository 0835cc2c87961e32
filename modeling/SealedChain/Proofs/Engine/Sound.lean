import SealedChain.Proofs.Client.Correlation
import SealedChain.Proofs.Engine.Terms

/-!
# Every reply is the node's own

Whatever falls between, each frame that comes in for an engine holds one reply of the node to one
request of the engine's client, so the reply that an exchange ends with was given to its own frame.
Hence every call of an engine keeps its terms: what it relies on is visible, or named by a block
sealed since, in the last state at the latest. The calls and exchanges looked at are those begun
after some earlier state of the engine.
-/
namespace SealedChain

/-- A frame with a reply to one of the client's requests, which is faithful if the request is one of
those from `first` on. -/
def Client.Trusts (c : Client) (visible named : Hash → Prop) (first : Nat) (frame : String) : Prop :=
  ∃ request reply, c.Requested request ∧ Brings frame request.id reply ∧
    (first ≤ request.id → Faithful visible named request reply)

theorem Client.Trusts.mono {c c' : Client} {visible named : Hash → Prop} {first : Nat}
    {frame : String} (h : c.Trusts visible named first frame)
    (hr : ∀ request, c.Requested request → c'.Requested request) :
    c'.Trusts visible named first frame := by
  obtain ⟨request, reply, hrequest, hrest⟩ := h
  exact ⟨request, reply, hr request hrequest, hrest⟩

theorem Client.Coherent.requested_lt {c : Client} (h : Client.Coherent c) {request : Rpc.Request}
    (hr : c.Requested request) : request.id < c.nextId := by
  obtain ⟨x, hx, rfl⟩ := hr
  exact h.id_lt x hx

namespace Dispatcher

theorem step_client (d : Dispatcher) (e : Event) :
    (d.step e).client = d.client ∨ ∃ event, (d.step e).client = d.client.step event := by
  cases e with
  | call event own => exact .inr ⟨event, d.client_perform event⟩
  | arrive frame =>
    simp only [step]
    split <;> exact .inl rfl
  | hangUp => exact .inl rfl
  | next =>
    simp only [step, next]
    split
    · exact .inl rfl
    · split
      · exact .inr ⟨_, d.client_perform _⟩
      · exact .inl rfl
      · split
        · exact .inr ⟨_, d.client_perform _⟩
        · split
          · exact .inr ⟨_, d.client_perform _⟩
          · exact .inl rfl

theorem mem_arrived_step {d : Dispatcher} {e : Event} {frame : String}
    (h : frame ∈ (d.step e).arrived) : frame ∈ d.arrived ∨ e = .arrive frame := by
  cases e with
  | call | hangUp => exact .inl h
  | arrive given =>
    simp only [step] at h
    split at h
    · exact .inl h
    · rcases List.mem_append.mp h with h | h
      · exact .inl h
      · exact .inr (congrArg Event.arrive (List.mem_singleton.mp h).symm)
  | next =>
    refine .inl ?_
    simp only [step, next] at h
    repeat' split at h
    all_goals exact h

theorem requested_step {d : Dispatcher} {e : Event} {request : Rpc.Request}
    (h : d.client.Requested request) : (d.step e).client.Requested request := by
  rcases d.step_client e with hsame | ⟨event, hstep⟩
  · exact hsame ▸ h
  · exact hstep ▸ (Client.step_change _ event).requested h

theorem nextId_step (d : Dispatcher) (e : Event) :
    d.client.nextId ≤ (d.step e).client.nextId ∧ (d.step e).client.nextId ≤ d.client.nextId + 1 := by
  rcases d.step_client e with hsame | ⟨event, hstep⟩
  · rw [hsame]
    exact ⟨Nat.le_refl _, Nat.le_succ _⟩
  · rw [hstep]
    have hchange := Client.step_change d.client event
    exact ⟨hchange.nextId_le, hchange.nextId_le_succ⟩

theorem Orderly.filled {d : Dispatcher} (h : Orderly d) {x : Exchange} {reply : Rpc.Reply}
    (hx : x ∈ d.client.exchanges) (hslot : x.slot = .filled reply) :
    ∃ frame ∈ d.arrived, ∃ v ∈ elementsOf frame, Rpc.Reply.ofJson? v = some reply ∧
      reply.correlationId = some x.id := by
  have hend : Client.after d.history d.history.length = d.client := by
    rw [Client.after, List.take_length, client]
  rw [← hend] at hx
  obtain ⟨k, v, hk, hv, hi, -⟩ := Client.filled_after d.history _ (Nat.le_refl _) hx hslot
  have hvalue : v ∈ d.history.filterMap Client.Event.value? :=
    List.mem_filterMap.mpr ⟨_, List.mem_of_getElem? hk, rfl⟩
  have hrouted : v ∈ d.arrived.flatMap elementsOf := by
    rw [← h.routed]
    exact List.mem_append_left _ (List.mem_append_left _ hvalue)
  obtain ⟨frame, hframe, hmem⟩ := List.mem_flatMap.mp hrouted
  exact ⟨frame, hframe, v, hmem, hv, hi⟩

end Dispatcher

namespace Engine

section Line

variable {e : Engine}

@[simp] theorem line_hear (frame : String) (response : Node.HttpResponse) :
    (e.hear frame response).line = e.line := by
  unfold hear
  split <;> rfl

@[simp] theorem line_take (ticket : Nat) (frame : String) (outcome : Node.HttpOutcome) :
    (e.take ticket frame outcome).line = e.line := by
  cases outcome with
  | responded response => exact line_hear frame response
  | awaiting id => rfl

@[simp] theorem line_tell (answer : TicketAnswer) : (e.tell answer).line = e.line := by
  unfold tell
  split
  · exact line_hear _ _
  · rfl

@[simp] theorem line_tells (answers : List TicketAnswer) :
    (answers.foldl tell e).line = e.line := by
  induction answers generalizing e with
  | nil => rfl
  | cons answer answers ih => exact ih.trans (line_tell answer)

theorem nextId_move (e : Engine) (event : Dispatcher.Event) :
    e.client.nextId ≤ (e.move event).client.nextId ∧
      (e.move event).client.nextId ≤ e.client.nextId + 1 := e.line.nextId_step event

theorem nextId_startExchange (e : Engine) (k : Nat) (method : String) (params : List Json)
    (limit : Millis) (goal : Goal) :
    e.client.nextId ≤ (e.startExchange k method params limit goal).client.nextId ∧
      (e.startExchange k method params limit goal).client.nextId ≤ e.client.nextId + 1 := by
  unfold startExchange
  split
  · exact ⟨Nat.le_refl _, Nat.le_succ _⟩
  · exact e.nextId_move _

theorem Change.nextId {c c' : Chain} {e' : Engine} (h : Change c e c' e') :
    e.client.nextId ≤ e'.client.nextId ∧ e'.client.nextId ≤ e.client.nextId + 1 := by
  have same : ∀ {e' : Engine}, e'.line = e.line →
      e.client.nextId ≤ e'.client.nextId ∧ e'.client.nextId ≤ e.client.nextId + 1 := by
    intro e' hline
    rw [client, client, hline]
    exact ⟨Nat.le_refl _, Nat.le_succ _⟩
  cases h with
  | same | began => exact same rfl
  | told _ answers => exact same (line_tells answers)
  | taken => exact same (line_take _ _ _)
  | moved _ event => exact e.nextId_move event
  | turned _ k call errand now =>
    cases errand with
    | exchange method params limit goal => exact e.nextId_startExchange k method params limit goal
    | settle => exact same rfl
    | await exchange =>
      simp only [turn]
      split <;> exact same rfl
    | sleep waking =>
      cases waking with
      | answer => exact same rfl
      | poll polling => exact e.nextId_startExchange k _ _ _ _

end Line

/-- The terms of a call of the engine. -/
def terms (e : Engine) (visible named : Hash → Prop) (base : Engine) (call : Call) : Terms where
  call
  awaits := e.config.settlement.awaits
  visible
  named
  first := base.client.nextId

/-- The state of an engine whose replies are the node's own, and whose calls begun after `base` keep
their terms. -/
structure Sound (visible named : Hash → Prop) (base e : Engine) : Prop where
  orderly : e.line.Orderly
  nextId_le : base.client.nextId ≤ e.client.nextId
  inbound : ∀ frame ∈ e.inbound, e.client.Trusts visible named base.client.nextId frame
  arrived : ∀ frame ∈ e.line.arrived, e.client.Trusts visible named base.client.nextId frame
  posted : ∀ p ∈ e.posted, ∃ request, e.client.Requested request ∧ request.id < limit64 ∧
    p.frame = request.frame ∧ p.id = .nat request.id ∧
    (base.client.nextId ≤ request.id → ∀ reply, Faithful visible named request reply)
  calls : ∀ k u, base.calls.length ≤ k → e.calls[k]? = some u →
    (e.terms visible named base u.call).Stands e.client u.standing

namespace Sound

variable {visible named : Hash → Prop} {base e : Engine}

theorem start (config : ClientConfig) : Sound visible named { config } { config } where
  orderly := Dispatcher.orderly_start
  nextId_le := Nat.le_refl _
  inbound := by simp
  arrived := by simp
  posted := by simp
  calls := by simp

theorem rebase (h : Sound visible named base e) (visible' named' : Hash → Prop) :
    Sound visible' named' e e := by
  -- whatever has been asked has an id below those to come
  have stale : ∀ {request : Rpc.Request} {P : Prop}, e.client.Requested request →
      e.client.nextId ≤ request.id → P := fun hr hle =>
    absurd (e.line.coherent.requested_lt hr) (Nat.not_lt.mpr hle)
  have trusts : ∀ frame, e.client.Trusts visible named base.client.nextId frame →
      e.client.Trusts visible' named' e.client.nextId frame := by
    rintro frame ⟨request, reply, hrequest, hbrings, -⟩
    exact ⟨request, reply, hrequest, hbrings, stale hrequest⟩
  exact {
    orderly := h.orderly
    nextId_le := Nat.le_refl _
    inbound := fun frame hf => trusts frame (h.inbound frame hf)
    arrived := fun frame hf => trusts frame (h.arrived frame hf)
    posted := fun p hp => by
      obtain ⟨request, hrequest, hid, hframe, hp, -⟩ := h.posted p hp
      exact ⟨request, hrequest, hid, hframe, hp, stale hrequest⟩
    calls := fun k u hk hu => by
      have hlt := (List.getElem?_eq_some_iff.mp hu).1
      exact absurd hlt (Nat.not_lt.mpr hk) }

theorem setCall (h : Sound visible named base e) {k : Nat} {u : Undertaking}
    (hk : e.calls[k]? = some u) {standing : Standing}
    (hstands : base.calls.length ≤ k →
      (e.terms visible named base u.call).Stands e.client standing) :
    Sound visible named base (e.setCall k standing) :=
  { h with
    calls := by
      intro j w hj hw
      simp only [Engine.setCall, List.getElem?_modify] at hw
      obtain ⟨v, hv, rfl⟩ := Option.map_eq_some_iff.mp hw
      split
      · rename_i hkj
        subst hkj
        obtain rfl := Option.some.inj (hk.symm.trans hv)
        exact hstands hj
      · exact h.calls j v hj hv }

theorem move (h : Sound visible named base e) (event : Dispatcher.Event)
    (harrive : ∀ frame, event = .arrive frame →
      e.client.Trusts visible named base.client.nextId frame) :
    Sound visible named base (e.move event) where
  orderly := h.orderly.step event
  nextId_le := Nat.le_trans h.nextId_le (e.nextId_move event).1
  inbound frame hf := (h.inbound frame hf).mono fun _ => Dispatcher.requested_step
  arrived frame hf := by
    refine Client.Trusts.mono ?_ fun _ => Dispatcher.requested_step
    rcases Dispatcher.mem_arrived_step hf with hf | hf
    · exact h.arrived frame hf
    · exact harrive frame hf
  posted p hp := by
    obtain ⟨request, hrequest, hrest⟩ := h.posted p hp
    exact ⟨request, Dispatcher.requested_step hrequest, hrest⟩
  calls k u hk hu := (h.calls k u hk hu).mono fun _ => Dispatcher.requested_step

theorem begin (h : Sound visible named base e) (call : Call) :
    Sound visible named base (e.begin call) :=
  { h with
    calls := by
      intro k u hk hu
      simp only [Engine.begin, List.getElem?_append] at hu
      split at hu
      · exact h.calls k u hk hu
      · obtain rfl := List.mem_singleton.mp (List.mem_of_getElem? hu)
        exact (e.terms visible named base call).runs_errand e.client e.config }

theorem reply (h : Sound visible named base e) {x : Exchange} (hx : x ∈ e.client.exchanges)
    {reply : Rpc.Reply} (hended : x.stage = .ended (.ok reply))
    (hfirst : base.client.nextId ≤ x.id) : Faithful visible named x.request reply := by
  have hc : Client.Coherent e.client := e.line.coherent
  -- the frame that brought the reply holds no other, so its id tells whose request it answers
  obtain ⟨frame, hframe, v, hv, hread, hid⟩ := h.orderly.filled hx (hc.answered x hx reply hended)
  obtain ⟨request, given, hrequest, ⟨w, helements, hgiven, hi⟩, hfaithful⟩ := h.arrived frame hframe
  rw [helements, List.mem_singleton] at hv
  subst hv
  obtain rfl : given = reply := Option.some.inj (hgiven.symm.trans hread)
  have hsame : request.id = x.id := Option.some.inj (hi.symm.trans hid)
  obtain rfl := hc.requested_inj hrequest ⟨x, hx, rfl⟩ hsame
  exact hfaithful hfirst

theorem startExchange (h : Sound visible named base e) {k : Nat} {u : Undertaking}
    (hk : e.calls[k]? = some u) {method : String} {params : List Json} (limit : Millis)
    {goal : Goal} (hasks : base.calls.length ≤ k →
      (e.terms visible named base u.call).Asks method params goal) :
    Sound visible named base (e.startExchange k method params limit goal) := by
  unfold Engine.startExchange
  split
  · exact h.setCall hk fun _ => trivial
  · rename_i hmethod
    refine (h.move (.call (.start method params) rfl) (by rintro _ ⟨⟩)).setCall hk fun hj => ?_
    refine ⟨.new e.client.nextId method params, ?_, rfl, h.nextId_le, hasks hj⟩
    refine ⟨{ id := e.client.nextId, method, params }, ?_, rfl⟩
    have hregistered : (e.move (.call (.start method params) rfl)).client =
        e.client.register method params := by
      refine (e.line.client_perform _).trans ?_
      simp only [Client.step, if_neg hmethod]
      rfl
    rw [hregistered]
    exact List.mem_cons_self

theorem turn (h : Sound visible named base e) {k : Nat} {call : Call} {errand : Errand}
    (hk : e.calls[k]? = some ⟨call, .under errand⟩) (now : Millis) :
    Sound visible named base (e.turn now k errand) := by
  have hruns : base.calls.length ≤ k →
      (e.terms visible named base call).Runs e.client errand := fun hj => h.calls k _ hj hk
  cases errand with
  | exchange method params limit goal => exact h.startExchange hk limit hruns
  | await exchange =>
    simp only [Engine.turn]
    split
    · exact h.setCall hk fun _ => trivial
    · rename_i id method params reply slot hfind
      refine h.setCall hk fun hj => ?_
      obtain ⟨request, hrequest, hid, hfirst, hasks⟩ := hruns hj
      have hx := List.mem_of_find?_eq_some hfind
      have hxid : id = exchange.id := Client.find?_id hfind
      obtain rfl : request = .new id method params :=
        e.line.coherent.requested_inj hrequest ⟨_, hx, rfl⟩ (hid.trans hxid.symm)
      have hfaithful := h.reply hx rfl (hxid ▸ hfirst)
      exact (Terms.goesOn_goal rfl now hasks hfaithful).stands _
    · exact h
  | settle ack answer =>
    refine h.setCall hk fun hj => ?_
    obtain ⟨htells, hnames⟩ := hruns hj
    exact (Terms.goesOn_settlement rfl now htells hnames).stands _
  | sleep waking =>
    cases waking with
    | answer answer => exact h.setCall hk fun hj => hruns hj
    | poll polling => exact h.startExchange hk _ fun hj => .poll polling (hruns hj)

theorem hear (h : Sound visible named base e) {request : Rpc.Request}
    (hrequest : e.client.Requested request) (hid : request.id < limit64)
    {response : Node.HttpResponse} {reply : Rpc.Reply}
    (hcarries : Node.Carries request.id response reply)
    (hfaithful : base.client.nextId ≤ request.id → Faithful visible named request reply) :
    Sound visible named base (e.hear request.frame response) := by
  obtain ⟨x, hx, rfl⟩ := id hrequest
  obtain ⟨inbound, hreceive, hbrings⟩ := hcarries.receive hid x.method x.params
  rw [show e.hear x.request.frame response = _ from e.hear_eq hreceive]
  exact { h with
    inbound := by
      intro frame hf
      rcases List.mem_append.mp hf with hf | hf
      · exact h.inbound frame hf
      · rw [List.mem_singleton.mp hf]
        exact ⟨x.request, reply, hrequest, hbrings, hfaithful⟩ }

theorem take (h : Sound visible named base e) {request : Rpc.Request}
    (hrequest : e.client.Requested request) (hid : request.id < limit64) (ticket : Nat)
    {outcome : Node.HttpOutcome} (htaken : Node.Taken visible named request outcome) :
    Sound visible named base (e.take ticket request.frame outcome) := by
  cases htaken with
  | responded response reply hcarries hfaithful =>
    exact h.hear hrequest hid hcarries fun _ => hfaithful
  | awaiting hfaithful =>
    exact { h with
      posted := by
        intro p hp
        rcases List.mem_append.mp hp with hp | hp
        · exact h.posted p hp
        · rw [List.mem_singleton.mp hp]
          exact ⟨request, hrequest, hid, rfl, rfl, fun _ => hfaithful⟩ }

theorem tell (h : Sound visible named base e) (answer : TicketAnswer) :
    Sound visible named base (e.tell answer) := by
  unfold Engine.tell
  split
  · rename_i p hp
    obtain ⟨request, hrequest, hid, hframe, hanswer, hfaithful⟩ :=
      h.posted p (List.mem_of_find?_eq_some hp)
    obtain ⟨reply, hcarries⟩ := Node.Carries.finalized request.id answer.result
    have hrest : Sound visible named base
        { e with posted := e.posted.filter (·.ticket != answer.ticket) } :=
      { h with posted := fun p hp => h.posted p (List.mem_filter.mp hp).1 }
    rw [hframe, hanswer]
    exact hrest.hear hrequest hid hcarries fun hfirst => hfaithful hfirst reply
  · exact h

theorem change (h : Sound visible named base e) {c c' : Chain} {e' : Engine}
    (hc : Change c e c' e') (hid : e.client.nextId ≤ limit64)
    (hv : ∀ hash, c'.Visible hash → visible hash)
    (hn : ∀ b ∈ c.queuedBetween c', named b.hash) : Sound visible named base e' := by
  cases hc with
  | same => exact h
  | told _ answers =>
    induction answers generalizing e with
    | nil => exact h
    | cons answer answers ih => exact ih (h.tell answer) (by simpa [client] using hid)
  | began _ call => exact h.begin call
  | turned _ k call errand now under => exact h.turn under now
  | moved _ event sent => exact h.move event fun frame hf => h.inbound frame (sent frame hf)
  | taken ticket x asked =>
    have hmethod := Client.method_ne_empty_run e.line.history asked
    have hxid := Nat.lt_of_lt_of_le (e.line.coherent.id_lt x asked) hid
    have htaken := Node.accept_taken c ticket hxid hmethod x.params
    refine h.take ⟨x, asked, rfl⟩ hxid ticket (htaken.mono hv ?_)
    rintro hash ⟨b, hb, rfl⟩
    exact hn b hb

end Sound

end Engine

namespace Deployment

variable {visible named : Hash → Prop} {base : Engine} {i : Nat}

theorem nextId_le_run (d : Deployment) (es : List Event) (i : Nat) :
    (d.engines i).client.nextId ≤ ((d.run es).engines i).client.nextId := by
  induction es generalizing d with
  | nil => exact Nat.le_refl _
  | cons event es ih => exact Nat.le_trans (d.step_engine event i).nextId.1 (ih _)

theorem nextId_run_le (d : Deployment) (es : List Event) (i : Nat) :
    ((d.run es).engines i).client.nextId ≤ (d.engines i).client.nextId + es.length := by
  induction es generalizing d with
  | nil => exact Nat.le_refl _
  | cons event es ih =>
    have hfirst := (d.step_engine event i).nextId.2
    have hrest := ih (d.step event)
    simp only [run, List.foldl_cons, List.length_cons] at hrest ⊢
    omega

/-- An engine is sound at the end of every run, for what is visible and has been sealed by then. -/
theorem sound_run (d : Deployment) (es : List Event)
    (h : Engine.Sound visible named base (d.engines i))
    (hid : ((d.run es).engines i).client.nextId ≤ limit64)
    (hv : ∀ hash, (d.run es).chain.Visible hash → visible hash)
    (hn : ∀ b ∈ d.sealing es, named b.hash) :
    Engine.Sound visible named base ((d.run es).engines i) := by
  induction es using List.reverseRecOn with
  | nil => exact h
  | append_singleton es event ih =>
    rw [run_concat] at hid hv ⊢
    rw [sealing_concat] at hn
    have hstep := (d.run es).step_engine event i
    have hbefore := Nat.le_trans hstep.nextId.1 hid
    refine (ih hbefore (fun hash hvisible => ?_) fun b hb => ?_).change hstep hbefore hv fun b hb => ?_
    · exact hv hash (((d.run es).step_change event).visible hvisible)
    · exact hn b (List.mem_append_left _ hb)
    · exact hn b (List.mem_append_right _ hb)

theorem sound_since (config : ChainConfig) (configs : Nat → ClientConfig) (before es : List Event)
    {i : Nat} :
    let earlier := (start config configs).run before
    let d := earlier.run es
    (d.engines i).client.nextId ≤ limit64 →
      Engine.Sound d.chain.Visible (fun hash => ∃ b ∈ earlier.sealing es, b.hash = hash)
        (earlier.engines i) (d.engines i) := by
  intro earlier d hid
  have hbefore : (earlier.engines i).client.nextId ≤ limit64 :=
    Nat.le_trans (earlier.nextId_le_run es i) hid
  have hearlier : Engine.Sound (fun _ => True) (fun _ => True) { config := configs i }
      (earlier.engines i) :=
    sound_run _ before (Engine.Sound.start (configs i)) hbefore (fun _ _ => trivial)
      fun _ _ => trivial
  exact sound_run earlier es (hearlier.rebase _ _) hid (fun _ hv => hv) fun b hb => ⟨b, hb, rfl⟩

end Deployment

end SealedChain
