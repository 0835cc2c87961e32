import SealedChain.Proofs.Client.Pending

/-!
# Replies and their exchanges

An exchange that ends with a reply got it from the first value with its id that was routed while it
was under way, no value answers two exchanges and no exchange is answered twice. Values that match
no exchange under way might as well not have come.
-/
namespace SealedChain.Client

def outstanding (c : Client) (id : Nat) : Bool :=
  c.exchanges.any fun e => e.id == id && e.stage.isLive

/-- A value is delivered to an exchange: routing it takes the exchange's id out of the table. -/
def Takes (c : Client) (v : Json) (id : Nat) : Prop := id ∈ c.pending ∧ id ∉ (c.element v).pending

def Event.isStray (c : Client) : Event → Bool
  | .element v => match (Rpc.Reply.ofJson? v).bind Rpc.Reply.correlationId with
    | some id => !c.outstanding id
    | none => true
  | _ => false

/-- A run without the values that match no exchange under way when they are routed. -/
def withoutStrays (c : Client) : List Event → List Event
  | [] => []
  | e :: es =>
    if e.isStray c then (c.step e).withoutStrays es else e :: (c.step e).withoutStrays es

def after (es : List Event) (t : Nat) : Client := run {} (es.take t)

theorem after_succ {es : List Event} {t : Nat} {e : Event} (h : es[t]? = some e) :
    after es (t + 1) = (after es t).step e := by
  rw [after, List.take_add_one, h, Option.toList_some, run_concat]
  rfl

theorem after_run (es : List Event) {t u : Nat} (h : t ≤ u) :
    after es u = (after es t).run ((es.take u).drop t) := by
  conv_lhs => rw [after, ← List.take_append_drop t (es.take u), List.take_take, Nat.min_eq_left h]
  exact run_append _ _ _

theorem coherent_after (es : List Event) (t : Nat) : Coherent (after es t) := coherent_run _

variable {c : Client}

theorem Coherent.outstanding_of_pending (h : Coherent c) {id : Nat} (hp : id ∈ c.pending) :
    c.outstanding id = true := by
  obtain ⟨e, he, hid, hlive, -⟩ := (h.pending id).mp hp
  exact List.any_eq_true.mpr ⟨e, he, by simp [hid, hlive]⟩

theorem Coherent.outstanding_lt (h : Coherent c) {id : Nat} (ho : c.outstanding id = true) :
    id < c.nextId := by
  obtain ⟨e, he, hb⟩ := List.any_eq_true.mp ho
  simp only [Bool.and_eq_true, beq_iff_eq] at hb
  exact hb.1 ▸ h.id_lt e he

theorem Takes.correlated {v : Json} {id : Nat} (h : c.Takes v id) :
    ∃ reply, Rpc.Reply.ofJson? v = some reply ∧ reply.correlationId = some id := by
  obtain ⟨hp, hn⟩ := h
  rcases c.element_cases v with he | ⟨reply, k, hv, hk, -, -, he⟩
  · rw [he] at hn
    exact absurd hp hn
  · refine ⟨reply, hv, ?_⟩
    rw [he, deliver, mem_pending_forget, pending_modify] at hn
    have hid : id = k := by
      by_contra hne
      exact hn ⟨hp, hne⟩
    rw [hk, hid]

theorem takes_of_open {v : Json} {id : Nat} {reply : Rpc.Reply} (ho : c.closed = false)
    (hv : Rpc.Reply.ofJson? v = some reply) (hi : reply.correlationId = some id)
    (hp : id ∈ c.pending) : c.Takes v id := by
  refine ⟨hp, ?_⟩
  rw [element_deliver ho hv hi hp, deliver, mem_pending_forget]
  exact fun h => h.2 rfl

theorem Takes.unique {v : Json} {id id' : Nat} (h : c.Takes v id) (h' : c.Takes v id') :
    id = id' := by
  obtain ⟨reply, hv, hi⟩ := h.correlated
  obtain ⟨reply', hv', hi'⟩ := h'.correlated
  obtain rfl : reply = reply' := Option.some.inj (hv.symm.trans hv')
  exact Option.some.inj (hi.symm.trans hi')

/-- What an exchange holds was there before or has just been delivered to it. -/
theorem Change.filled {event : Event} {c' : Client} (h : Change c event c') {e : Exchange}
    (he : e ∈ c'.exchanges) {reply : Rpc.Reply} (hs : e.slot = .filled reply) :
    (∃ x ∈ c.exchanges, x.id = e.id ∧ x.slot = .filled reply) ∨
    ∃ v, event = .element v ∧ Rpc.Reply.ofJson? v = some reply ∧
      reply.correlationId = some e.id ∧ e.id ∈ c.pending ∧ c.closed = false := by
  cases h with
  | same | closed => exact .inl ⟨e, he, rfl, hs⟩
  | registered method params =>
    rcases List.mem_cons.mp he with rfl | he
    · simp at hs
    · exact .inl ⟨e, he, rfl, hs⟩
  | advanced x stage | finished x stage =>
    obtain ⟨y, hy, rfl⟩ := List.mem_map.mp he
    refine .inl ⟨y, hy, ?_, ?_⟩
    · split <;> rfl
    · rw [← hs]
      split <;> rfl
  | delivered v reply' id hv hd hi hp ho =>
    obtain ⟨y, hy, rfl⟩ := List.mem_map.mp he
    by_cases hid : y.id = id
    · rw [if_pos hid] at hs ⊢
      obtain rfl : reply' = reply := Slot.filled.inj hs
      exact .inr ⟨v, hv, hd, hid ▸ hi, hid ▸ hp, ho⟩
    · rw [if_neg hid] at hs ⊢
      exact .inl ⟨y, hy, rfl, hs⟩
  | cleared _ =>
    obtain ⟨y, hy, rfl⟩ := List.mem_map.mp he
    split at hs
    · simp at hs
    · rename_i hp
      rw [if_neg hp]
      exact .inl ⟨y, hy, rfl, hs⟩

theorem filled_after (es : List Event) (t : Nat) (ht : t ≤ es.length) {e : Exchange}
    (he : e ∈ (after es t).exchanges) {reply : Rpc.Reply} (hs : e.slot = .filled reply) :
    ∃ k v, es[k]? = some (.element v) ∧ Rpc.Reply.ofJson? v = some reply ∧
      reply.correlationId = some e.id ∧ (after es k).Takes v e.id := by
  induction t generalizing e with
  | zero => simp [after] at he
  | succ t ih =>
    have hevent := List.getElem?_eq_getElem ht
    rw [after_succ hevent] at he
    rcases (step_change _ _).filled he hs with ⟨x, hx, hid, hxs⟩ | ⟨v, hv, hd, hi, hp, ho⟩
    · rw [← hid]
      exact ih (Nat.le_of_lt ht) hx hxs
    · exact ⟨t, v, by rw [hevent, hv], hd, hi, takes_of_open ho hd hi hp⟩

/-- After a delivery the exchange is not delivered to again. -/
theorem not_takes_later {es : List Event} {j k id : Nat} {v w : Json}
    (hj : es[j]? = some (.element v)) (h : (after es j).Takes v id) (hjk : j < k) :
    ¬ (after es k).Takes w id := by
  rintro ⟨hp, -⟩
  rw [after_run es (Nat.succ_le_of_lt hjk)] at hp
  refine h.2 ?_
  have hstep := after_succ hj
  simp only [step] at hstep
  rw [← hstep]
  refine mem_pending_of_run ?_ hp
  rw [hstep]
  exact Nat.lt_of_lt_of_le ((coherent_after es j).pending_lt h.1)
    (step_change (after es j) (.element v)).nextId_le

theorem Takes.not_closed {v : Json} {id : Nat} (h : c.Takes v id) : c.closed = false := by
  cases hc : c.closed with
  | false => rfl
  | true =>
    obtain ⟨hp, hn⟩ := h
    simp only [element, hc, if_true] at hn
    exact absurd hp hn

/-- No earlier reply with the id was routed while the exchange was under way. -/
theorem takes_first {es : List Event} {j k id : Nat} {v w : Json} {reply : Rpc.Reply}
    (h : (after es k).Takes v id) (hjk : j < k) (hj : es[j]? = some (.element w))
    (hw : Rpc.Reply.ofJson? w = some reply) (hi : reply.correlationId = some id) :
    (after es j).outstanding id = false := by
  by_contra ho
  have hid := (coherent_after es j).outstanding_lt (by simpa using ho)
  have hrun := after_run es (Nat.le_of_lt hjk)
  have hp : id ∈ (after es j).pending := mem_pending_of_run hid (hrun ▸ h.1)
  have hopen : (after es j).closed = false := closed_of_run (hrun ▸ h.not_closed)
  exact not_takes_later hj (takes_of_open hopen hw hi hp) hjk h

theorem step_stray (h : Coherent c) {e : Event} (hs : e.isStray c = true) : c.step e = c := by
  cases e with
  | element v =>
    rcases c.element_cases v with he | ⟨reply, id, hv, hi, hp, -, -⟩
    · exact he
    · simp [Event.isStray, hv, hi, h.outstanding_of_pending hp] at hs
  | _ => simp [Event.isStray] at hs

theorem run_withoutStrays (h : Coherent c) (es : List Event) :
    c.run (c.withoutStrays es) = c.run es := by
  induction es generalizing c with
  | nil => rfl
  | cons e es ih =>
    have hrest := ih (h.change (step_change c e))
    rw [withoutStrays]
    split
    · rename_i hs
      rw [step_stray h hs] at hrest ⊢
      rw [hrest]
      exact congrArg (run · es) (step_stray h hs).symm
    · exact hrest

theorem frame_id (e : Exchange) : ∃ rest, e.frame.toList =
    "\x7b\"jsonrpc\":\"2.0\",\"id\":".toList ++ (Digits.decimal e.id ++ ',' :: rest) := by
  have hid : Digits.signed (e.id : Int) = Digits.decimal e.id := by simp [Digits.signed]
  simp only [Exchange.frame, Rpc.Request.frame, Json.render, String.toList_ofList,
    Rpc.Request.toJson, Rpc.Request.members, Rpc.Request.new, Json.chars, Json.memberChars,
    Json.nat, hid]
  simp [Json.quoted, Json.escape, Rpc.version]

/-- What the exchanges of a run have to do with the values that are routed in it. -/
structure Correlated (es : List Event) : Prop where
  routes : ∀ (c : Client) (frame : String),
    c.routeFrame frame = c.run ((elementsOf frame).map .element)
  distinct : ((run {} es).exchanges.map (·.id)).Nodup
  frames : ∀ e ∈ (run {} es).exchanges, ∃ rest, e.frame.toList =
    "\x7b\"jsonrpc\":\"2.0\",\"id\":".toList ++ (Digits.decimal e.id ++ ',' :: rest)
  answered : ∀ e ∈ (run {} es).exchanges, ∀ reply, e.stage = .ended (.ok reply) →
    ∃ k v, es[k]? = some (.element v) ∧ Rpc.Reply.ofJson? v = some reply ∧
      reply.correlationId = some e.id ∧ (after es k).Takes v e.id ∧
      (after es k).outstanding e.id = true ∧
      ∀ j < k, ∀ w earlier, es[j]? = some (.element w) → Rpc.Reply.ofJson? w = some earlier →
        earlier.correlationId = some e.id → (after es j).outstanding e.id = false
  delivers : ∀ k v reply, es[k]? = some (.element v) → Rpc.Reply.ofJson? v = some reply →
    (after es k).closed = false → ∀ e ∈ (after es k).exchanges,
    reply.correlationId = some e.id → e.stage.isLive = true → e.slot = .empty →
    (after es k).Takes v e.id
  unique : ∀ k v id id', es[k]? = some (.element v) → (after es k).Takes v id →
    (after es k).Takes v id' → id = id'
  once : ∀ j k v w id, es[j]? = some (.element v) → es[k]? = some (.element w) →
    (after es j).Takes v id → (after es k).Takes w id → j = k
  strays : run {} (withoutStrays {} es) = run {} es

/-- An exchange that ends with a reply was delivered the first one with its id that was routed while
it was under way. A value is delivered to one exchange at most and an exchange once at most, and
values that match no exchange under way change nothing. -/
theorem correlated_run (es : List Event) : Correlated es where
  routes := routeFrame_eq_run
  distinct := (coherent_run es).distinct
  frames := fun e _ => frame_id e
  answered := by
    intro e he reply hended
    have hfilled := (coherent_run es).answered e he reply hended
    have hend : after es es.length = run {} es := by rw [after, List.take_length]
    rw [← hend] at he
    obtain ⟨k, v, hk, hv, hi, htakes⟩ := filled_after es es.length (Nat.le_refl _) he hfilled
    refine ⟨k, v, hk, hv, hi, htakes, (coherent_after es k).outstanding_of_pending htakes.1, ?_⟩
    exact fun j hjk w earlier hj hw hi => takes_first htakes hjk hj hw hi
  delivers := by
    intro k v reply _ hv hopen e he hi hlive hslot
    exact takes_of_open hopen hv hi (((coherent_after es k).mem_pending he).mpr ⟨hlive, hslot⟩)
  unique := fun k v id id' _ hid hid' => hid.unique hid'
  once := by
    intro j k v w id hj hk htj htk
    rcases Nat.lt_trichotomy j k with hlt | heq | hgt
    · exact absurd htk (not_takes_later hj htj hlt)
    · exact heq
    · exact absurd htj (not_takes_later hk htk hgt)
  strays := run_withoutStrays coherent_empty es

end SealedChain.Client
