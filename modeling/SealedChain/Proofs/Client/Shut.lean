import SealedChain.Proofs.Client.Fate

/-!
# Clients that are shut

A client is shut when it is closed and its table has been cleared since. From then on no exchange
has to wait: one that is sending or waiting has something in its slot, which does not change any
more, and one that has yet to look at the client will find it closed.
-/
namespace SealedChain

namespace Client

def Event.isCall : Event → Bool
  | .start .. | .check _ | .sent .. | .receive _ | .timeOut .. | .cancel _ => true
  | .element _ | .close | .clear => false

def proceed (c : Client) (id : Nat) (result : Except TransportError Unit) : Client :=
  ((c.check id).sent id result).receive id

end Client

/-- How far an exchange of a closed client comes by its own steps. -/
def Exchange.onward (e : Exchange) (result : Except TransportError Unit) : Stage :=
  match e.stage, result with
  | .registered, _ => .ended (.error .closed)
  | .sending, .error cause => .ended (.error cause)
  | .sending, .ok () | .waiting, _ => e.slot.stage
  | .ended outcome, _ => .ended outcome
  | .cancelled, _ => .cancelled

/-- The exchange has not got past its look at the client. -/
def Exchange.Refused (e : Exchange) : Prop :=
  e.stage = .registered ∨ e.stage = .ended (.error .closed) ∨ e.stage = .cancelled

namespace Client

/-- The client is closed, and its table has been cleared since. -/
structure Shut (c : Client) : Prop where
  closed : c.closed = true
  slot : ∀ e ∈ c.exchanges, e.stage = .sending ∨ e.stage = .waiting → e.slot ≠ .empty

variable {c : Client}

theorem closed_step (h : c.closed = true) (event : Event) : (c.step event).closed = true := by
  by_contra hopen
  have := (step_change c event).closed_eq_false (by simpa using hopen)
  simp [h] at this

theorem shut_clear (hc : Coherent c) (h : c.closed = true) : Shut c.clear where
  closed := closed_step h .clear
  slot := by
    intro e he hstage hempty
    have hp : e.id ∈ c.clear.pending :=
      ((hc.change (c.clear_change .clear)).mem_pending he).mpr
        ⟨by rcases hstage with hs | hs <;> rw [hs] <;> rfl, hempty⟩
    simp [clear, h] at hp

theorem Shut.step (h : Shut c) (hc : Coherent c) (event : Event) : Shut (c.step event) where
  closed := closed_step h.closed event
  slot := by
    intro x hx hstage
    rcases hc.fate hx with ⟨-, hs, -⟩ | ⟨e, he, hfate⟩
    · simp [hs] at hstage
    · cases hfate with
      | kept => exact h.slot x he hstage
      | passed _ hopen => simp [h.closed] at hopen
      | carried hs => exact h.slot e he (.inl hs)
      | ended _ stage hends =>
        have hover := hends.live.2
        rcases hstage with rfl | rfl <;> simp [Stage.isLive] at hover
      | delivered => simp
      | cleared => simp

theorem Shut.refused_step (h : Shut c) (hc : Coherent c) {event : Event}
    (late : Nat → Prop) (hlate : ∀ e ∈ c.exchanges, late e.id → e.Refused) :
    ∀ x ∈ (c.step event).exchanges, late x.id → x.Refused := by
  intro x hx hid
  rcases hc.fate hx with ⟨-, hs, -⟩ | ⟨e, he, hfate⟩
  · exact .inl hs
  · have hrefused := hlate e he (hfate.id_eq ▸ hid)
    unfold Exchange.Refused at hrefused ⊢
    cases hfate with
    | kept => exact hrefused
    | passed _ hopen => simp [h.closed] at hopen
    | carried hs => simp [hs] at hrefused
    | ended _ stage hends =>
      cases hends with
      | refused | dropped => exact .inr (.inl rfl)
      | unsent cause hs => simp [hs] at hrefused
      | answered reply hs => simp [hs] at hrefused
      | timedOut limit hs => rcases hs with hs | ⟨hs, -⟩ <;> simp [hs] at hrefused
      | cancelled => exact .inr (.inr rfl)
    | delivered | cleared => exact hrefused

/-- An exchange that has not looked at the client yet, or starts only later, does not get past its
look once the client is shut. -/
theorem Shut.run (h : Shut c) (hc : Coherent c) (es : List Event) :
    Shut (c.run es) ∧ ∀ x ∈ (c.run es).exchanges,
      (∀ e ∈ c.exchanges, e.id = x.id → e.stage = .registered) → x.Refused := by
  induction es using List.reverseRecOn with
  | nil => exact ⟨h, fun e he hlate => .inl (hlate e he rfl)⟩
  | append_singleton es event ih =>
    have hc' := run_induction hc (fun h hc => h.change hc) es
    rw [run_concat]
    exact ⟨ih.1.step hc' event,
      ih.1.refused_step hc' (fun id => ∀ e ∈ c.exchanges, e.id = id → e.stage = .registered) ih.2⟩

theorem slot_call (hc : Coherent c) {event : Event} (hcall : event.isCall = true) {e : Exchange}
    (he : e ∈ c.exchanges) : ∃ x ∈ (c.step event).exchanges, x.id = e.id ∧ x.slot = e.slot := by
  obtain ⟨x, hx, hsame⟩ := (step_change c event).kept he
  have hid : x.id = e.id := congrArg Rpc.Request.id hsame
  refine ⟨x, hx, hid, ?_⟩
  rcases hc.fate hx with ⟨hnew, -⟩ | ⟨e', he', hfate⟩
  · exact absurd (hc.id_lt e he) (by simp [← hid, hnew])
  · obtain rfl := hc.eq_of_id he' he (hfate.id_eq.symm.trans hid)
    cases hfate with
    | kept | passed | carried | ended => rfl
    | delivered | cleared => cases hcall

theorem slot_run (hc : Coherent c) {es : List Event} (hcalls : ∀ event ∈ es, event.isCall = true)
    {e : Exchange} (he : e ∈ c.exchanges) :
    ∃ x ∈ (c.run es).exchanges, x.id = e.id ∧ x.slot = e.slot := by
  induction es generalizing c e with
  | nil => exact ⟨e, he, rfl, rfl⟩
  | cons event es ih =>
    obtain ⟨x, hx, hid, hslot⟩ := slot_call hc (hcalls event List.mem_cons_self) he
    obtain ⟨y, hy, hid', hslot'⟩ := ih (hc.change (step_change c event))
      (fun event hmem => hcalls event (List.mem_cons_of_mem _ hmem)) hx
    exact ⟨y, hy, hid'.trans hid, hslot'.trans hslot⟩

theorem sent_receive_over {id : Nat} {e : Exchange} (hf : c.find? id = some e)
    (hover : e.stage.isLive = false) (result : Except TransportError Unit) :
    (c.sent id result).receive id = c := by
  obtain ⟨_, _, _, stage, slot⟩ := e
  cases stage with
  | registered | sending | waiting => cases hover
  | ended | cancelled => simp [sent, stage?, receive, hf]

theorem stage?_proceed (hc : Coherent c) (h : c.closed = true) {e : Exchange}
    (he : e ∈ c.exchanges) (result : Except TransportError Unit) :
    (c.proceed e.id result).stage? e.id = some (e.onward result) := by
  have hf := hc.find?_eq he
  have hs := stage?_eq hf
  have unchecked : e.stage ≠ .registered → c.check e.id = c := fun hne => by
    simp only [check, hs]
    cases hstage : e.stage <;> simp_all
  unfold proceed Exchange.onward
  cases hstage : e.stage with
  | registered =>
    have hcheck : c.check e.id = c.finish e.id (.ended (.error .closed)) := by
      simp [check, hs, hstage, h]
    rw [hcheck, sent_receive_over (find?_finish hf _) rfl]
    exact stage?_eq (find?_finish hf _)
  | sending =>
    rw [unchecked (by simp [hstage])]
    cases result with
    | ok carried =>
      have hsent : c.sent e.id (.ok carried) = c.modify e.id fun e => { e with stage := .waiting } := by
        simp [sent, hs, hstage]
      have hreceive := stage?_receive (find?_stage hf .waiting) rfl
      rw [hsent, hreceive]
    | error cause =>
      have hsent : c.sent e.id (.error cause) = c.finish e.id (.ended (.error cause)) := by
        simp [sent, hs, hstage]
      have hreceive := stage?_eq (find?_finish hf (.ended (.error cause)))
      simpa [hsent, receive, find?_finish hf] using hreceive
  | waiting =>
    have hsent : c.sent e.id result = c := by simp [sent, hs, hstage]
    rw [unchecked (by simp [hstage]), hsent]
    exact stage?_receive hf hstage
  | ended outcome =>
    rw [unchecked (by simp [hstage]), sent_receive_over hf (by rw [hstage]; rfl), hs, hstage]
  | cancelled =>
    rw [unchecked (by simp [hstage]), sent_receive_over hf (by rw [hstage]; rfl), hs, hstage]

theorem Shut.onward (h : Shut c) {e : Exchange} (he : e ∈ c.exchanges)
    (result : Except TransportError Unit) : (e.onward result).isLive = false := by
  have slot : e.stage = .sending ∨ e.stage = .waiting → e.slot.stage.isLive = false := fun hs => by
    have := h.slot e he hs
    cases hslot : e.slot with
    | empty => exact absurd hslot this
    | filled | abandoned => rfl
  unfold Exchange.onward
  split
  · rfl
  · rfl
  · rename_i hs
    exact slot (.inl hs)
  · rename_i hs
    exact slot (.inr hs)
  · rfl
  · rfl

end Client

end SealedChain
