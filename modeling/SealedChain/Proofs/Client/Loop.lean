import SealedChain.Proofs.Client.Shut

/-!
# The loop that dispatches

A loop takes the inbound frames in their order and routes their values one by one, while exchanges
register, look whether the client is open, send and wait in between, each at its own pace. When the
stream has ended and nothing of it is left, the loop closes the client, clears its table and comes
to its end. Left alone it does what `Client.dispatch` does at once; among the steps of others it
comes as far as often as it goes on.
-/
namespace SealedChain

def Client.Event.value? : Event → Option Json
  | .element v => some v
  | .start .. | .check _ | .sent .. | .receive _ | .timeOut .. | .cancel _ | .close | .clear => none

/-- A client with the loop that dispatches what comes in for it. -/
structure Dispatcher where
  history : List Client.Event := []
  arrived : List String := []
  inbox : List String := []
  /-- The values of the frame in hand that are not routed yet. -/
  inHand : List Json := []
  ended : Bool := false
  finished : Bool := false

namespace Dispatcher

def client (d : Dispatcher) : Client := Client.run {} d.history

def perform (d : Dispatcher) (event : Client.Event) : Dispatcher :=
  { d with history := d.history ++ [event] }

/-- The loop goes one indivisible step on, if it can. -/
def next (d : Dispatcher) : Dispatcher :=
  if d.finished then d
  else match d.inHand, d.inbox with
    | v :: values, _ => { d.perform (.element v) with inHand := values }
    | [], frame :: frames => { d with inbox := frames, inHand := elementsOf frame }
    | [], [] =>
      if d.client.closed then { d.perform .clear with finished := true }
      else if d.ended then d.perform .close
      else d

inductive Event where
  | call (event : Client.Event) (own : event.isCall = true)
  | arrive (frame : String)
  | hangUp
  | next

def Event.isNext : Event → Bool
  | .next => true
  | _ => false

/-- After its end the stream brings nothing. -/
def step (d : Dispatcher) : Event → Dispatcher
  | .call event _ => d.perform event
  | .arrive frame =>
    if d.ended then d else { d with arrived := d.arrived ++ [frame], inbox := d.inbox ++ [frame] }
  | .hangUp => { d with ended := true }
  | .next => d.next

def run (d : Dispatcher) (es : List Event) : Dispatcher := es.foldl step d

theorem run_append (d : Dispatcher) (es fs : List Event) :
    d.run (es ++ fs) = (d.run es).run fs :=
  List.foldl_append

theorem run_concat (d : Dispatcher) (es : List Event) (e : Event) :
    d.run (es ++ [e]) = (d.run es).step e := by
  rw [run_append]
  rfl

@[simp] theorem client_perform (d : Dispatcher) (event : Client.Event) :
    (d.perform event).client = d.client.step event :=
  Client.run_concat _ _ _

theorem coherent (d : Dispatcher) : Client.Coherent d.client := Client.coherent_run _

theorem run_inHand (d : Dispatcher) (hrunning : d.finished = false) :
    ∃ n, d.run (List.replicate n .next) =
      { d with history := d.history ++ d.inHand.map .element, inHand := [] } := by
  obtain ⟨history, arrived, inbox, inHand, ended, finished⟩ := d
  obtain rfl : finished = false := hrunning
  induction inHand generalizing history with
  | nil => exact ⟨0, by simp [run]⟩
  | cons v values ih =>
    obtain ⟨n, hn⟩ := ih (history ++ [.element v])
    refine ⟨n + 1, ?_⟩
    simpa [List.replicate_succ, run, step, next, perform] using hn

theorem run_inbox (d : Dispatcher) (hrunning : d.finished = false) :
    ∃ n, d.run (List.replicate n .next) =
      { d with
        history := d.history ++ (d.inHand ++ d.inbox.flatMap elementsOf).map .element
        inHand := []
        inbox := [] } := by
  obtain ⟨history, arrived, inbox, inHand, ended, finished⟩ := d
  obtain rfl : finished = false := hrunning
  induction inbox generalizing history inHand with
  | nil =>
    obtain ⟨n, hn⟩ := run_inHand ⟨history, arrived, [], inHand, ended, false⟩ rfl
    exact ⟨n, by simpa using hn⟩
  | cons frame frames ih =>
    obtain ⟨n, hn⟩ := run_inHand ⟨history, arrived, frame :: frames, inHand, ended, false⟩ rfl
    obtain ⟨m, hm⟩ := ih (history ++ inHand.map .element) (elementsOf frame)
    refine ⟨n + (1 + m), ?_⟩
    rw [List.replicate_add, List.replicate_add, run_append, run_append, hn]
    simpa [run, step, next, List.flatMap_cons] using hm

theorem foldl_routeFrame (c : Client) (frames : List String) :
    frames.foldl Client.routeFrame c = c.run ((frames.flatMap elementsOf).map .element) := by
  induction frames generalizing c with
  | nil => rfl
  | cons frame frames ih =>
    rw [List.foldl_cons, ih, Client.routeFrame_eq_run, List.flatMap_cons, List.map_append,
      Client.run_append]

theorem closed_elements (c : Client) (values : List Json) :
    (c.run (values.map .element)).closed = c.closed := by
  induction values generalizing c with
  | nil => rfl
  | cons v values ih =>
    have hstep : (c.element v).closed = c.closed := by
      rcases c.element_cases v with he | ⟨_, _, -, -, -, -, he⟩
      · rw [he]
      · rw [he]
        rfl
    exact (ih (c.element v)).trans hstep

theorem next_drained (d : Dispatcher) (hrunning : d.finished = false) (hdone : d.inHand = [])
    (hempty : d.inbox = []) :
    d.next = if d.client.closed then { d.perform .clear with finished := true }
      else if d.ended then d.perform .close else d := by
  simp [next, hrunning, hdone, hempty]

/-- When the stream has ended and nothing of it is left, the loop closes the client, clears it and
comes to its end. -/
theorem next_next (d : Dispatcher) (hrunning : d.finished = false) (hdone : d.inHand = [])
    (hempty : d.inbox = []) (hended : d.ended = true) (hopen : d.client.closed = false) :
    d.next.next = { (d.perform .close).perform .clear with finished := true } := by
  have hclosed : (d.perform .close).client.closed = true := by
    rw [client_perform]
    rfl
  rw [next_drained d hrunning hdone hempty, if_neg (by simp [hopen]), if_pos hended,
    next_drained (d.perform .close) hrunning hdone hempty, if_pos hclosed]

/-- Routing the frames that have come in, and the end of the stream after them, is what the loop
does when nothing else happens. -/
theorem run_dispatch (d : Dispatcher) (hrunning : d.finished = false) (hdone : d.inHand = [])
    (hopen : d.client.closed = false) :
    ∃ n, (d.run (List.replicate n .next)).client = d.client.dispatch d.inbox d.ended ∧
      (d.run (List.replicate n .next)).finished = d.ended := by
  obtain ⟨n, hn⟩ := d.run_inbox hrunning
  rw [hdone, List.nil_append] at hn
  have hrouted : (d.run (List.replicate n .next)).client =
      d.inbox.foldl Client.routeFrame d.client := by
    rw [foldl_routeFrame, hn, client, Client.run_append]
    rfl
  unfold Client.dispatch
  cases hended : d.ended with
  | false => exact ⟨n, hrouted, by rw [hn]; exact hrunning⟩
  | true =>
    have hstill : (d.run (List.replicate n .next)).client.closed = false := by
      rw [hrouted, foldl_routeFrame, closed_elements, hopen]
    have hlast := next_next (d.run (List.replicate n .next)) (by rw [hn]; exact hrunning)
      (by rw [hn]) (by rw [hn]) (by rw [hn]; exact hended) hstill
    have hrun : d.run (List.replicate (n + 2) .next) =
        (d.run (List.replicate n .next)).next.next := by
      rw [List.replicate_add, run_append]
      rfl
    refine ⟨n + 2, ?_, ?_⟩
    · rw [hrun, hlast, if_pos rfl, ← hrouted]
      change (((d.run (List.replicate n .next)).perform .close).perform .clear).client = _
      rw [client_perform, client_perform]
      rfl
    · rw [hrun, hlast]

/-! ### Among the steps of others -/

theorem closed_call {c : Client} {event : Client.Event} (hcall : event.isCall = true)
    (h : (c.step event).closed = true) : c.closed = true := by
  cases event with
  | element | close | clear => cases hcall
  | start | check | sent | receive | timeOut | cancel =>
    simp only [Client.step, Client.check, Client.sent, Client.receive, Client.timeOut,
      Client.cancel] at h
    repeat' split at h
    all_goals exact h

theorem value?_call {event : Client.Event} (hcall : event.isCall = true) : event.value? = none := by
  cases event with
  | element => cases hcall
  | _ => rfl

/-- How often the loop has to go on until it comes to its end. -/
def nextsLeft (d : Dispatcher) : Nat :=
  if d.finished then 0
  else d.inHand.length + (d.inbox.flatMap elementsOf).length + d.inbox.length +
    if d.client.closed then 1 else 2

theorem finished_of_nextsLeft {d : Dispatcher} (h : d.nextsLeft = 0) : d.finished = true := by
  unfold nextsLeft at h
  split at h
  · assumption
  · split at h <;> omega

theorem closed_perform_call (d : Dispatcher) {event : Client.Event} (own : event.isCall = true) :
    (d.perform event).client.closed = d.client.closed := by
  rw [client_perform, Bool.eq_iff_iff]
  exact ⟨closed_call own, fun hclosed => Client.closed_step hclosed event⟩

theorem closed_perform_element (d : Dispatcher) (v : Json) :
    (d.perform (.element v)).client.closed = d.client.closed := by
  rw [client_perform]
  exact closed_elements d.client [v]

theorem nextsLeft_eq {d : Dispatcher} (hf : d.finished = false) {closed : Bool}
    (hclosed : d.client.closed = closed) :
    d.nextsLeft = d.inHand.length + (d.inbox.flatMap elementsOf).length + d.inbox.length +
      if closed then 1 else 2 := by
  rw [nextsLeft, hf, hclosed, if_neg (by simp)]

theorem nextsLeft_next {d : Dispatcher} (hended : d.ended = true) :
    d.next.nextsLeft ≤ d.nextsLeft - 1 := by
  cases hf : d.finished with
  | true => simp [next, nextsLeft, hf]
  | false =>
    unfold next
    rw [if_neg (by simp [hf]), nextsLeft_eq hf rfl]
    split
    · rename_i _ v values hdone
      have hleft := nextsLeft_eq (d := { d.perform (.element v) with inHand := values }) hf
        (closed_perform_element d v)
      rw [hleft, hdone, List.length_cons]
      simp only [perform]
      omega
    · rename_i frame frames hdone hinbox
      have hleft := nextsLeft_eq (d := { d with inbox := frames, inHand := elementsOf frame }) hf
        (Eq.refl d.client.closed)
      rw [hleft, hdone, hinbox, List.flatMap_cons, List.length_append, List.length_cons,
        List.length_nil]
      simp only
      omega
    · rename_i hdone hinbox
      split
      · simp [nextsLeft]
      · rename_i hopen
        have hclosed : (d.perform .close).client.closed = true := by
          rw [client_perform]
          rfl
        rw [nextsLeft_eq (d := d.perform .close) hf hclosed]
        simp [perform, hdone, hinbox]

theorem nextsLeft_step {d : Dispatcher} (hended : d.ended = true) (e : Event) :
    (d.step e).nextsLeft ≤ d.nextsLeft := by
  cases e with
  | call event own =>
    have hclosed := closed_perform_call d own
    have hf : (d.perform event).finished = d.finished := rfl
    simp only [step, nextsLeft, hclosed, hf]
    exact Nat.le_refl _
  | arrive frame => simp [step, hended]
  | hangUp => exact Nat.le_refl _
  | next => exact Nat.le_trans (nextsLeft_next hended) (Nat.sub_le _ _)

theorem nextsLeft_run {d : Dispatcher} (hended : d.ended = true) (es : List Event) :
    (d.run es).nextsLeft ≤ d.nextsLeft - es.countP Event.isNext := by
  induction es generalizing d with
  | nil => exact Nat.le_refl _
  | cons e es ih =>
    have hstill : (d.step e).ended = true := by
      cases e with
      | call => exact hended
      | arrive => simp [step, hended]
      | hangUp => rfl
      | next =>
        simp only [step, next]
        repeat' split
        all_goals exact hended
    have hstep : (d.step e).nextsLeft ≤ d.nextsLeft - if e.isNext then 1 else 0 := by
      cases e with
      | next => exact nextsLeft_next hended
      | _ => exact nextsLeft_step hended _
    have hrest := ih hstill
    rw [List.countP_cons]
    change ((d.step e).run es).nextsLeft ≤ _
    omega

theorem history_step (d : Dispatcher) (e : Event) : d.history <+: (d.step e).history := by
  cases e with
  | call event => exact List.prefix_append _ _
  | arrive | hangUp =>
    simp only [step]
    repeat' split
    all_goals exact List.prefix_refl _
  | next =>
    simp only [step, next]
    repeat' split
    all_goals first
      | exact List.prefix_refl _
      | exact List.prefix_append _ _

theorem history_run (d : Dispatcher) (es : List Event) : d.history <+: (d.run es).history := by
  induction es generalizing d with
  | nil => exact List.prefix_refl _
  | cons e es ih => exact (d.history_step e).trans (ih (d.step e))

end Dispatcher

end SealedChain
