import SealedChain.Proofs.Client.Loop

/-!
# The end of the inbound stream

Every value that comes in before the end of the stream is routed, in order and while the client is
open. An exchange that registers before the table is cleared loses its place with it unless it has
its reply; one that registers later finds the client closed. None is left to wait.
-/
namespace SealedChain

namespace Dispatcher

def RoutedOpen (history : List Client.Event) : Prop :=
  ∀ before v rest, history = before ++ .element v :: rest → (Client.run {} before).closed = false

theorem RoutedOpen.concat {history : List Client.Event} (h : RoutedOpen history)
    {event : Client.Event}
    (hopen : event.value?.isSome → (Client.run {} history).closed = false) :
    RoutedOpen (history ++ [event]) := by
  intro before v rest heq
  rcases List.eq_nil_or_concat rest with rfl | ⟨rest, last, rfl⟩
  · obtain ⟨rfl, hlast⟩ := List.append_inj' heq rfl
    obtain rfl := (List.cons.inj hlast).1
    exact hopen rfl
  · rw [List.concat_eq_append, ← List.cons_append, ← List.append_assoc] at heq
    exact h before v rest (List.append_inj' heq rfl).1

/-- The state of a loop that has routed everything up to what it still holds. -/
structure Orderly (d : Dispatcher) : Prop where
  routed : d.history.filterMap Client.Event.value? ++ d.inHand ++ d.inbox.flatMap elementsOf =
    d.arrived.flatMap elementsOf
  opened : RoutedOpen d.history
  drained : d.client.closed = true → d.ended = true ∧ d.inHand = [] ∧ d.inbox = []
  shut : d.finished = true → Client.Shut d.client

theorem orderly_start : Orderly {} where
  routed := rfl
  opened := by
    intro before v rest heq
    simp at heq
  drained := by simp [client]
  shut := by simp

namespace Orderly

variable {d : Dispatcher}

theorem perform (h : Orderly d) {event : Client.Event} (hnone : event.value? = none)
    (hclosed : (d.client.step event).closed = true →
      d.ended = true ∧ d.inHand = [] ∧ d.inbox = []) : Orderly (d.perform event) where
  routed := by simpa [Dispatcher.perform, List.filterMap_append, hnone] using h.routed
  opened := h.opened.concat (by simp [hnone])
  drained := by
    rw [client_perform]
    exact hclosed
  shut := by
    rw [client_perform]
    exact fun hf => (h.shut hf).step d.coherent event

theorem next (h : Orderly d) : Orderly d.next := by
  unfold Dispatcher.next
  split
  · exact h
  · rename_i hrunning
    split
    · rename_i _ v values hdone
      have hopen : d.client.closed = false := by
        by_contra hclosed
        have hdrained := (h.drained (by simpa using hclosed)).2.1
        simp [hdone] at hdrained
      exact {
        routed := by simpa [Dispatcher.perform, Client.Event.value?, hdone] using h.routed
        opened := h.opened.concat fun _ => hopen
        drained := fun hclosed => by
          have hstill := closed_elements d.client [v]
          rw [hopen] at hstill
          have hnow : (d.client.run [.element v]).closed = true := by
            rw [← hclosed]
            exact congrArg Client.closed (Client.run_append {} d.history [.element v]).symm
          simp [hnow] at hstill
        shut := fun hf => absurd hf hrunning }
    · rename_i frame frames hdone hinbox
      exact {
        routed := by simpa [hdone, hinbox] using h.routed
        opened := h.opened
        drained := fun hclosed => by simpa [hinbox] using (h.drained hclosed).2.2
        shut := fun hf => absurd hf hrunning }
    · rename_i hdone hinbox
      split
      · rename_i hclosed
        have hcleared : Orderly (d.perform .clear) := h.perform rfl fun _ => h.drained hclosed
        exact { hcleared with
          shut := fun _ => by
            change Client.Shut (d.perform .clear).client
            rw [client_perform]
            exact Client.shut_clear d.coherent hclosed }
      · split
        · rename_i hended
          exact h.perform rfl fun _ => ⟨hended, hdone, hinbox⟩
        · exact h

theorem step (h : Orderly d) (e : Event) : Orderly (d.step e) := by
  cases e with
  | call event own =>
    exact h.perform (value?_call own) fun hclosed => h.drained (closed_call own hclosed)
  | arrive frame =>
    simp only [Dispatcher.step]
    split
    · exact h
    · rename_i hopen
      exact { h with
        routed := by simp [← h.routed]
        drained := fun hclosed => absurd (h.drained hclosed).1 hopen }
  | hangUp => exact { h with drained := fun hclosed => ⟨rfl, (h.drained hclosed).2⟩ }
  | next => exact h.next

end Orderly

theorem orderly_run (es : List Event) : Orderly (run {} es) := by
  induction es using List.reverseRecOn with
  | nil => exact orderly_start
  | append_singleton es e ih =>
    rw [run_concat]
    exact ih.step e

def due (d : Dispatcher) (frames : List String) : List Json :=
  d.history.filterMap Client.Event.value? ++ d.inHand ++ frames.flatMap elementsOf

/-- How often the loop has to go on until the frame in hand and these have been routed. -/
def turns (d : Dispatcher) (frames : List String) : Nat :=
  d.inHand.length + (frames.flatMap elementsOf).length + frames.length

/-- Whatever step is made, the frames at the head of the inbox stay due, and a step of the loop
brings them nearer. -/
theorem due_step {d : Dispatcher} (h : Orderly d) {frames later : List String}
    (hinbox : d.inbox = frames ++ later) (hleft : d.turns frames ≠ 0) (e : Event) :
    ∃ frames' later', (d.step e).inbox = frames' ++ later' ∧
      (d.step e).due frames' = d.due frames ∧
      (d.step e).turns frames' ≤ d.turns frames - if e.isNext then 1 else 0 := by
  cases e with
  | call event own =>
    refine ⟨frames, later, hinbox, ?_, Nat.le_refl _⟩
    simp [due, step, perform, List.filterMap_append, value?_call own]
  | arrive frame =>
    simp only [step]
    split
    · exact ⟨frames, later, hinbox, rfl, Nat.le_refl _⟩
    · exact ⟨frames, later ++ [frame], by simp [hinbox], rfl, Nat.le_refl _⟩
  | hangUp => exact ⟨frames, later, hinbox, rfl, Nat.le_refl _⟩
  | next =>
    -- a loop that has come to its end has nothing left to route
    have hrunning : ¬ d.finished = true := fun hf => by
      obtain ⟨-, hdone, hempty⟩ := h.drained (h.shut hf).closed
      obtain ⟨rfl, -⟩ := List.append_eq_nil_iff.mp (hinbox.symm.trans hempty)
      simp [turns, hdone] at hleft
    simp only [step, next, if_neg hrunning]
    split
    · rename_i v values hdone
      refine ⟨frames, later, hinbox, ?_, ?_⟩
      · simp [due, perform, Client.Event.value?, hdone]
      · simp only [turns, hdone, List.length_cons, Event.isNext, if_true]
        omega
    · rename_i frame rest hdone hfound
      cases frames with
      | nil => simp [turns, hdone] at hleft
      | cons frame' frames =>
        obtain ⟨rfl, rfl⟩ := List.cons.inj (hfound.symm.trans hinbox)
        refine ⟨frames, later, rfl, ?_, ?_⟩
        · simp [due, hdone]
        · simp only [turns, hdone, List.flatMap_cons, List.length_append, List.length_cons,
            List.length_nil, Event.isNext, if_true]
          omega
    · rename_i hdone hempty
      obtain ⟨rfl, -⟩ := List.append_eq_nil_iff.mp (hinbox.symm.trans hempty)
      simp [turns, hdone] at hleft

theorem due_of_turns {d : Dispatcher} {frames : List String} (h : d.turns frames = 0) :
    d.due frames = d.history.filterMap Client.Event.value? := by
  simp only [turns, Nat.add_eq_zero_iff, List.length_eq_zero_iff] at h
  obtain ⟨⟨hdone, hnone⟩, -⟩ := h
  rw [due, hdone, hnone, List.append_nil, List.append_nil]

/-- The frames at the head of the inbox are routed once the loop has gone on often enough, whatever
comes in behind them. -/
theorem due_run {d : Dispatcher} (h : Orderly d) {frames later : List String}
    (hinbox : d.inbox = frames ++ later) (es : List Event)
    (hnexts : d.turns frames ≤ es.countP Event.isNext) :
    d.due frames <+: (d.run es).history.filterMap Client.Event.value? := by
  induction es generalizing d frames later with
  | nil =>
    rw [due_of_turns (Nat.le_zero.mp hnexts)]
    exact List.prefix_refl _
  | cons e es ih =>
    by_cases hzero : d.turns frames = 0
    · rw [due_of_turns hzero]
      exact (d.history_run (e :: es)).filterMap _
    · obtain ⟨frames', later', hinbox', hdue, hturns⟩ := due_step h hinbox hzero e
      rw [List.countP_cons] at hnexts
      rw [← hdue]
      exact ih (h.step e) hinbox' (by omega)

theorem finished_run {d : Dispatcher} (h : d.finished = true) (es : List Event) :
    (d.run es).finished = true ∧ ∃ calls : List Client.Event,
      (d.run es).client = d.client.run calls ∧ ∀ event ∈ calls, event.isCall = true := by
  induction es using List.reverseRecOn with
  | nil => exact ⟨h, [], rfl, by simp⟩
  | append_singleton es e ih =>
    obtain ⟨hf, calls, hclient, hcalls⟩ := ih
    rw [run_concat]
    have same : ∀ {d' : Dispatcher}, d'.finished = true → d'.history = (d.run es).history →
        d'.finished = true ∧ ∃ calls : List Client.Event,
          d'.client = d.client.run calls ∧ ∀ event ∈ calls, event.isCall = true := by
      intro d' hf hhistory
      refine ⟨hf, calls, ?_, hcalls⟩
      rw [← hclient, client, hhistory]
      rfl
    cases e with
    | call event own =>
      refine ⟨hf, calls ++ [event], ?_, ?_⟩
      · rw [Client.run_concat, ← hclient]
        exact client_perform _ _
      · intro event' hmem
        rcases List.mem_append.mp hmem with hmem | hmem
        · exact hcalls event' hmem
        · rw [List.mem_singleton.mp hmem]
          exact own
    | arrive frame =>
      simp only [step]
      split
      · exact same hf rfl
      · exact same hf rfl
    | hangUp => exact same hf rfl
    | next =>
      have hnext : (d.run es).next = d.run es := by simp [next, hf]
      simp only [step, hnext]
      exact same hf rfl

theorem pending_eq_nil {c : Client} (hc : Client.Coherent c) (h : Client.Shut c)
    (hlooked : ∀ e ∈ c.exchanges, e.stage ≠ .registered) : c.pending = [] := by
  refine List.eq_nil_iff_forall_not_mem.mpr fun id hp => ?_
  obtain ⟨e, he, -, hlive, hempty⟩ := (hc.pending id).mp hp
  cases hs : e.stage with
  | registered => exact hlooked e he hs
  | sending => exact h.slot e he (.inl hs) hempty
  | waiting => exact h.slot e he (.inr hs) hempty
  | ended | cancelled => simp [hs, Stage.isLive] at hlive

/-- What holds of a client and its loop, however their steps fall between each other. -/
structure Unstranded (d : Dispatcher) : Prop where
  routed : d.client.closed = true →
    d.ended = true ∧ d.history.filterMap Client.Event.value? = d.arrived.flatMap elementsOf
  opened : RoutedOpen d.history
  routes : ∃ n, ∀ fs, n ≤ fs.countP Event.isNext →
    d.arrived.flatMap elementsOf <+: (d.run fs).history.filterMap Client.Event.value?
  dispatches : d.finished = false → d.inHand = [] → d.client.closed = false →
    ∃ n, (d.run (List.replicate n .next)).client = d.client.dispatch d.inbox d.ended ∧
      (d.run (List.replicate n .next)).finished = d.ended
  finishes : d.ended = true →
    ∃ n, ∀ fs, n ≤ fs.countP Event.isNext → (d.run fs).finished = true
  ended : d.finished = true → ∀ e ∈ d.client.exchanges,
    e.stage.isLive = false → Client.EndedIn d.history e
  settled : d.finished = true → ∀ e ∈ d.client.exchanges, e.stage = .sending ∨ e.stage = .waiting →
    e.id ∉ d.client.pending ∧ ((∃ reply, e.slot = .filled reply) ∨ e.slot = .abandoned)
  proceeds : d.finished = true → ∀ e ∈ d.client.exchanges, ∀ result,
    (d.client.proceed e.id result).stage? e.id = some (e.onward result) ∧
      (e.onward result).isLive = false
  kept : d.finished = true → ∀ fs, ∀ e ∈ d.client.exchanges,
    ∃ x ∈ (d.run fs).client.exchanges, x.id = e.id ∧ x.slot = e.slot
  refused : d.finished = true → ∀ fs, ∀ x ∈ (d.run fs).client.exchanges,
    (∀ e ∈ d.client.exchanges, e.id = x.id → e.stage = .registered) → x.Refused
  emptied : d.finished = true → ∀ fs,
    (∀ x ∈ (d.run fs).client.exchanges, x.stage ≠ .registered) → (d.run fs).client.pending = []

theorem unstranded_run (es : List Event) : Unstranded (run {} es) := by
  generalize hd : run {} es = d
  have h : Orderly d := hd ▸ orderly_run es
  have hc : Client.Coherent d.client := d.coherent
  exact {
    routed := fun hclosed => by
      obtain ⟨hended, hdone, hinbox⟩ := h.drained hclosed
      have hrouted := h.routed
      rw [hdone, hinbox, List.append_nil, List.flatMap_nil, List.append_nil] at hrouted
      exact ⟨hended, hrouted⟩
    opened := h.opened
    routes := ⟨d.turns d.inbox, fun fs hnexts => by
      rw [← h.routed]
      exact due_run h (List.append_nil _).symm fs hnexts⟩
    dispatches := d.run_dispatch
    finishes := fun hended => ⟨d.nextsLeft, fun fs hnexts => by
      have hleft := nextsLeft_run hended fs
      exact finished_of_nextsLeft (by omega)⟩
    ended := fun _ _ he => Client.endedIn_run d.history he
    settled := fun hf e he hstage => by
      have hslot := (h.shut hf).slot e he hstage
      refine ⟨fun hp => hslot ((hc.mem_pending he).mp hp).2, ?_⟩
      cases hs : e.slot with
      | empty => exact absurd hs hslot
      | filled reply => exact .inl ⟨reply, rfl⟩
      | abandoned => exact .inr rfl
    proceeds := fun hf _ he result =>
      ⟨Client.stage?_proceed hc (h.shut hf).closed he result, (h.shut hf).onward he result⟩
    kept := fun hf fs _ he => by
      obtain ⟨-, calls, hclient, hcalls⟩ := finished_run hf fs
      rw [hclient]
      exact Client.slot_run hc hcalls he
    refused := fun hf fs => by
      obtain ⟨-, calls, hclient, -⟩ := finished_run hf fs
      rw [hclient]
      exact ((h.shut hf).run hc calls).2
    emptied := fun hf fs hlooked => by
      obtain ⟨-, calls, hclient, -⟩ := finished_run hf fs
      have hshut := ((h.shut hf).run hc calls).1
      exact pending_eq_nil (d.run fs).coherent (hclient ▸ hshut) hlooked }

example :
    let d := run {} [.call (.start "a" []) rfl, .call (.check 1) rfl, .call (.sent 1 (.ok ())) rfl,
      .hangUp, .next, .call (.start "b" []) rfl, .next, .call (.start "c" []) rfl,
      .call (.check 2) rfl, .call (.receive 1) rfl, .call (.check 3) rfl]
    d.finished = true ∧ d.client.pending = [] ∧ d.client.exchanges.map (·.stage) =
      [.ended (.error .closed), .ended (.error .closed), .ended (.error .closed)] :=
  ⟨rfl, rfl, rfl⟩

end Dispatcher

end SealedChain
