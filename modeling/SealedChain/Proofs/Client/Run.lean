import Mathlib.Data.List.Induction
import SealedChain.Client.Exchange

/-!
# Runs of a client

A client changes one indivisible event at a time: its exchanges are started, sent, answered, timed
out and cancelled in any order, and the values of the inbound frames are routed in between, whatever
they are. `step_change` says once what an event can do; whatever holds along runs is derived from it.
-/
namespace SealedChain

def Stage.isLive : Stage → Bool
  | .registered | .sending | .waiting => true
  | .ended _ | .cancelled => false

namespace Client

def run (c : Client) (es : List Event) : Client := es.foldl step c

@[simp] theorem run_nil (c : Client) : c.run [] = c := rfl

theorem run_append (c : Client) (es fs : List Event) : c.run (es ++ fs) = (c.run es).run fs :=
  List.foldl_append

theorem run_concat (c : Client) (es : List Event) (e : Event) :
    c.run (es ++ [e]) = (c.run es).step e := by
  rw [run_append]
  rfl

theorem routeFrame_eq_run (c : Client) (frame : String) :
    c.routeFrame frame = c.run ((elementsOf frame).map .element) := by
  rw [routeFrame, run, List.foldl_map]
  rfl

/-- What an event can do to a client. -/
inductive Change (c : Client) (event : Event) : Client → Prop
  | same : Change c event c
  | registered (method : String) (params : List Json) : Change c event (c.register method params)
  | advanced (e : Exchange) (stage : Stage) (found : c.find? e.id = some e)
      (live : e.stage.isLive = true) (later : stage.isLive = true) :
      Change c event (c.modify e.id fun e => { e with stage })
  | finished (e : Exchange) (stage : Stage) (found : c.find? e.id = some e)
      (live : e.stage.isLive = true) (settled : stage.isLive = false)
      (answered : ∀ reply, stage = .ended (.ok reply) → e.slot = .filled reply) :
      Change c event (c.finish e.id stage)
  | delivered (v : Json) (reply : Rpc.Reply) (id : Nat) (routed : event = .element v)
      (decoded : Rpc.Reply.ofJson? v = some reply) (correlated : reply.correlationId = some id)
      (pending : id ∈ c.pending) (opened : c.closed = false) :
      Change c event (c.deliver id reply)
  | closed : Change c event c.close
  | cleared (ended : c.closed = true) :
      Change c event { c with
        pending := []
        exchanges := c.exchanges.map fun e =>
          if e.id ∈ c.pending then { e with slot := .abandoned } else e }

/-- What a step that an exchange makes of itself can do to its client. -/
inductive Moved (c : Client) (id : Nat) : Client → Prop
  | same : Moved c id c
  | advanced (e : Exchange) (stage : Stage) (found : c.find? id = some e)
      (live : e.stage.isLive = true) (later : stage.isLive = true) :
      Moved c id (c.modify id fun e => { e with stage })
  | finished (e : Exchange) (stage : Stage) (found : c.find? id = some e)
      (live : e.stage.isLive = true) (settled : stage.isLive = false)
      (answered : ∀ reply, stage = .ended (.ok reply) → e.slot = .filled reply) :
      Moved c id (c.finish id stage)

theorem find?_id {c : Client} {id : Nat} {e : Exchange} (h : c.find? id = some e) : e.id = id := by
  have := List.find?_some h
  simpa using this

theorem stage?_eq_some {c : Client} {id : Nat} {stage : Stage} (h : c.stage? id = some stage) :
    ∃ e, e.id = id ∧ e.stage = stage ∧ c.find? id = some e := by
  obtain ⟨e, hf, hs⟩ := Option.map_eq_some_iff.mp h
  exact ⟨e, find?_id hf, hs, hf⟩

variable (c : Client) (event : Event)

theorem check_moved (id : Nat) : Moved c id (c.check id) := by
  unfold check
  split
  · rename_i hs
    obtain ⟨e, -, hs, hf⟩ := stage?_eq_some hs
    have hl : e.stage.isLive = true := by rw [hs]; rfl
    split
    · exact .finished e _ hf hl rfl (by simp)
    · exact .advanced e _ hf hl rfl
  · exact .same

theorem sent_moved (id : Nat) (result : Except TransportError Unit) :
    Moved c id (c.sent id result) := by
  unfold sent
  split
  · rename_i hs
    obtain ⟨e, -, hs, hf⟩ := stage?_eq_some hs
    exact .advanced e _ hf (by rw [hs]; rfl) rfl
  · rename_i cause hs
    obtain ⟨e, -, hs, hf⟩ := stage?_eq_some hs
    exact .finished e _ hf (by rw [hs]; rfl) rfl (by simp)
  · exact .same

theorem receive_moved (id : Nat) : Moved c id (c.receive id) := by
  unfold receive
  split
  · rename_i reply hf
    exact .finished _ _ hf rfl rfl (by simp)
  · rename_i hf
    exact .finished _ _ hf rfl rfl (by simp)
  · exact .same

theorem timeOut_moved (id : Nat) (limit : Millis) : Moved c id (c.timeOut id limit) := by
  unfold timeOut
  split
  · rename_i hf
    exact .finished _ _ hf rfl rfl (by simp)
  · rename_i hf
    exact .finished _ _ hf rfl rfl (by simp)
  · exact .same

theorem cancel_moved (id : Nat) : Moved c id (c.cancel id) := by
  unfold cancel
  split
  all_goals first
    | exact .same
    | rename_i hs
      obtain ⟨e, -, hs, hf⟩ := stage?_eq_some hs
      exact .finished e _ hf (by rw [hs]; rfl) rfl (by simp)

def Event.exchange? : Event → Option Nat
  | .check id | .sent id _ | .receive id | .timeOut id _ | .cancel id => some id
  | .start .. | .element _ | .close | .clear => none

theorem step_moved {id : Nat} (h : event.exchange? = some id) : Moved c id (c.step event) := by
  cases event with
  | start | element | close | clear => cases h
  | check => cases h; exact c.check_moved id
  | sent _ result => cases h; exact c.sent_moved id result
  | receive => cases h; exact c.receive_moved id
  | timeOut _ limit => cases h; exact c.timeOut_moved id limit
  | cancel => cases h; exact c.cancel_moved id

variable {c} in
theorem Moved.change {id : Nat} {c' : Client} (h : Moved c id c') : Change c event c' := by
  cases h with
  | same => exact .same
  | advanced e stage hf hlive hlater =>
    obtain rfl := find?_id hf
    exact .advanced e stage hf hlive hlater
  | finished e stage hf hlive hover hanswered =>
    obtain rfl := find?_id hf
    exact .finished e stage hf hlive hover hanswered

theorem clear_change : Change c event c.clear := by
  unfold clear
  split
  · rename_i hc
    exact .cleared hc
  · exact .same

/-- A value is passed over, or its reply is delivered to the exchange in the table with its id. -/
theorem element_cases (v : Json) :
    c.element v = c ∨
    ∃ reply id, Rpc.Reply.ofJson? v = some reply ∧ reply.correlationId = some id ∧
      id ∈ c.pending ∧ c.closed = false ∧ c.element v = c.deliver id reply := by
  unfold element
  split
  · exact .inl rfl
  · rename_i hopen
    cases hv : Rpc.Reply.ofJson? v with
    | none => exact .inl rfl
    | some reply =>
      simp only [route]
      cases hi : reply.correlationId with
      | none => exact .inl rfl
      | some id =>
        by_cases hp : id ∈ c.pending
        · exact .inr ⟨reply, id, rfl, hi, hp, by simpa using hopen, by simp only [hp, if_true]⟩
        · exact .inl (by simp only [hp, if_false])

theorem element_deliver {c : Client} {v : Json} {reply : Rpc.Reply} {id : Nat}
    (hopen : c.closed = false) (hv : Rpc.Reply.ofJson? v = some reply)
    (hi : reply.correlationId = some id) (hp : id ∈ c.pending) :
    c.element v = c.deliver id reply := by
  simp [element, hopen, hv, route, hi, hp]

theorem step_change : Change c event (c.step event) := by
  cases event with
  | start method params =>
    simp only [step]
    split
    · exact .same
    · exact .registered method params
  | check | sent | receive | timeOut | cancel => exact (c.step_moved _ rfl).change _
  | element v =>
    rcases c.element_cases v with h | ⟨reply, id, hv, hi, hp, ho, h⟩
    · simp only [step, h]
      exact .same
    · simp only [step, h]
      exact .delivered v reply id rfl hv hi hp ho
  | close => exact .closed
  | clear => exact c.clear_change _

/-- A property that a client has and every change keeps holds along every run of it. -/
theorem run_induction {c : Client} {P : Client → Prop} (start : P c)
    (change : ∀ {c c' : Client} {event : Event}, P c → Change c event c' → P c')
    (es : List Event) : P (c.run es) := by
  induction es using List.reverseRecOn with
  | nil => exact start
  | append_singleton es e ih =>
    rw [run_concat]
    exact change ih (step_change _ e)

end Client

end SealedChain
