import SealedChain.Proofs.Client.Correlation
import SealedChain.Proofs.Client.Shut

/-!
# What the table loses and keeps

An event of the inbound stream takes an id out of the table when it routes a reply with that id or
clears the table, and touches no exchange otherwise. A step of an exchange changes how far that
exchange has come, and nothing of another.
-/
namespace SealedChain.Client

/-- A reply with the id is routed while the client is open, or the table is cleared. -/
def Event.Releases (c : Client) (id : Nat) : Event → Prop
  | .element v => c.closed = false ∧
    ∃ reply, Rpc.Reply.ofJson? v = some reply ∧ reply.correlationId = some id
  | .clear => c.closed = true
  | .start .. | .check _ | .sent .. | .receive _ | .timeOut .. | .cancel _ | .close => False

/-- How a step of an exchange would end it, if it is under way and the step ends it. -/
def ending? (c : Client) (event : Event) (id : Nat) : Option Stage :=
  if (c.stage? id).any Stage.isLive then ((c.step event).stage? id).filter (!·.isLive) else none

variable {c : Client}

theorem outstanding_iff {id : Nat} :
    c.outstanding id = true ↔ ∃ e ∈ c.exchanges, e.id = id ∧ e.stage.isLive = true := by
  simp [outstanding, List.any_eq_true]

theorem Coherent.outstanding_eq (h : Coherent c) {e : Exchange} (he : e ∈ c.exchanges) :
    c.outstanding e.id = e.stage.isLive := by
  rw [Bool.eq_iff_iff, outstanding_iff]
  constructor
  · rintro ⟨x, hx, hid, hlive⟩
    rwa [← h.eq_of_id hx he hid]
  · exact fun hlive => ⟨e, he, rfl, hlive⟩

theorem outstanding_map {c' : Client} {f : Exchange → Exchange}
    (hmap : c'.exchanges = c.exchanges.map f) (hid : ∀ e, (f e).id = e.id)
    (hlive : ∀ e ∈ c.exchanges, (f e).stage.isLive = e.stage.isLive) (id : Nat) :
    c'.outstanding id = c.outstanding id := by
  rw [Bool.eq_iff_iff, outstanding_iff, outstanding_iff, hmap]
  constructor
  · rintro ⟨x, hx, rfl, hx'⟩
    obtain ⟨e, he, rfl⟩ := List.mem_map.mp hx
    exact ⟨e, he, (hid e).symm, hlive e he ▸ hx'⟩
  · rintro ⟨e, he, rfl, he'⟩
    exact ⟨f e, List.mem_map.mpr ⟨e, he, rfl⟩, hid e, (hlive e he).trans he'⟩

/-! ### The inbound stream -/

theorem mem_pending_stream {event : Event} (hs : event.isCall = false) (id : Nat) :
    id ∈ (c.step event).pending ↔ id ∈ c.pending ∧ ¬ event.Releases c id := by
  cases event with
  | start | check | sent | receive | timeOut | cancel => cases hs
  | close => simp [step, close, Event.Releases]
  | clear =>
    cases hc : c.closed with
    | false => simp [step, clear, Event.Releases, hc]
    | true => simp [step, clear, Event.Releases, hc]
  | element v =>
    simp only [step, Event.Releases]
    rcases c.element_cases v with he | ⟨reply, k, hv, hk, hp, hopen, he⟩
    · rw [he]
      refine ⟨fun hp => ⟨hp, ?_⟩, And.left⟩
      rintro ⟨hopen, reply, hv, hi⟩
      have hgone := (takes_of_open hopen hv hi hp).2
      rw [he] at hgone
      exact hgone hp
    · rw [he, deliver, mem_pending_forget, pending_modify]
      have hreleased : (c.closed = false ∧ ∃ reply, Rpc.Reply.ofJson? v = some reply ∧
          reply.correlationId = some id) ↔ id = k := by
        simp [hopen, hv, hk, eq_comm]
      rw [hreleased]

theorem exchanges_stream {event : Event} (hs : event.isCall = false) :
    ∃ f : Exchange → Exchange, (c.step event).exchanges = c.exchanges.map f ∧
      ∀ e, (f e).request = e.request ∧ (f e).stage = e.stage ∧
        (e.id ∉ c.pending → (f e).slot = e.slot) := by
  cases event with
  | start | check | sent | receive | timeOut | cancel => cases hs
  | close => exact ⟨id, by simp [step, close], fun e => ⟨rfl, rfl, fun _ => rfl⟩⟩
  | clear =>
    cases hc : c.closed with
    | false => exact ⟨id, by simp [step, clear, hc], fun e => ⟨rfl, rfl, fun _ => rfl⟩⟩
    | true =>
      refine ⟨_, by simp only [step, clear, hc, if_true]; rfl, fun e => ⟨?_, ?_, fun hn => ?_⟩⟩
      · split <;> rfl
      · split <;> rfl
      · rw [if_neg hn]
  | element v =>
    rcases c.element_cases v with he | ⟨reply, k, -, -, hp, -, he⟩
    · exact ⟨id, by simp [step, he], fun e => ⟨rfl, rfl, fun _ => rfl⟩⟩
    · refine ⟨_, by simp only [step, he]; rfl, fun e => ⟨?_, ?_, fun hn => ?_⟩⟩
      · split <;> rfl
      · split <;> rfl
      · have hid : e.id ≠ k := fun hid => hn (hid ▸ hp)
        rw [if_neg hid]

theorem nextId_stream {event : Event} (hs : event.isCall = false) :
    (c.step event).nextId = c.nextId := by
  cases event with
  | start | check | sent | receive | timeOut | cancel => cases hs
  | close => rfl
  | clear =>
    simp only [step, clear]
    split <;> rfl
  | element v =>
    rcases c.element_cases v with he | ⟨_, _, -, -, -, -, he⟩
    · simp only [step, he]
    · simp only [step, he]
      rfl

theorem map_request_stream {event : Event} (hs : event.isCall = false) :
    (c.step event).exchanges.map (·.request) = c.exchanges.map (·.request) := by
  obtain ⟨f, hmap, hf⟩ := exchanges_stream (c := c) hs
  rw [hmap, List.map_map]
  exact List.map_congr_left fun e _ => (hf e).1

theorem outstanding_stream {event : Event} (hs : event.isCall = false) (id : Nat) :
    (c.step event).outstanding id = c.outstanding id := by
  obtain ⟨f, hmap, hf⟩ := exchanges_stream (c := c) hs
  refine outstanding_map hmap (fun e => congrArg Rpc.Request.id (hf e).1) (fun e _ => ?_) id
  rw [(hf e).2.1]

/-! ### Steps of exchanges -/

theorem mem_modify_of_ne {id : Nat} {f : Exchange → Exchange} {e : Exchange} (he : e ∈ c.exchanges)
    (hid : e.id ≠ id) : e ∈ (c.modify id f).exchanges :=
  List.mem_map.mpr ⟨e, he, if_neg hid⟩

theorem outstanding_enter (e : Exchange) (id : Nat) :
    (c.enter e).outstanding id = (e.id == id && e.stage.isLive || c.outstanding id) := rfl

theorem outstanding_advance {e : Exchange} {stage : Stage} (h : Coherent c) (he : e ∈ c.exchanges)
    (hlive : e.stage.isLive = true) (hlater : stage.isLive = true) (id : Nat) :
    (c.modify e.id fun e => { e with stage }).outstanding id = c.outstanding id := by
  refine outstanding_map rfl (fun x => by split <;> rfl) (fun x hx => ?_) id
  split
  · rename_i hid
    rw [h.eq_of_id hx he hid, hlive, hlater]
  · rfl

theorem outstanding_finish {id : Nat} {stage : Stage} (hover : stage.isLive = false) (k : Nat) :
    (c.finish id stage).outstanding k = true ↔ c.outstanding k = true ∧ k ≠ id := by
  simp only [outstanding_iff]
  constructor
  · rintro ⟨x, hx, rfl, hlive⟩
    obtain ⟨e, he, rfl⟩ := List.mem_map.mp hx
    split at hlive
    · simp [hover] at hlive
    · rename_i hid
      rw [if_neg hid]
      exact ⟨⟨e, he, rfl, hlive⟩, hid⟩
  · rintro ⟨⟨e, he, rfl, hlive⟩, hid⟩
    exact ⟨e, mem_modify_of_ne he hid, rfl, hlive⟩

theorem map_request_modify (id : Nat) (stage : Stage) :
    (c.modify id fun e => { e with stage }).exchanges.map (·.request) =
      c.exchanges.map (·.request) := by
  rw [modify, List.map_map]
  refine List.map_congr_left fun e _ => ?_
  rw [Function.comp]
  split <;> rfl

/-- A step of an exchange ends it, or leaves every exchange under way that was. -/
theorem ending?_cases {event : Event} {id : Nat} (hown : event.exchange? = some id) :
    (∃ e stage, c.ending? event id = some stage ∧ c.find? id = some e ∧ e.stage.isLive = true ∧
      stage.isLive = false ∧ (∀ reply, stage = .ended (.ok reply) → e.slot = .filled reply) ∧
      c.step event = c.finish id stage) ∨
    (c.ending? event id = none ∧ (c.step event = c ∨ ∃ e stage, c.find? id = some e ∧
      e.stage.isLive = true ∧ stage.isLive = true ∧
      c.step event = c.modify id fun e => { e with stage })) := by
  have hmoved := c.step_moved event hown
  unfold ending?
  generalize c.step event = c' at hmoved ⊢
  cases hmoved with
  | same =>
    refine .inr ⟨?_, .inl rfl⟩
    cases hs : c.stage? id with
    | none => rfl
    | some stage => cases hl : stage.isLive <;> simp [hl]
  | advanced e stage hf hlive hlater =>
    refine .inr ⟨?_, .inr ⟨e, stage, hf, hlive, hlater, rfl⟩⟩
    rw [stage?_eq (find?_stage hf stage)]
    simp [hlater]
  | finished e stage hf hlive hover hanswered =>
    refine .inl ⟨e, stage, ?_, hf, hlive, hover, hanswered, rfl⟩
    rw [stage?_eq hf, stage?_eq (find?_finish hf stage)]
    simp [hlive, hover]

namespace Ends

variable {e : Exchange} {event : Event} {stage : Stage}

theorem own (h : Ends c e event stage) : event.exchange? = some e.id := by
  cases h <;> rfl

theorem step_eq (h : Ends c e event stage) (hf : c.find? e.id = some e) :
    c.step event = c.finish e.id stage := by
  cases h with
  | refused hs hclosed => simp [step, check, stage?_eq hf, hs, hclosed]
  | unsent cause hs => simp [step, sent, stage?_eq hf, hs]
  | answered reply hs hslot =>
    obtain ⟨id, method, params, stage, slot⟩ := e
    obtain rfl : stage = .waiting := hs
    obtain rfl : slot = .filled reply := hslot
    simp [step, receive, hf]
  | dropped hs hslot =>
    obtain ⟨id, method, params, stage, slot⟩ := e
    obtain rfl : stage = .waiting := hs
    obtain rfl : slot = .abandoned := hslot
    simp [step, receive, hf]
  | timedOut limit hs =>
    obtain ⟨id, method, params, stage, slot⟩ := e
    rcases hs with hs | ⟨hs, hslot⟩
    · obtain rfl : stage = .sending := hs
      simp [step, timeOut, hf]
    · obtain rfl : stage = .waiting := hs
      obtain rfl : slot = .empty := hslot
      simp [step, timeOut, hf]
  | cancelled hlive =>
    have hs := stage?_eq hf
    cases hstage : e.stage with
    | registered | sending | waiting => simp [step, cancel, hs, hstage]
    | ended | cancelled => simp [hstage, Stage.isLive] at hlive

theorem ending?_eq (h : Ends c e event stage) (hf : c.find? e.id = some e) :
    c.ending? event e.id = some stage := by
  obtain ⟨hlive, hover⟩ := h.live
  rw [ending?, h.step_eq hf, stage?_eq hf, stage?_eq (find?_finish hf stage)]
  simp [hlive, hover]

end Ends

end SealedChain.Client
