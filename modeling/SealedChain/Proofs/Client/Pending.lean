import Mathlib.Data.List.Nodup
import SealedChain.Proofs.Client.Run

/-!
# The table of pending ids

In every state of a run the table holds the ids of the exchanges that are under way and have got
nothing yet, and no id is given twice. An id that has left the table never comes back.
-/
namespace SealedChain.Client

def enter (c : Client) (e : Exchange) : Client :=
  { c with pending := e.id :: c.pending, exchanges := e :: c.exchanges }

/-- The state of a client whose table fits its exchanges. -/
structure Coherent (c : Client) : Prop where
  id_lt : ∀ e ∈ c.exchanges, e.id < c.nextId
  distinct : (c.exchanges.map (·.id)).Nodup
  pending : ∀ id, id ∈ c.pending ↔
    ∃ e ∈ c.exchanges, e.id = id ∧ e.stage.isLive = true ∧ e.slot = .empty
  answered : ∀ e ∈ c.exchanges, ∀ reply, e.stage = .ended (.ok reply) → e.slot = .filled reply

theorem coherent_empty : Coherent {} where
  id_lt := by simp
  distinct := by simp
  pending := by simp
  answered := by simp

namespace Coherent

variable {c : Client}

theorem eq_of_id (h : Coherent c) {e e' : Exchange} (he : e ∈ c.exchanges)
    (he' : e' ∈ c.exchanges) (hid : e.id = e'.id) : e = e' :=
  List.inj_on_of_nodup_map h.distinct he he' hid

theorem mem_pending (h : Coherent c) {e : Exchange} (he : e ∈ c.exchanges) :
    e.id ∈ c.pending ↔ e.stage.isLive = true ∧ e.slot = .empty := by
  rw [h.pending]
  constructor
  · rintro ⟨e', he', hid, hrest⟩
    rwa [h.eq_of_id he he' hid.symm]
  · exact fun hrest => ⟨e, he, rfl, hrest⟩

theorem pending_lt (h : Coherent c) {id : Nat} (hp : id ∈ c.pending) : id < c.nextId := by
  obtain ⟨e, he, rfl, -⟩ := (h.pending id).mp hp
  exact h.id_lt e he

theorem numbered (h : Coherent c) : Coherent { c with nextId := c.nextId + 1 } :=
  { h with id_lt := fun e he => Nat.lt_succ_of_lt (h.id_lt e he) }

theorem enter (h : Coherent c) {e : Exchange} (hid : e.id < c.nextId)
    (hfresh : ∀ x ∈ c.exchanges, x.id ≠ e.id) (hlive : e.stage.isLive = true)
    (hslot : e.slot = .empty) : Coherent (c.enter e) where
  id_lt := by
    intro x hx
    rcases List.mem_cons.mp hx with rfl | hx
    · exact hid
    · exact h.id_lt x hx
  distinct := by
    refine List.nodup_cons.mpr ⟨fun hm => ?_, h.distinct⟩
    obtain ⟨x, hx, hsame⟩ := List.mem_map.mp hm
    exact hfresh x hx hsame
  pending := by
    intro id
    simp only [Client.enter, List.mem_cons, exists_eq_or_imp, ← h.pending]
    simp [hlive, hslot, eq_comm]
  answered := by
    intro x hx reply hs
    rcases List.mem_cons.mp hx with rfl | hx
    · simp [hs, Stage.isLive] at hlive
    · exact h.answered x hx reply hs

theorem register (h : Coherent c) (method : String) (params : List Json) :
    Coherent (c.register method params) :=
  h.numbered.enter (e := { id := c.nextId, method, params }) (Nat.lt_succ_self _)
    (fun e he => Nat.ne_of_lt (h.id_lt e he)) rfl rfl

/-- The exchanges are changed one by one, and those that end or get something leave the table. -/
theorem map (h : Coherent c) {f : Exchange → Exchange} {table : List Nat} (closed : Bool)
    (hid : ∀ e, (f e).id = e.id) (hsub : ∀ id ∈ table, id ∈ c.pending)
    (htable : ∀ e ∈ c.exchanges,
      e.id ∈ table ↔ (f e).stage.isLive = true ∧ (f e).slot = .empty)
    (hanswered : ∀ e ∈ c.exchanges, ∀ reply,
      (f e).stage = .ended (.ok reply) → (f e).slot = .filled reply) :
    Coherent { c with pending := table, closed, exchanges := c.exchanges.map f } where
  id_lt := by
    intro e he
    obtain ⟨x, hx, rfl⟩ := List.mem_map.mp he
    rw [hid]
    exact h.id_lt x hx
  distinct := by
    have hmap : (c.exchanges.map f).map (·.id) = c.exchanges.map (·.id) := by
      simp [Function.comp_def, hid]
    rw [hmap]
    exact h.distinct
  pending := by
    intro id
    simp only [List.mem_map, exists_exists_and_eq_and, hid]
    constructor
    · intro hm
      obtain ⟨e, he, rfl, -⟩ := (h.pending id).mp (hsub id hm)
      exact ⟨e, he, rfl, (htable e he).mp hm⟩
    · rintro ⟨e, he, rfl, hrest⟩
      exact (htable e he).mpr hrest
  answered := by
    intro e he reply hs
    obtain ⟨x, hx, rfl⟩ := List.mem_map.mp he
    exact hanswered x hx reply hs

theorem modify (h : Coherent c) {e : Exchange} {stage : Stage} (he : e ∈ c.exchanges)
    (hlive : e.stage.isLive = true) (hlater : stage.isLive = true) :
    Coherent (c.modify e.id fun e => { e with stage }) := by
  refine h.map c.closed (fun e' => by split <;> rfl) (fun id hp => hp) ?_ ?_
  · intro e' he'
    rw [h.mem_pending he']
    split
    · rename_i hid
      rw [h.eq_of_id he' he hid, hlive, hlater]
    · rfl
  · intro e' he' reply hs
    split at hs
    · simp only at hs
      simp [hs, Stage.isLive] at hlater
    · rename_i hid
      rw [if_neg hid]
      exact h.answered e' he' reply hs

theorem finish (h : Coherent c) {e : Exchange} {stage : Stage} (he : e ∈ c.exchanges)
    (hover : stage.isLive = false)
    (hanswered : ∀ reply, stage = .ended (.ok reply) → e.slot = .filled reply) :
    Coherent (c.finish e.id stage) := by
  refine h.map c.closed (fun e' => by split <;> rfl) (fun id hp => ?_) ?_ ?_
  · exact ((c.mem_pending_forget e.id id).mp hp).1
  · intro e' he'
    refine (c.mem_pending_forget e.id e'.id).trans ?_
    rw [h.mem_pending he']
    split
    · rename_i hid
      simp [hid, hover]
    · rename_i hid
      simp [hid]
  · intro e' he' reply hs
    split at hs
    · rename_i hid
      rw [if_pos hid, h.eq_of_id he' he hid]
      exact hanswered reply hs
    · rename_i hid
      rw [if_neg hid]
      exact h.answered e' he' reply hs

theorem deliver (h : Coherent c) {id : Nat} (hp : id ∈ c.pending) (reply : Rpc.Reply) :
    Coherent (c.deliver id reply) := by
  refine h.map c.closed (fun e' => by split <;> rfl) (fun k hk => ?_) ?_ ?_
  · exact ((c.mem_pending_forget id k).mp hk).1
  · intro e' he'
    refine (c.mem_pending_forget id e'.id).trans ?_
    rw [h.mem_pending he']
    split
    · rename_i hid
      simp [hid]
    · rename_i hid
      simp [hid]
  · intro e' he' reply' hs
    split at hs
    · rename_i hid
      obtain ⟨hlive, -⟩ := (h.mem_pending he').mp (hid ▸ hp)
      simp only at hs
      simp [hs, Stage.isLive] at hlive
    · rename_i hid
      rw [if_neg hid]
      exact h.answered e' he' reply' hs

theorem cleared (h : Coherent c) :
    Coherent { c with
      pending := []
      exchanges := c.exchanges.map fun e =>
        if e.id ∈ c.pending then { e with slot := .abandoned } else e } := by
  refine h.map c.closed (fun e' => by split <;> rfl) (by simp) ?_ ?_
  · intro e' he'
    split
    · simp
    · rename_i hp
      rw [h.mem_pending he'] at hp
      simpa using hp
  · intro e' he' reply hs
    split at hs
    · rename_i hp
      obtain ⟨hlive, -⟩ := (h.mem_pending he').mp hp
      simp only at hs
      simp [hs, Stage.isLive] at hlive
    · rename_i hp
      rw [if_neg hp]
      exact h.answered e' he' reply hs

theorem change (h : Coherent c) {event : Event} {c' : Client} (hc : Change c event c') :
    Coherent c' := by
  cases hc with
  | same => exact h
  | registered method params => exact h.register method params
  | advanced e stage hf hlive hlater => exact h.modify (List.mem_of_find?_eq_some hf) hlive hlater
  | finished e stage hf _ hover hanswered =>
    exact h.finish (List.mem_of_find?_eq_some hf) hover hanswered
  | delivered v reply id _ _ _ hp _ => exact h.deliver hp reply
  | closed => exact { h with }
  | cleared _ => exact h.cleared

end Coherent

theorem coherent_run (es : List Event) : Coherent (run {} es) :=
  run_induction coherent_empty (fun h hc => h.change hc) es

variable {c : Client}

theorem Change.nextId_le {e : Event} {c' : Client} (h : Change c e c') : c.nextId ≤ c'.nextId := by
  cases h with
  | registered method params => exact Nat.le_succ _
  | _ => exact Nat.le_refl _

theorem Change.nextId_le_succ {e : Event} {c' : Client} (h : Change c e c') :
    c'.nextId ≤ c.nextId + 1 := by
  cases h with
  | registered method params => exact Nat.le_refl _
  | _ => exact Nat.le_succ _

theorem Change.mem_pending {e : Event} {c' : Client} (h : Change c e c') {id : Nat}
    (hid : id < c.nextId) (hp : id ∈ c'.pending) : id ∈ c.pending := by
  cases h with
  | registered method params =>
    rcases List.mem_cons.mp hp with rfl | hp
    · exact absurd hid (Nat.lt_irrefl _)
    · exact hp
  | finished x stage => exact ((c.mem_pending_forget x.id id).mp hp).1
  | delivered v reply k => exact ((c.mem_pending_forget k id).mp hp).1
  | cleared => simp at hp
  | _ => exact hp

theorem Change.nodup_pending {e : Event} {c' : Client} (h : Change c e c') (hc : Coherent c)
    (hn : c.pending.Nodup) : c'.pending.Nodup := by
  cases h with
  | registered method params =>
    exact List.nodup_cons.mpr ⟨fun hp => absurd (hc.pending_lt hp) (Nat.lt_irrefl _), hn⟩
  | finished | delivered => exact hn.filter _
  | cleared => exact List.nodup_nil
  | _ => exact hn

theorem Change.closed_eq_false {e : Event} {c' : Client} (h : Change c e c')
    (hc : c'.closed = false) : c.closed = false := by
  cases h with
  | closed => simp [close] at hc
  | _ => exact hc

theorem mem_pending_of_run {es : List Event} {id : Nat} (hid : id < c.nextId)
    (hp : id ∈ (c.run es).pending) : id ∈ c.pending := by
  have hkept := run_induction (P := fun c' => id < c'.nextId ∧ (id ∈ c'.pending → id ∈ c.pending))
    ⟨hid, fun h => h⟩
    (fun h hc => ⟨Nat.lt_of_lt_of_le h.1 hc.nextId_le, fun hp => h.2 (hc.mem_pending h.1 hp)⟩) es
  exact hkept.2 hp

theorem closed_of_run {es : List Event} (h : (c.run es).closed = false) : c.closed = false :=
  run_induction (P := fun c' => c'.closed = false → c.closed = false) (fun h => h)
    (fun ih hc h => ih (hc.closed_eq_false h)) es h

end SealedChain.Client
