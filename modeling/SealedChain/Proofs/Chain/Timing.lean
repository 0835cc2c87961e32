import SealedChain.Proofs.Chain.Replay

/-!
# Independence of timing

Sealing reads nothing of what is committed, and what is committed is the replay of what was queued.
So two live runs with the same calls come to the same answers and the same committed chain, however
the committer's steps fall between the calls. Creating blocks and submitting transactions take turns
under the sealing lock; sealed blocks and finalizations take turns in the queue. Only these two
orders have to be the same.
-/
namespace SealedChain

/-- What an operation finalizes, and for which ticket. Of a sealed block it tells nothing. -/
def CommitOp.finalization? : CommitOp → Option (Hash × Nat)
  | .commit _ => none
  | .finalize hash ticket => some (hash, ticket)

theorem CommitOp.list_ext {ops more : List CommitOp}
    (hblocks : ops.filterMap CommitOp.block? = more.filterMap CommitOp.block?)
    (hplaces : ops.map CommitOp.finalization? = more.map CommitOp.finalization?) : ops = more := by
  induction ops generalizing more with
  | nil => exact (List.map_eq_nil_iff.mp hplaces.symm).symm
  | cons op ops ih =>
    cases more with
    | nil => simp at hplaces
    | cons op' more =>
      obtain ⟨hhead, htail⟩ := List.cons.inj hplaces
      cases op with
      | commit block =>
        cases op' with
        | commit block' =>
          obtain ⟨rfl, hrest⟩ := List.cons.inj hblocks
          rw [ih hrest htail]
        | finalize hash ticket => cases hhead
      | finalize hash ticket =>
        cases op' with
        | commit block => cases hhead
        | finalize hash' ticket' =>
          obtain ⟨rfl, rfl⟩ := Prod.mk.inj (Option.some.inj hhead)
          have hrest : ops.filterMap CommitOp.block? = more.filterMap CommitOp.block? := hblocks
          rw [ih hrest htail]

namespace Chain

/-- Whether an event is a call that holds the sealing lock. -/
def Event.isSealing : Event → Bool
  | .create _ | .submit _ => true
  | .finalize .. | .take | .apply | .stop => false

def Event.ticket? : Event → Option Nat
  | .finalize _ ticket => some ticket
  | .create _ | .submit _ | .take | .apply | .stop => none

inductive Outcome where
  | created (result : Except ChainError CreatedBlock)
  | submitted (result : Except ChainError Hash)

def outcome? (c : Chain) : Event → Option Outcome
  | .create command => some (.created (c.create command).2)
  | .submit raw => some (.submitted (c.submit raw).2)
  | .finalize .. | .take | .apply | .stop => none

/-- What the calls of a run return that hold the sealing lock, in their order. -/
def outcomes (c : Chain) : List Event → List Outcome
  | [] => []
  | e :: es => (c.outcome? e).toList ++ (c.step e).outcomes es

structure SealAlike (c d : Chain) : Prop where
  sealer : c.sealer = d.sealer
  sealing : c.config.sealing = d.config.sealing
  accepting : c.accepting = true
  accepting' : d.accepting = true

/-- A call comes to the same in two chains: it returns the same and seals the same blocks. -/
structure SameCall {α : Type} (c d : Chain) (p q : Chain × α) : Prop where
  alike : SealAlike p.1 q.1
  result : p.2 = q.2
  blocks : c.queuedBetween p.1 = d.queuedBetween q.1

namespace SealAlike

variable {c d : Chain}

theorem pooled (h : SealAlike c d) (hash : Hash) : SealAlike (c.pooled hash) (d.pooled hash) where
  sealer := by simp only [Chain.pooled, withPool, h.sealer]
  sealing := h.sealing
  accepting := h.accepting
  accepting' := h.accepting'

theorem nextBlock (h : SealAlike c d) (finalize : Bool) :
    c.nextBlock finalize = d.nextBlock finalize := by
  simp only [Chain.nextBlock, h.sealer]

theorem unchanged (h : SealAlike c d) {α : Type} (result : α) :
    SameCall c d (c, result) (d, result) where
  alike := h
  result := rfl
  blocks := by simp [queuedBetween]

theorem enqueue (h : SealAlike c d) (finalize : Bool) {α : Type} (result : α) :
    SameCall c d (c.enqueue (c.nextBlock finalize), result)
      (d.enqueue (d.nextBlock finalize), result) where
  alike := {
    sealer := by simp only [Chain.enqueue, h.nextBlock]
    sealing := h.sealing
    accepting := h.accepting
    accepting' := h.accepting' }
  result := rfl
  blocks := by rw [queuedBetween_enqueue c c _ rfl, queuedBetween_enqueue d d _ rfl, h.nextBlock]

theorem create (h : SealAlike c d) (command : BlockCommand) :
    SameCall c d (c.create command) (d.create command) := by
  have hc := send?_of_accepting (c := c.withPool []) h.accepting
  have hd := send?_of_accepting (c := d.withPool []) h.accepting'
  have hsame := h.enqueue command.finalize
    (.ok ⟨(c.nextBlock command.finalize).hash, { isNewBest := true }⟩ :
      Except ChainError CreatedBlock)
  unfold Chain.create
  simp only [hc, hd, h.sealer]
  split
  · exact h.unchanged _
  · split
    · exact h.unchanged _
    · rw [h.nextBlock] at hsame ⊢
      exact hsame

theorem submit (h : SealAlike c d) (raw : Bytes) :
    SameCall c d (c.submit raw) (d.submit raw) := by
  have hp := h.pooled (keccak256 raw)
  have hsealed := hp.create ⟨false, true, none⟩
  unfold Chain.submit
  simp only [← h.sealing, pooled_config]
  split
  · exact h.unchanged _
  · cases c.config.sealing with
    | manual => exact ⟨hp, rfl, by simp [queuedBetween]⟩
    | instant =>
      generalize (c.pooled (keccak256 raw)).create ⟨false, true, none⟩ = p at hsealed ⊢
      generalize (d.pooled (keccak256 raw)).create ⟨false, true, none⟩ = q at hsealed ⊢
      obtain ⟨c', r⟩ := p
      obtain ⟨d', r'⟩ := q
      obtain ⟨halike, hresult, hblocks⟩ := hsealed
      obtain rfl : r = r' := hresult
      cases r with
      | ok created => exact ⟨halike, rfl, hblocks⟩
      | error e => exact ⟨halike, rfl, hblocks⟩

theorem step_sealing (h : SealAlike c d) {e : Event} (he : e.isSealing = true) :
    SameCall c d (c.step e, c.outcome? e) (d.step e, d.outcome? e) := by
  cases e with
  | create command =>
    have hcall := h.create command
    exact ⟨hcall.alike, congrArg (some ∘ Outcome.created) hcall.result, hcall.blocks⟩
  | submit raw =>
    have hcall := h.submit raw
    exact ⟨hcall.alike, congrArg (some ∘ Outcome.submitted) hcall.result, hcall.blocks⟩
  | finalize | take | apply | stop => cases he

end SealAlike

theorem apply_frame (c : Chain) : c.apply.1.sealer = c.sealer ∧ c.apply.1.config = c.config ∧
    (c.apply.1.accepting = true → c.apply.1.queue = c.queue) := by
  unfold apply
  split
  · simp
  · split
    · simp
    · simp [stop]
  · split <;> simp

theorem step_other {c : Chain} {e : Event} (he : e.isSealing = false)
    (hlive : (c.step e).accepting = true) :
    (c.step e).sealer = c.sealer ∧ (c.step e).config = c.config ∧
      (c.queuedBy e).filterMap CommitOp.block? = [] ∧
      (c.queuedBy e).filterMap CommitOp.ticket? = e.ticket?.toList := by
  unfold queuedBy
  cases e with
  | create | submit => cases he
  | finalize hash ticket =>
    simp only [step, finalize?, send?_of_accepting (accepting_of_step hlive), Option.getD_some]
    refine ⟨trivial, trivial, ?_, ?_⟩ <;>
      simp [CommitOp.block?, CommitOp.ticket?, Event.ticket?]
  | take =>
    simp only [step, take]
    split
    · rename_i op rest hi hq
      have hdrop : rest.drop (rest.length + 1) = [] := List.drop_eq_nil_of_le (Nat.le_succ _)
      refine ⟨rfl, rfl, ?_, ?_⟩ <;> simp [hq, hdrop, Event.ticket?]
    · refine ⟨rfl, rfl, ?_, ?_⟩ <;> simp [Event.ticket?]
  | apply =>
    obtain ⟨hsealer, hconfig, hqueue⟩ := c.apply_frame
    refine ⟨hsealer, hconfig, ?_, ?_⟩ <;> simp [step, hqueue hlive, Event.ticket?]
  | stop => simp [step, stop] at hlive

theorem tickets_sealing (c : Chain) {e : Event} (he : e.isSealing = true) :
    (c.queuedBy e).filterMap CommitOp.ticket? = [] ∧ e.ticket? = none := by
  unfold queuedBy
  cases e with
  | create command =>
    refine ⟨?_, rfl⟩
    rcases c.create_cases command with ⟨e, he⟩ | ⟨-, he⟩ <;>
      simp [step, he, enqueue, CommitOp.ticket?]
  | submit raw =>
    refine ⟨?_, rfl⟩
    rcases c.submit_cases raw with ⟨e, he⟩ | ⟨e, he⟩ | ⟨-, he⟩ | ⟨-, -, he⟩ <;>
      simp [step, he, enqueue, CommitOp.ticket?]
  | finalize | take | apply | stop => cases he

theorem outcome?_other {c : Chain} {e : Event} (he : e.isSealing = false) : c.outcome? e = none := by
  cases e with
  | create | submit => cases he
  | finalize | take | apply | stop => rfl

/-- What the calls return and which blocks they seal is settled by the calls that hold the sealing
lock, as if there were no others. -/
theorem sealing_run {c d : Chain} (h : SealAlike c d) (es : List Event)
    (hlive : (c.run es).accepting = true) :
    c.outcomes es = d.outcomes (es.filter Event.isSealing) ∧
      (c.log es).filterMap CommitOp.block? =
        (d.log (es.filter Event.isSealing)).filterMap CommitOp.block? := by
  induction es generalizing c d with
  | nil => exact ⟨rfl, rfl⟩
  | cons e es ih =>
    cases he : e.isSealing with
    | true =>
      have hcall := h.step_sealing he
      obtain ⟨houtcomes, hblocks⟩ := ih hcall.alike hlive
      rw [List.filter_cons_of_pos he]
      simp only [outcomes, log, List.filterMap_append, houtcomes, hblocks]
      exact ⟨congrArg (Option.toList · ++ _) hcall.result, congrArg (· ++ _) hcall.blocks⟩
    | false =>
      have hstep : (c.step e).accepting = true := accepting_of_run hlive
      obtain ⟨hsealer, hconfig, hblocks, -⟩ := step_other he hstep
      have halike : SealAlike (c.step e) d :=
        ⟨hsealer.trans h.sealer, hconfig ▸ h.sealing, hstep, h.accepting'⟩
      obtain ⟨houtcomes, hlog⟩ := ih halike hlive
      rw [List.filter_cons_of_neg (by simp [he])]
      simp only [outcomes, log, List.filterMap_append, outcome?_other he, houtcomes, hlog]
      exact ⟨rfl, congrArg (· ++ _) hblocks⟩

theorem tickets_log {c : Chain} (es : List Event) (hlive : (c.run es).accepting = true) :
    (c.log es).filterMap CommitOp.ticket? = es.filterMap Event.ticket? := by
  induction es generalizing c with
  | nil => rfl
  | cons e es ih =>
    rw [log, List.filterMap_append, ih hlive]
    cases he : e.isSealing with
    | true =>
      obtain ⟨hnone, hticket⟩ := c.tickets_sealing he
      rw [hnone, List.filterMap_cons_none hticket, List.nil_append]
    | false =>
      obtain ⟨-, -, -, hticket⟩ := step_other he (accepting_of_run hlive)
      rw [hticket]
      cases ht : e.ticket? with
      | none => rw [List.filterMap_cons_none ht]; rfl
      | some ticket => rw [List.filterMap_cons_some ht]; rfl

/-- The answers of a live run are for the finalizations called for first, in their order, and for
all of them once the committer has nothing before it. -/
theorem tickets_answered (config : ChainConfig) (es : List Event)
    (hlive : ((start config).run es).accepting = true) :
    ((start config).answered es).map (·.ticket) <+: es.filterMap Event.ticket? ∧
      (((start config).run es).Drained →
        ((start config).answered es).map (·.ticket) = es.filterMap Event.ticket?) := by
  obtain ⟨performed, hlog, -, hanswered⟩ := replayed_run config es hlive
  have htickets := tickets_log es hlive
  rw [hlog, List.filterMap_append] at htickets
  rw [hanswered, CommittedChain.tickets_verdicts, ← htickets]
  refine ⟨List.prefix_append _ _, fun hdrained => ?_⟩
  rw [hdrained.backlog, List.filterMap_nil, List.append_nil]

/-- Two live runs, of nodes that differ at most in their commit delay, in which the calls that hold
the sealing lock and what is queued come in the same order. The calls return the same, finalizations
are answered alike, and drained committers have committed the same. -/
theorem timing_independent (config : ChainConfig) (delay : Millis) (es fs : List Event)
    (hlive : ((start config).run es).accepting = true)
    (hlive' : ((start { config with commitDelay := delay }).run fs).accepting = true)
    (hlock : es.filter Event.isSealing = fs.filter Event.isSealing)
    (hqueue : ((start config).log es).map CommitOp.finalization? =
      ((start { config with commitDelay := delay }).log fs).map CommitOp.finalization?) :
    let c := start config
    let d := start { config with commitDelay := delay }
    c.outcomes es = d.outcomes fs ∧
    es.filterMap Event.ticket? = fs.filterMap Event.ticket? ∧
    (c.answered es).map (·.ticket) <+: es.filterMap Event.ticket? ∧
    (d.answered fs).map (·.ticket) <+: fs.filterMap Event.ticket? ∧
    (c.answered es <+: d.answered fs ∨ d.answered fs <+: c.answered es) ∧
    ((c.run es).Drained → (d.run fs).Drained →
      c.answered es = d.answered fs ∧
      (c.answered es).map (·.ticket) = es.filterMap Event.ticket? ∧
      (c.run es).committed = (d.run fs).committed) := by
  intro c d
  have hseal : SealAlike c c := ⟨rfl, rfl, rfl, rfl⟩
  have hseal' : SealAlike d c := ⟨rfl, rfl, rfl, rfl⟩
  obtain ⟨houtcomes, hblocks⟩ := sealing_run hseal es hlive
  obtain ⟨houtcomes', hblocks'⟩ := sealing_run hseal' fs hlive'
  have hlog : c.log es = d.log fs := by
    refine CommitOp.list_ext ?_ hqueue
    rw [hblocks, hblocks', hlock]
  have htickets : es.filterMap Event.ticket? = fs.filterMap Event.ticket? := by
    rw [← tickets_log es hlive, ← tickets_log fs hlive']
    exact congrArg _ hlog
  obtain ⟨performed, heq, hcommitted, hanswered⟩ := replayed_run config es hlive
  obtain ⟨performed', heq', hcommitted', hanswered'⟩ := replayed_run _ fs hlive'
  have hstart : d.committed = c.committed := rfl
  have hprefix : performed <+: c.log es := ⟨_, heq.symm⟩
  have hprefix' : performed' <+: c.log es := ⟨_, (hlog.trans heq').symm⟩
  obtain ⟨hfirst, hall⟩ := tickets_answered config es hlive
  obtain ⟨hfirst', -⟩ := tickets_answered _ fs hlive'
  refine ⟨?_, htickets, hfirst, hfirst', ?_, fun hdrained hdrained' => ?_⟩
  · rw [houtcomes, houtcomes', hlock]
  · rw [hanswered, hanswered', hstart]
    exact (List.prefix_or_prefix_of_prefix hprefix hprefix').imp
      (CommittedChain.verdicts_prefix _) (CommittedChain.verdicts_prefix _)
  · have hsame : performed = performed' := by
      have hnone : (c.run es).backlog = [] := hdrained.backlog
      have hnone' : (d.run fs).backlog = [] := hdrained'.backlog
      rw [hnone, List.append_nil] at heq
      rw [hnone', List.append_nil] at heq'
      rw [← heq, ← heq']
      exact hlog
    refine ⟨?_, hall hdrained, ?_⟩
    · rw [hanswered, hanswered', hstart, hsame]
    · rw [hcommitted, hcommitted', hstart, hsame]

/-- A block, its finalization and a block with a transaction: each waited for, and all at once before
a committer that is slow. -/
theorem timing_independent_two_blocks :
    let command : BlockCommand := ⟨true, false, none⟩
    let first := (start {}).nextBlock false
    let es : List Event := [.create command, .take, .apply, .finalize first.hash 7, .take, .apply,
      .submit [1], .create command, .take, .apply]
    let fs : List Event := [.create command, .finalize first.hash 7, .submit [1], .create command,
      .take, .apply, .take, .apply, .take, .apply]
    let c := start {}
    let d := start { commitDelay := 500 }
    ((c.run es).accepting = true ∧ (d.run fs).accepting = true ∧
      es.filter Event.isSealing = fs.filter Event.isSealing ∧
      (c.log es).map CommitOp.finalization? = (d.log fs).map CommitOp.finalization?) ∧
    ((c.outcomes es).length = 3 ∧ c.outcomes es = d.outcomes fs) ∧
    ((c.answered es).map (·.ticket) = [7] ∧ (c.answered es).map (·.result.isOk) = [true] ∧
      c.answered es = d.answered fs) ∧
    ((c.run es).blockNumber = 2 ∧ (c.run es).committed = (d.run fs).committed) := by
  intro command first es fs c d
  -- one evaluation, so that the hashes are computed once
  obtain ⟨hlive, hlive', hqueue, hcommitter, hcommitter', hcount, hok, hhead⟩ :
      (c.run es).accepting = true ∧ (d.run fs).accepting = true ∧
      (c.log es).map CommitOp.finalization? = (d.log fs).map CommitOp.finalization? ∧
      ((c.run es).inHand = none ∧ (c.run es).queue = []) ∧
      ((d.run fs).inHand = none ∧ (d.run fs).queue = []) ∧
      (c.outcomes es).length = 3 ∧ (c.answered es).map (·.result.isOk) = [true] ∧
      (c.run es).blockNumber = 2 := by decide +kernel
  obtain ⟨houtcomes, -, -, -, -, hequal⟩ :=
    timing_independent {} 500 es fs hlive hlive' rfl hqueue
  obtain ⟨hanswers, htickets, hcommitted⟩ := hequal hcommitter hcommitter'
  exact ⟨⟨hlive, hlive', rfl, hqueue⟩, ⟨hcount, houtcomes⟩, ⟨htickets, hok, hanswers⟩,
    hhead, hcommitted⟩

end Chain

end SealedChain
