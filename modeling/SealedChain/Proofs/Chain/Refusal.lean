import SealedChain.Proofs.Chain.Timing

/-!
# Refused finalizations

A finalization has its place in the queue and takes a turn of the committer, but unless it is granted
nothing comes of it. So a run with it is matched by one without it: the calls are the same, the
committer has fewer turns, and after every event both have sealed, queued and committed the same
blocks.
-/
namespace SealedChain.Chain

def Event.isTurn : Event → Bool
  | .take | .apply => true
  | .create _ | .submit _ | .finalize .. | .stop => false

/-- The same calls with fewer turns of the committer between them. -/
structure FewerTurns (es fs : List Event) : Prop where
  sublist : fs.Sublist es
  calls : fs.filter (!·.isTurn) = es.filter (!·.isTurn)

/-- Two chains have sealed the same, still have the same to commit, and have committed the same. -/
structure SameEffect (c d : Chain) : Prop where
  sealer : c.sealer = d.sealer
  waiting : c.waiting = d.waiting
  committed : c.committed = d.committed

/-- Beside a chain, the one that has a finalization more in its queue, in its hand, or behind it. -/
inductive Beside (hash : Hash) (ticket : Nat) (d : Chain) : Chain → Prop
  | queued (ahead behind : List CommitOp) (queue : d.queue = ahead ++ behind)
      (accepting : d.accepting = true) :
      Beside hash ticket d { d with queue := ahead ++ .finalize hash ticket :: behind }
  | held (free : d.inHand = none) (accepting : d.accepting = true) :
      Beside hash ticket d { d with inHand := some (.finalize hash ticket) }
  | past : Beside hash ticket d d

variable {c d : Chain} {es fs : List Event} {hash : Hash} {ticket : Nat}

namespace FewerTurns

theorem refl (es : List Event) : FewerTurns es es := ⟨List.Sublist.refl _, rfl⟩

theorem cons (h : FewerTurns es fs) (e : Event) : FewerTurns (e :: es) (e :: fs) :=
  ⟨h.sublist.cons_cons e, by rw [List.filter_cons, List.filter_cons, h.calls]⟩

theorem skip (h : FewerTurns es fs) {e : Event} (he : e.isTurn = true) : FewerTurns (e :: es) fs :=
  ⟨h.sublist.cons e, by rw [List.filter_cons_of_neg (by simp [he]), h.calls]⟩

end FewerTurns

theorem SameEffect.refl (c : Chain) : SameEffect c c := ⟨rfl, rfl, rfl⟩

theorem step_sealing_frame (c : Chain) {e : Event} (he : e.isSealing = true) :
    c.step e = { c with
      sealer := (c.step e).sealer
      queue := c.queue ++ (c.queuedBetween (c.step e)).map .commit } := by
  have hsame : c.queue ++ (c.queuedBetween c).map .commit = c.queue := by simp [queuedBetween]
  cases e with
  | create command =>
    rcases c.create_cases command with ⟨e, he⟩ | ⟨-, he⟩
    · simp only [step, he, hsame]
    · simp only [step, he, queuedBetween_enqueue]
      rfl
  | submit raw =>
    have hpooled : c.queue ++ (c.queuedBetween (c.pooled (keccak256 raw))).map .commit = c.queue :=
      hsame
    rcases c.submit_cases raw with ⟨e, he⟩ | ⟨e, he⟩ | ⟨-, he⟩ | ⟨-, -, he⟩
    · simp only [step, he, hsame]
    · simp only [step, he, hpooled]
      rfl
    · simp only [step, he, hpooled]
      rfl
    · simp only [step, he, queuedBetween_enqueue _ _ _ (c.pooled_queue _)]
      rfl
  | finalize | take | apply | stop => cases he

theorem SealAlike.step_call (h : SealAlike c d) {e : Event} (hcall : e.isTurn = false)
    (hstop : e ≠ .stop) :
    ∃ sealer new, c.step e = { c with sealer, queue := c.queue ++ new } ∧
      d.step e = { d with sealer, queue := d.queue ++ new } := by
  have sealing : e.isSealing = true →
      ∃ sealer new, c.step e = { c with sealer, queue := c.queue ++ new } ∧
        d.step e = { d with sealer, queue := d.queue ++ new } := by
    intro he
    have hsame := h.step_sealing he
    have hsealer : (c.step e).sealer = (d.step e).sealer := hsame.alike.sealer
    have hblocks : c.queuedBetween (c.step e) = d.queuedBetween (d.step e) := hsame.blocks
    refine ⟨_, _, c.step_sealing_frame he, ?_⟩
    rw [hsealer, hblocks]
    exact d.step_sealing_frame he
  cases e with
  | create | submit => exact sealing rfl
  | finalize hash ticket =>
    refine ⟨c.sealer, [.finalize hash ticket], ?_, ?_⟩
    · simp only [step, finalize?, send?_of_accepting h.accepting, Option.getD_some]
    · simp only [step, finalize?, send?_of_accepting h.accepting', Option.getD_some, h.sealer]
  | take | apply => cases hcall
  | stop => exact absurd rfl hstop

namespace Beside

theorem sameEffect (h : Beside hash ticket d c) : SameEffect c d := by
  have hnone : ∀ ops, (CommitOp.finalize hash ticket :: ops).filterMap CommitOp.block? =
      ops.filterMap CommitOp.block? := fun ops => List.filterMap_cons_none rfl
  cases h with
  | queued ahead behind hqueue ha => exact ⟨rfl, by simp [waiting, hqueue, hnone], rfl⟩
  | held hfree ha => exact ⟨rfl, by simp [waiting, hfree, hnone], rfl⟩
  | past => exact .refl c

theorem call (h : Beside hash ticket d c) {e : Event} (hcall : e.isTurn = false)
    (hstop : e ≠ .stop) : Beside hash ticket (d.step e) (c.step e) := by
  cases h with
  | queued ahead behind hqueue ha =>
    have halike : SealAlike { d with queue := ahead ++ .finalize hash ticket :: behind } d :=
      ⟨rfl, rfl, ha, ha⟩
    obtain ⟨sealer, new, hc, hd⟩ := halike.step_call hcall hstop
    rw [hc, hd, List.append_assoc, List.cons_append]
    exact .queued ahead (behind ++ new) (by simp [hqueue]) ha
  | held hfree ha =>
    have halike : SealAlike { d with inHand := some (.finalize hash ticket) } d :=
      ⟨rfl, rfl, ha, ha⟩
    obtain ⟨sealer, new, hc, hd⟩ := halike.step_call hcall hstop
    rw [hc, hd]
    exact .held hfree ha
  | past => exact .past

theorem take (h : Beside hash ticket d c) :
    Beside hash ticket d.take c.take ∨ Beside hash ticket d c.take := by
  cases h with
  | queued ahead behind hqueue ha =>
    obtain ⟨_, _, _, queue, inHand, _, _⟩ := d
    obtain rfl : queue = ahead ++ behind := hqueue
    cases inHand with
    | some op => exact .inl (.queued ahead behind rfl ha)
    | none =>
      -- if the finalization is taken itself, this turn is one that the other chain does not need
      cases ahead with
      | nil => exact .inr (.held rfl ha)
      | cons op ahead => exact .inl (.queued ahead behind rfl ha)
  | held hfree ha => exact .inr (.held hfree ha)
  | past => exact .inl .past

theorem apply (h : Beside hash ticket d c) (hrefused : ⟨ticket, .ok ()⟩ ∉ c.apply.2) :
    Beside hash ticket d.apply.1 c.apply.1 ∨ Beside hash ticket d c.apply.1 := by
  cases h with
  | queued ahead behind hqueue ha =>
    refine .inl ?_
    obtain ⟨_, _, _, queue, inHand, committed, _⟩ := d
    obtain rfl : queue = ahead ++ behind := hqueue
    match inHand with
    | none => exact .queued ahead behind rfl ha
    | some (.commit block) =>
      simp only [Chain.apply]
      cases committed.commit block with
      | ok committed => exact .queued ahead behind rfl ha
      | error e =>
        -- the committer goes away and drops the finalization with all else that is queued
        exact .past
    | some (.finalize other ticket') =>
      simp only [Chain.apply]
      cases committed.finalize other with
      | ok committed => exact .queued ahead behind rfl ha
      | error e => exact .queued ahead behind rfl ha
  | held hfree ha =>
    obtain ⟨_, _, _, queue, inHand, committed, _⟩ := d
    obtain rfl : inHand = none := hfree
    simp only [Chain.apply] at hrefused ⊢
    cases hok : committed.finalize hash with
    | ok committed => simp [hok] at hrefused
    | error e => exact .inr .past
  | past => exact .inl .past

theorem step (h : Beside hash ticket d c) {e : Event} (hrefused : ⟨ticket, .ok ()⟩ ∉ c.answers e) :
    Beside hash ticket (d.step e) (c.step e) ∨
      e.isTurn = true ∧ Beside hash ticket d (c.step e) := by
  cases e with
  | create | submit | finalize => exact .inl (h.call rfl nofun)
  | take => exact h.take.imp_right fun hc => ⟨rfl, hc⟩
  | apply => exact (h.apply hrefused).imp_right fun hc => ⟨rfl, hc⟩
  | stop =>
    cases h with
    | queued | held | past => exact .inl .past

/-- A run with the finalization is matched by one without it, unless it is granted. -/
theorem run (h : Beside hash ticket d c) (es : List Event)
    (hrefused : ⟨ticket, .ok ()⟩ ∉ c.answered es) :
    ∃ fs, FewerTurns es fs ∧ Beside hash ticket (d.run fs) (c.run es) := by
  induction es generalizing c d with
  | nil => exact ⟨[], .refl [], h⟩
  | cons e es ih =>
    rw [answered, List.mem_append, not_or] at hrefused
    obtain ⟨hnow, hlater⟩ := hrefused
    rcases h.step hnow with hboth | ⟨hturn, hone⟩
    · obtain ⟨fs, hfewer, hend⟩ := ih hboth hlater
      exact ⟨e :: fs, hfewer.cons e, hend⟩
    · obtain ⟨fs, hfewer, hend⟩ := ih hone hlater
      exact ⟨fs, hfewer.skip hturn, hend⟩

end Beside

/-- Unless a finalization is granted, whatever comes after it has the effect that it would have
without. -/
theorem refused_finalize (ha : c.accepting = true) (hash : Hash) (ticket : Nat) (es : List Event)
    (hrefused : ⟨ticket, .ok ()⟩ ∉ (c.step (.finalize hash ticket)).answered es) :
    ∃ fs, FewerTurns es fs ∧ SameEffect ((c.step (.finalize hash ticket)).run es) (c.run fs) := by
  have hqueued : Beside hash ticket c (c.step (.finalize hash ticket)) := by
    simp only [step, finalize?, send?_of_accepting ha, Option.getD_some]
    exact .queued c.queue [] (List.append_nil _).symm ha
  obtain ⟨fs, hfewer, hend⟩ := hqueued.run es hrefused
  exact ⟨fs, hfewer, hend.sameEffect⟩

theorem answered_next (ha : c.accepting = true) (hdrained : c.Drained) (hash : Hash)
    (ticket : Nat) : (c.step (.finalize hash ticket)).answered [.take, .apply] =
      (c.committed.perform (.finalize hash ticket)).2 := by
  obtain ⟨hi, hq⟩ := hdrained
  have hqueued : c.step (.finalize hash ticket) = { c with queue := [.finalize hash ticket] } := by
    simp only [step, finalize?, send?_of_accepting ha, Option.getD_some, hq, List.nil_append]
  rw [hqueued]
  simp only [answered, answers, step, take, hi, apply, CommittedChain.perform]
  cases c.committed.finalize hash <;> rfl

end SealedChain.Chain
