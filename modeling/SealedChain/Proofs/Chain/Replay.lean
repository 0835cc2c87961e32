import SealedChain.Proofs.Chain.Sealing

/-!
# The committed chain as a replay

The operations that a run queues are its log. While there is a committer, what it has committed and
what it has answered is the replay of the log up to the operations that it still has before it. When
it took them, and when it applied them, has no part in this.
-/
namespace SealedChain

namespace CommittedChain

def perform (c : CommittedChain) : CommitOp → CommittedChain × List TicketAnswer
  | .commit block => (((c.commit block).toOption).getD c, [])
  | .finalize hash ticket =>
    match c.finalize hash with
    | .ok finalized => (finalized, [⟨ticket, .ok ()⟩])
    | .error e => (c, [⟨ticket, .error e⟩])

def replay (c : CommittedChain) (ops : List CommitOp) : CommittedChain :=
  ops.foldl (fun c op => (c.perform op).1) c

/-- The answers that a replay gives, in the order of the operations. -/
def verdicts (c : CommittedChain) : List CommitOp → List TicketAnswer
  | [] => []
  | op :: ops => (c.perform op).2 ++ (c.perform op).1.verdicts ops

theorem replay_append (c : CommittedChain) (ops more : List CommitOp) :
    c.replay (ops ++ more) = (c.replay ops).replay more :=
  List.foldl_append

theorem verdicts_append (c : CommittedChain) (ops more : List CommitOp) :
    c.verdicts (ops ++ more) = c.verdicts ops ++ (c.replay ops).verdicts more := by
  induction ops generalizing c with
  | nil => rfl
  | cons op ops ih =>
    simp only [List.cons_append, verdicts, ih, List.append_assoc]
    rfl

theorem verdicts_prefix (c : CommittedChain) {ops all : List CommitOp} (h : ops <+: all) :
    c.verdicts ops <+: c.verdicts all := by
  obtain ⟨more, rfl⟩ := h
  rw [verdicts_append]
  exact List.prefix_append _ _

theorem tickets_verdicts (c : CommittedChain) (ops : List CommitOp) :
    (c.verdicts ops).map (·.ticket) = ops.filterMap CommitOp.ticket? := by
  induction ops generalizing c with
  | nil => rfl
  | cons op ops ih =>
    rw [verdicts, List.map_append, ih]
    cases op with
    | commit block => rfl
    | finalize hash ticket =>
      simp only [perform]
      cases c.finalize hash <;> rfl

end CommittedChain

namespace Chain

/-- The operations that the committer has before it, the one in hand before those queued. -/
def backlog (c : Chain) : List CommitOp := c.inHand.toList ++ c.queue

def queuedBy (c : Chain) (e : Event) : List CommitOp := (c.step e).queue.drop c.queue.length

def log (c : Chain) : List Event → List CommitOp
  | [] => []
  | e :: es => c.queuedBy e ++ (c.step e).log es

/-- The answers to tickets that an event gives. A finalization that cannot be queued is answered at
once. -/
def answers (c : Chain) : Event → List TicketAnswer
  | .finalize hash ticket =>
    if (c.finalize? hash ticket).isSome then [] else [⟨ticket, .error .stopped⟩]
  | .apply => c.apply.2
  | .stop => c.stop.2
  | .create _ | .submit _ | .take => []

def answered (c : Chain) : List Event → List TicketAnswer
  | [] => []
  | e :: es => c.answers e ++ (c.step e).answered es

theorem log_append (c : Chain) (es fs : List Event) :
    c.log (es ++ fs) = c.log es ++ (c.run es).log fs := by
  induction es generalizing c with
  | nil => rfl
  | cons e es ih =>
    simp only [List.cons_append, log, ih, List.append_assoc]
    rfl

theorem answered_append (c : Chain) (es fs : List Event) :
    c.answered (es ++ fs) = c.answered es ++ (c.run es).answered fs := by
  induction es generalizing c with
  | nil => rfl
  | cons e es ih =>
    simp only [List.cons_append, answered, ih, List.append_assoc]
    rfl

theorem accepting_of_step {c : Chain} {e : Event} (h : (c.step e).accepting = true) :
    c.accepting = true := by
  have hchange := c.step_change e
  generalize c.step e = c' at h hchange
  generalize c.acknowledged e = new at hchange
  cases hchange with
  | sealed finalize ha => exact ha
  | refused | stopped => simp [stop] at h
  | _ => exact h

theorem accepting_of_run {c : Chain} {es : List Event} (h : (c.run es).accepting = true) :
    c.accepting = true := by
  induction es generalizing c with
  | nil => exact h
  | cons e es ih => exact accepting_of_step (ih h)

variable {config : ChainConfig} {c : Chain} {done rest : List SealedBlock}

theorem Consistent.apply_eq (h : Consistent config c done rest) {op : CommitOp}
    (hi : c.inHand = some op) :
    c.apply = ({ c with committed := (c.committed.perform op).1, inHand := none },
      (c.committed.perform op).2) := by
  unfold apply CommittedChain.perform
  cases op with
  | commit block =>
    obtain ⟨-, committed, -, hok, -⟩ := h.commit hi
    simp only [hi, hok]
    rfl
  | finalize hash ticket =>
    simp only [hi]
    cases c.committed.finalize hash <;> rfl

/-- While there is a committer, an event queues operations behind those that it has before it, or
has it perform the first of them, or neither. -/
theorem Consistent.step_backlog (h : Consistent config c done rest) {e : Event}
    (hlive : (c.step e).accepting = true) :
    ∃ performed, c.backlog ++ c.queuedBy e = performed ++ (c.step e).backlog ∧
      (c.step e).committed = c.committed.replay performed ∧
      c.answers e = c.committed.verdicts performed := by
  have ha := accepting_of_step hlive
  have queues : ∀ (c' : Chain) (new : List CommitOp), c'.inHand = c.inHand →
      c'.queue = c.queue ++ new → c'.committed = c.committed →
      ∃ performed, c.backlog ++ c'.queue.drop c.queue.length = performed ++ c'.backlog ∧
        c'.committed = c.committed.replay performed ∧ [] = c.committed.verdicts performed := by
    intro c' new hi hq hc
    refine ⟨[], ?_, hc, rfl⟩
    simp [backlog, hi, hq]
  unfold queuedBy
  cases e with
  | create command =>
    rcases c.create_cases command with ⟨e, he⟩ | ⟨-, he⟩ <;> simp only [step, answers, he]
    · exact queues _ [] rfl (by simp) rfl
    · exact queues _ _ rfl rfl rfl
  | submit raw =>
    rcases c.submit_cases raw with ⟨e, he⟩ | ⟨e, he⟩ | ⟨-, he⟩ | ⟨-, -, he⟩ <;>
      simp only [step, answers, he]
    · exact queues _ [] rfl (by simp) rfl
    · exact queues _ [] rfl (by simp) rfl
    · exact queues _ [] rfl (by simp) rfl
    · exact queues _ [.commit ((c.pooled (keccak256 raw)).nextBlock true)] rfl rfl rfl
  | finalize hash ticket =>
    simp only [step, answers, finalize?, send?_of_accepting ha, Option.getD_some,
      Option.isSome_some, if_true]
    exact queues { c with queue := c.queue ++ [.finalize hash ticket] } _ rfl rfl rfl
  | take =>
    refine ⟨[], ?_, ?_, rfl⟩
    · cases hi : c.inHand with
      | none => cases hq : c.queue <;> simp [step, take, backlog, hi, hq]
      | some op => simp [step, take, backlog, hi]
    · simp only [step, take]
      split <;> rfl
  | apply =>
    cases hi : c.inHand with
    | none =>
      refine ⟨[], ?_, ?_, ?_⟩ <;> simp [step, answers, apply, backlog, hi,
        CommittedChain.replay, CommittedChain.verdicts]
    | some op =>
      refine ⟨[op], ?_, ?_, ?_⟩ <;> simp [step, answers, h.apply_eq hi, backlog, hi,
        CommittedChain.replay, CommittedChain.verdicts]
  | stop => simp [step, stop] at hlive

/-- What a live run commits and answers is the replay of what it performs, of the backlog and of what
is queued behind it. -/
theorem Consistent.replayed (h : Consistent config c done rest) (es : List Event)
    (hlive : (c.run es).accepting = true) :
    ∃ performed, c.backlog ++ c.log es = performed ++ (c.run es).backlog ∧
      (c.run es).committed = c.committed.replay performed ∧
      c.answered es = c.committed.verdicts performed := by
  induction es generalizing c done rest with
  | nil => exact ⟨[], by simp [log], rfl, rfl⟩
  | cons e es ih =>
    have hstep : (c.step e).accepting = true := accepting_of_run hlive
    obtain ⟨now, hlog, hcommitted, hanswered⟩ := h.step_backlog hstep
    obtain ⟨_, _, -, h'⟩ := h.change (step_change c e)
    obtain ⟨later, hlog', hcommitted', hanswered'⟩ := ih h' hlive
    refine ⟨now ++ later, ?_, ?_, ?_⟩
    · rw [log, ← List.append_assoc, hlog, List.append_assoc, hlog', List.append_assoc]
      rfl
    · rw [CommittedChain.replay_append, ← hcommitted]
      exact hcommitted'
    · rw [answered, hanswered, hanswered', hcommitted, CommittedChain.verdicts_append]

theorem replayed_run (config : ChainConfig) (es : List Event)
    (hlive : ((start config).run es).accepting = true) :
    ∃ performed, (start config).log es = performed ++ ((start config).run es).backlog ∧
      ((start config).run es).committed = (start config).committed.replay performed ∧
      (start config).answered es = (start config).committed.verdicts performed :=
  (consistent_start config).replayed es hlive

/-- The committer has nothing before it. -/
def Drained (c : Chain) : Prop := c.inHand = none ∧ c.queue = []

theorem Drained.backlog (h : c.Drained) : c.backlog = [] := by
  simp [Chain.backlog, h.1, h.2]

theorem Consistent.answered_drained (h : Consistent config c done rest) (es : List Event)
    (hlive : (c.run es).accepting = true) (hdrained : (c.run es).Drained) :
    (c.answered es).map (·.ticket) = (c.backlog ++ c.log es).filterMap CommitOp.ticket? := by
  obtain ⟨performed, heq, -, hanswered⟩ := h.replayed es hlive
  rw [hdrained.backlog, List.append_nil] at heq
  rw [hanswered, CommittedChain.tickets_verdicts, heq]

theorem Consistent.answers_finalize (h : Consistent config c done rest) (ha : c.accepting = true)
    (hash : Hash) (ticket : Nat) {es : List Event}
    (hlive : ((c.step (.finalize hash ticket)).run es).accepting = true)
    (hdrained : ((c.step (.finalize hash ticket)).run es).Drained) :
    ∃ verdict, ⟨ticket, verdict⟩ ∈ (c.step (.finalize hash ticket)).answered es := by
  obtain ⟨_, _, -, h'⟩ := h.change (step_change c (.finalize hash ticket))
  have hqueued : CommitOp.finalize hash ticket ∈ (c.step (.finalize hash ticket)).backlog := by
    simp [backlog, step, finalize?, send?_of_accepting ha]
  have hticket : ticket ∈ ((c.step (.finalize hash ticket)).answered es).map (·.ticket) := by
    rw [h'.answered_drained es hlive hdrained]
    exact List.mem_filterMap.mpr ⟨_, List.mem_append_left _ hqueued, rfl⟩
  obtain ⟨answer, hanswer, rfl⟩ := List.mem_map.mp hticket
  exact ⟨answer.result, hanswer⟩

/-- A live committer gets done with what is before it. -/
theorem Consistent.drain (h : Consistent config c done rest) (ha : c.accepting = true) :
    ∃ es : List Event, (∀ e ∈ es, e = .take ∨ e = .apply) ∧ (c.run es).accepting = true ∧
      (c.run es).Drained := by
  -- the queue gets shorter by the operation that is taken and applied
  have drains : ∀ (queue : List CommitOp) {c : Chain} {done rest : List SealedBlock},
      Consistent config c done rest → c.accepting = true → c.inHand = none → c.queue = queue →
      ∃ es : List Event, (∀ e ∈ es, e = .take ∨ e = .apply) ∧ (c.run es).accepting = true ∧
        (c.run es).Drained := by
    intro queue
    induction queue with
    | nil => exact fun _ ha hi hq => ⟨[], by simp, ha, hi, hq⟩
    | cons op ops ih =>
      intro c done rest h ha hi hq
      have htaken := h.taken hi hq
      have hstep : c.run [.take, .apply] =
          (Chain.apply { c with inHand := some op, queue := ops }).1 := by
        simp [run, step, take, hi, hq]
      rw [htaken.apply_eq rfl] at hstep
      obtain ⟨_, _, -, h'⟩ := htaken.change (apply_change _)
      rw [htaken.apply_eq rfl] at h'
      obtain ⟨es, hes, hlive, hdrained⟩ := ih h' ha rfl rfl
      refine ⟨.take :: .apply :: es, by simpa using hes, ?_⟩
      have hrun : c.run (.take :: .apply :: es) = (c.run [.take, .apply]).run es := rfl
      rw [hrun, hstep]
      exact ⟨hlive, hdrained⟩
  cases hi : c.inHand with
  | none => exact drains c.queue h ha hi rfl
  | some op =>
    obtain ⟨_, _, -, h'⟩ := h.change c.apply_change
    rw [h.apply_eq hi] at h'
    obtain ⟨es, hes, hlive, hdrained⟩ := drains c.queue h' ha rfl rfl
    refine ⟨.apply :: es, by simpa using hes, ?_⟩
    have hrun : c.run (.apply :: es) = c.apply.1.run es := rfl
    rw [hrun, h.apply_eq hi]
    exact ⟨hlive, hdrained⟩

end Chain

end SealedChain
