import SealedChain.Proofs.Chain.Timing

/-!
# Stopping

The committer can go away between any two of its steps, with an operation in hand or not. What it
has committed until then is the replay of a part of its log, operation by operation, and stays as it
is; what it still had before it is dropped and answered. A chain without a committer only collects
transactions: it seals no block and refuses every finalization.
-/
namespace SealedChain.Chain

/-- There is no committer, and nothing is on its way to one. -/
structure Gone (c : Chain) : Prop where
  accepting : c.accepting = false
  inHand : c.inHand = none
  queue : c.queue = []

/-- The tickets are refused: the finalizations that they stand for are not applied. -/
def refusals (tickets : List Nat) : List TicketAnswer :=
  tickets.map (⟨·, .error .stopped⟩)

@[simp] theorem tickets_refusals (tickets : List Nat) :
    (refusals tickets).map (·.ticket) = tickets := by
  simp [refusals, Function.comp_def]

theorem result_refusals {tickets : List Nat} {answer : TicketAnswer}
    (h : answer ∈ refusals tickets) : answer.result = .error .stopped := by
  obtain ⟨ticket, -, rfl⟩ := List.mem_map.mp h
  rfl

variable {c : Chain}

theorem gone_stop (c : Chain) : c.stop.1.Gone := ⟨rfl, rfl, rfl⟩

theorem answers_stop (c : Chain) :
    c.answers .stop = refusals (c.backlog.filterMap CommitOp.ticket?) := by
  simp only [answers, stop, refusals, backlog, List.map_filterMap]

theorem create_stopped (ha : c.accepting = false) {command : BlockCommand}
    (hparent : command.parent = none ∨ command.parent = some c.sealer.headHash)
    (hfull : command.createEmpty = true ∨ c.sealer.pool ≠ []) :
    c.create command = (c, .error .stopped) := by
  have hunsent := send?_of_stopped (c := c.withPool []) ha
  have hguard : (!command.createEmpty && c.sealer.pool.isEmpty) = false := by
    rcases hfull with h | h <;> simp [h]
  unfold create
  rw [dif_neg (by rcases hparent with h | h <;> simp [h]), if_neg (by simp [hguard])]
  simp only [hunsent]
  rfl

theorem create_refused {command : BlockCommand} {e : ChainError}
    (h : (c.create command).2 = .error e) : (c.create command).1 = c := by
  rcases c.create_cases command with ⟨e, he⟩ | ⟨-, he⟩
  · rw [he]
  · rw [he] at h
    cases h

namespace Gone

theorem withPool (h : c.Gone) (pool : List Hash) : (c.withPool pool).Gone :=
  ⟨h.accepting, h.inHand, h.queue⟩

/-- Without a committer an event puts transactions into the pool, and that is all. -/
theorem step (h : c.Gone) (e : Event) :
    (∃ more, c.step e = c.withPool (c.sealer.pool ++ more)) ∧ c.queuedBy e = [] ∧
      c.answers e = refusals e.ticket?.toList := by
  have hsame : ∃ more, c = c.withPool (c.sealer.pool ++ more) :=
    ⟨[], by rw [List.append_nil]; rfl⟩
  have hempty : c.queue.drop c.queue.length = [] := List.drop_length
  unfold queuedBy
  cases e with
  | create command =>
    rcases c.create_cases command with ⟨e, he⟩ | ⟨ha, -⟩
    · simp only [Chain.step, he]
      exact ⟨hsame, hempty, rfl⟩
    · simp [h.accepting] at ha
  | submit raw =>
    rcases c.submit_cases raw with ⟨e, he⟩ | ⟨e, he⟩ | ⟨-, he⟩ | ⟨-, ha, -⟩
    · simp only [Chain.step, he]
      exact ⟨hsame, hempty, rfl⟩
    · simp only [Chain.step, he]
      exact ⟨⟨_, rfl⟩, hempty, rfl⟩
    · simp only [Chain.step, he]
      exact ⟨⟨_, rfl⟩, hempty, rfl⟩
    · simp [h.accepting] at ha
  | finalize hash ticket =>
    have hunsent := send?_of_stopped h.accepting (.finalize hash ticket)
    simp only [Chain.step, answers, finalize?, hunsent]
    exact ⟨hsame, hempty, rfl⟩
  | take =>
    simp only [Chain.step, take, h.inHand, h.queue]
    exact ⟨hsame, rfl, rfl⟩
  | apply =>
    simp only [Chain.step, answers, apply, h.inHand]
    exact ⟨hsame, hempty, rfl⟩
  | stop =>
    have hstop : c.stop = (c, []) := by
      obtain ⟨ha, hi, hq⟩ := h
      cases c
      simp only at ha hi hq
      simp [stop, ha, hi, hq]
    simp only [Chain.step, answers, hstop]
    exact ⟨hsame, hempty, rfl⟩

theorem run (h : c.Gone) (es : List Event) :
    (∃ more, c.run es = c.withPool (c.sealer.pool ++ more)) ∧ c.log es = [] ∧
      c.answered es = refusals (es.filterMap Event.ticket?) := by
  induction es generalizing c with
  | nil => exact ⟨⟨[], by rw [List.append_nil]; rfl⟩, rfl, rfl⟩
  | cons e es ih =>
    obtain ⟨⟨more, hstep⟩, hqueued, hanswers⟩ := h.step e
    have hgone : (c.step e).Gone := hstep ▸ h.withPool _
    obtain ⟨⟨later, hrun⟩, hlog, hanswered⟩ := ih hgone
    refine ⟨⟨more ++ later, ?_⟩, ?_, ?_⟩
    · have hfirst : c.run (e :: es) = (c.step e).run es := rfl
      rw [hfirst, hrun, hstep, ← List.append_assoc]
      rfl
    · rw [log, hqueued, hlog, List.append_nil]
    · rw [answered, hanswers, hanswered, refusals, refusals, refusals, ← List.map_append]
      cases ht : e.ticket? with
      | none => rw [List.filterMap_cons_none ht]; rfl
      | some ticket => rw [List.filterMap_cons_some ht]; rfl

end Gone

theorem run_stop (c : Chain) (es : List Event) :
    (∃ more, c.run (.stop :: es) = c.stop.1.withPool (c.sealer.pool ++ more)) ∧
      c.log (.stop :: es) = [] ∧
      c.answered (.stop :: es) =
        refusals (c.backlog.filterMap CommitOp.ticket? ++ es.filterMap Event.ticket?) := by
  obtain ⟨hrun, hlog, hanswered⟩ := c.gone_stop.run es
  refine ⟨hrun, ?_, ?_⟩
  · have hqueued : c.queuedBy .stop = [] := List.drop_nil
    have hrest : (c.step .stop).log es = [] := hlog
    rw [log, hqueued, hrest, List.append_nil]
  · have hrest : (c.step .stop).answered es = refusals (es.filterMap Event.ticket?) := hanswered
    rw [answered, answers_stop, hrest, refusals, refusals, refusals, List.map_append]

variable {config : ChainConfig} {done rest : List SealedBlock}

theorem Consistent.accepting_step (h : Consistent config c done rest) {e : Event} (he : e ≠ .stop) :
    (c.step e).accepting = c.accepting := by
  cases e with
  | create command => exact c.accepting_create command
  | submit raw => exact c.accepting_submit raw
  | finalize hash ticket =>
    cases ha : c.accepting with
    | true => simp only [Chain.step, finalize?, send?_of_accepting ha, Option.getD_some, ha]
    | false => simp only [Chain.step, finalize?, send?_of_stopped ha, Option.getD_none, ha]
  | take =>
    simp only [Chain.step, take]
    split <;> rfl
  | apply => exact h.accepting_apply
  | stop => exact absurd rfl he

theorem Consistent.live_or_stopped (h : Consistent config c done rest) (ha : c.accepting = true)
    (es : List Event) :
    (c.run es).accepting = true ∨
      ∃ before after, es = before ++ .stop :: after ∧ (c.run before).accepting = true := by
  induction es generalizing c done rest with
  | nil => exact .inl ha
  | cons e es ih =>
    by_cases he : e = .stop
    · exact .inr ⟨[], es, by rw [he]; rfl, ha⟩
    · obtain ⟨_, _, -, h'⟩ := h.change (step_change c e)
      rcases ih h' ((h.accepting_step he).trans ha) with hlive | ⟨before, after, rfl, hlive⟩
      · exact .inl hlive
      · exact .inr ⟨e :: before, after, rfl, hlive⟩

theorem answered_live (config : ChainConfig) (es fs : List Event) {answer : TicketAnswer}
    (h : answer ∈ ((start config).run es).answered fs) (hkept : answer.result ≠ .error .stopped) :
    ∃ live, live <+: fs ∧ ((start config).run (es ++ live)).accepting = true ∧
      answer ∈ ((start config).run es).answered live := by
  obtain ⟨done, rest, -, hc⟩ := consistent_run config es
  cases ha : ((start config).run es).accepting with
  | false =>
    have hgone : ((start config).run es).Gone := ⟨ha, (hc.idle ha).1, (hc.idle ha).2⟩
    obtain ⟨-, -, hrefused⟩ := hgone.run fs
    rw [hrefused] at h
    exact absurd (result_refusals h) hkept
  | true =>
    rcases hc.live_or_stopped ha fs with hlive | ⟨live, later, rfl, hlive⟩
    · exact ⟨fs, List.prefix_rfl, by rwa [run_append], h⟩
    · refine ⟨live, List.prefix_append _ _, by rwa [run_append], ?_⟩
      obtain ⟨-, -, hrefused⟩ := (((start config).run es).run live).run_stop later
      rw [answered_append, hrefused] at h
      exact (List.mem_append.mp h).resolve_right fun hlater => hkept (result_refusals hlater)

theorem first_stop (config : ChainConfig) (before after : List Event) :
    ∃ live later, before ++ .stop :: after = live ++ .stop :: later ∧
      ((start config).run live).accepting = true ∧
      (((start config).run before).accepting = true → live = before ∧ later = after) := by
  have hstart := consistent_start config
  rcases hstart.live_or_stopped rfl before with hlive | ⟨live, later, rfl, hlive⟩
  · exact ⟨before, after, rfl, hlive, fun _ => ⟨rfl, rfl⟩⟩
  · refine ⟨live, later ++ .stop :: after, by simp, hlive, fun ha => ?_⟩
    obtain ⟨⟨more, hrun⟩, -⟩ := ((start config).run live).run_stop later
    rw [run_append, hrun] at ha
    cases ha

theorem answered_stop (config : ChainConfig) (before after : List Event) :
    ((start config).answered (before ++ .stop :: after)).map (·.ticket) =
      (before ++ .stop :: after).filterMap Event.ticket? := by
  obtain ⟨live, later, hsplit, hlive, -⟩ := first_stop config before after
  obtain ⟨performed, hlog, -, hanswered⟩ := replayed_run config live hlive
  obtain ⟨-, -, hrefused⟩ := ((start config).run live).run_stop later
  have htickets := tickets_log live hlive
  rw [hlog, List.filterMap_append] at htickets
  rw [hsplit, answered_append, hanswered, hrefused, List.map_append,
    CommittedChain.tickets_verdicts, tickets_refusals, ← List.append_assoc, htickets,
    List.filterMap_append]
  rfl

/-- At whatever point the committer goes away, the committed chain stays what the first operations
queued have come to, each applied whole, and the finalizations not answered by then are refused, as
is every finalization and every command after it. -/
theorem stopped_run (config : ChainConfig) (before after : List Event) :
    let c := (start config).run before
    let d := c.run (.stop :: after)
    (d.committed = c.committed ∧ ∃ applied dropped,
      (start config).log (before ++ .stop :: after) = applied ++ dropped ∧
      d.committed = (start config).committed.replay applied ∧
      (c.accepting = true → dropped = c.backlog)) ∧
    (∀ answer ∈ c.answered (.stop :: after), answer.result = .error .stopped) ∧
    ((start config).answered (before ++ .stop :: after)).map (·.ticket) =
      (before ++ .stop :: after).filterMap Event.ticket? ∧
    (∀ hash ticket, d.answers (.finalize hash ticket) = [⟨ticket, .error .stopped⟩]) ∧
    (∀ command : BlockCommand,
      (command.parent = none ∨ command.parent = some d.sealer.headHash) →
      (command.createEmpty = true ∨ d.sealer.pool ≠ []) →
      (d.create command).2 = .error .stopped) ∧
    (∀ command, (d.create command).2 = .error .stopped → (d.create command).1 = d) ∧
    d.sealer.headNumber = c.sealer.headNumber ∧ d.sealer.headHash = c.sealer.headHash ∧
      c.sealer.pool <+: d.sealer.pool := by
  intro c d
  obtain ⟨⟨more, hrun⟩, -, hrefused⟩ := c.run_stop after
  have hd : d = c.stop.1.withPool (c.sealer.pool ++ more) := hrun
  have hgone : d.Gone := hd ▸ c.gone_stop.withPool _
  refine ⟨⟨by rw [hd]; rfl, ?_⟩, ?_, answered_stop config before after, ?_, ?_, ?_, by rw [hd]; rfl,
    by rw [hd]; rfl, ?_⟩
  · obtain ⟨live, later, hsplit, hlive, hfirst⟩ := first_stop config before after
    obtain ⟨performed, hlog, hcommitted, -⟩ := replayed_run config live hlive
    obtain ⟨⟨more', hrun'⟩, hlog', -⟩ := ((start config).run live).run_stop later
    refine ⟨performed, ((start config).run live).backlog, ?_, ?_, fun ha => ?_⟩
    · rw [hsplit, log_append, hlog', List.append_nil, hlog]
    · have hsame : d = ((start config).run live).run (.stop :: later) := by
        rw [← run_append, ← hsplit, run_append]
      rw [hsame, hrun', ← hcommitted]
      rfl
    · obtain ⟨rfl, -⟩ := hfirst ha
      rfl
  · intro answer hanswer
    rw [hrefused] at hanswer
    exact result_refusals hanswer
  · intro hash ticket
    obtain ⟨-, -, hanswers⟩ := hgone.step (.finalize hash ticket)
    exact hanswers
  · intro command hparent hfull
    rw [create_stopped hgone.accepting hparent hfull]
  · exact fun command hrefusal => create_refused hrefusal
  · rw [hd]
    exact List.prefix_append _ _

end SealedChain.Chain
