import SealedChain.Proofs.Chain.Timing

/-!
# Transactions are conserved

While there is a committer, a call that holds the sealing lock puts a transaction behind the pool, or
takes the whole pool into a block, or does both, and nothing else touches the pool. So the
transactions of the sealed blocks followed by the pool are the accepted ones, each as often as it was
accepted and in the order of the calls.
-/
namespace SealedChain.Chain

/-- The hash that a call returns for a transaction that it accepts. -/
def Outcome.accepted? : Outcome → Option Hash
  | .submitted (.ok hash) => some hash
  | .submitted (.error _) | .created _ => none

variable {c : Chain}

theorem create_on_head (ha : c.accepting = true) (command : BlockCommand)
    (hparent : command.parent = none) (hfull : command.createEmpty = true ∨ c.sealer.pool ≠ []) :
    c.create command = (c.enqueue (c.nextBlock command.finalize),
      .ok ⟨(c.nextBlock command.finalize).hash, { isNewBest := true }⟩) := by
  have hsent := send?_of_accepting (c := c.withPool []) ha
  have hguard : (!command.createEmpty && c.sealer.pool.isEmpty) = false := by
    rcases hfull with h | h <;> simp [h]
  unfold create
  rw [dif_neg (by simp [hparent]), if_neg (by simp [hguard])]
  simp only [hsent]
  rfl

theorem submit_accepting (ha : c.accepting = true) (raw : Bytes) :
    (∃ e, c.submit raw = (c, .error e)) ∨
    (c.config.sealing = .manual ∧
      c.submit raw = (c.pooled (keccak256 raw), .ok (keccak256 raw))) ∨
    (c.config.sealing = .instant ∧
      c.submit raw = ((c.pooled (keccak256 raw)).enqueue ((c.pooled (keccak256 raw)).nextBlock true),
        .ok (keccak256 raw))) := by
  unfold submit
  split
  · exact .inl ⟨_, rfl⟩
  · cases hs : c.config.sealing with
    | manual => exact .inr (.inl ⟨rfl, by simp [hs]⟩)
    | instant =>
      have hsealed := create_on_head (c := c.pooled (keccak256 raw)) ha ⟨false, true, none⟩ rfl
        (.inr (by simp))
      exact .inr (.inr ⟨rfl, by simp only [pooled_config, hs, hsealed]⟩)

/-- What an event seals and leaves in the pool is the pool before it, with what it accepts behind. -/
theorem step_conserved {e : Event} (hlive : (c.step e).accepting = true) :
    (c.acknowledged e).flatMap (·.transactions) ++ (c.step e).sealer.pool =
      c.sealer.pool ++ (c.outcome? e).toList.filterMap Outcome.accepted? := by
  have ha := accepting_of_step hlive
  cases e with
  | create command =>
    rcases c.create_cases command with ⟨e, he⟩ | ⟨-, he⟩
    · simp [acknowledged, step, outcome?, he, Outcome.accepted?]
    · simp only [acknowledged, step, outcome?, he, queuedBetween_enqueue]
      simp [enqueue, nextBlock, SealedBlock.onParent, Outcome.accepted?]
  | submit raw =>
    rcases submit_accepting ha raw with ⟨e, he⟩ | ⟨-, he⟩ | ⟨-, he⟩
    · simp [acknowledged, step, outcome?, he, Outcome.accepted?]
    · simp [acknowledged, step, outcome?, he, queuedBetween, Outcome.accepted?]
    · simp only [acknowledged, step, outcome?, he, queuedBetween_enqueue _ _ _ (c.pooled_queue _)]
      simp [enqueue, nextBlock, SealedBlock.onParent, Outcome.accepted?]
  | finalize | take | apply | stop =>
    obtain ⟨hsealer, -⟩ := step_other (c := c) rfl hlive
    simp [acknowledged, outcome?, hsealer]

theorem run_conserved (es : List Event) (hlive : (c.run es).accepting = true) :
    (c.history es).flatMap (·.transactions) ++ (c.run es).sealer.pool =
      c.sealer.pool ++ (c.outcomes es).filterMap Outcome.accepted? := by
  induction es generalizing c with
  | nil => simp [history, outcomes]
  | cons e es ih =>
    have hrest := ih (c := c.step e) hlive
    have hstep := step_conserved (accepting_of_run hlive)
    rw [history, outcomes, List.flatMap_append, List.filterMap_append, List.append_assoc]
    calc _ = (c.acknowledged e).flatMap (·.transactions) ++ ((c.step e).sealer.pool ++
          ((c.step e).outcomes es).filterMap Outcome.accepted?) := congrArg _ hrest
      _ = _ := by rw [← List.append_assoc, hstep, List.append_assoc]

theorem transactions_ne_nil {command : BlockCommand} (hfull : command.createEmpty = false)
    {b : SealedBlock} (hb : b ∈ c.acknowledged (.create command)) : b.transactions ≠ [] := by
  rcases c.create_cases command with ⟨e, he⟩ | ⟨-, he⟩
  · simp [acknowledged, he] at hb
  · simp only [acknowledged, he, queuedBetween_enqueue, List.mem_singleton] at hb
    subst hb
    -- with nothing in the pool the command is refused
    intro hempty
    have hpool : c.sealer.pool = [] := hempty
    unfold create at he
    simp only [hfull, hpool] at he
    split at he <;> simp at he

theorem Change.config_eq {c' : Chain} {new : List SealedBlock} (h : Change c c' new) :
    c'.config = c.config := by
  cases h with
  | sealed finalize _ pool => rcases pool with rfl | ⟨hash, rfl⟩ <;> rfl
  | _ => rfl

/-- With instant sealing and an empty pool, an accepted transaction is alone in a final block. -/
theorem acknowledged_alone (hs : c.config.sealing = .instant) (hpool : c.sealer.pool = [])
    {raw : Bytes} {hash : Hash} (h : (c.submit raw).2 = .ok hash) :
    ∃ block, c.acknowledged (.submit raw) = [block] ∧ block.transactions = [hash] ∧
      block.finalize = true := by
  rcases c.submit_cases raw with ⟨e, he⟩ | ⟨e, he⟩ | ⟨hm, -⟩ | ⟨-, -, he⟩
  · simp [he] at h
  · simp [he] at h
  · simp [hs] at hm
  · rw [he] at h
    obtain rfl := Except.ok.inj h
    refine ⟨(c.pooled (keccak256 raw)).nextBlock true, ?_, ?_, rfl⟩
    · simp only [acknowledged, he, queuedBetween_enqueue _ _ _ (c.pooled_queue _)]
    · simp [nextBlock, SealedBlock.onParent, hpool]

theorem step_instant (hs : c.config.sealing = .instant) (hpool : c.sealer.pool = []) {e : Event}
    (hlive : (c.step e).accepting = true) :
    (c.step e).sealer.pool = [] ∧ ∀ b ∈ c.acknowledged e,
      b.transactions = [] ∨ ∃ hash, b.transactions = [hash] ∧ b.finalize = true := by
  cases e with
  | create command =>
    rcases c.create_cases command with ⟨e, he⟩ | ⟨-, he⟩
    · simp [acknowledged, step, he, hpool]
    · simp only [acknowledged, step, he, queuedBetween_enqueue]
      simp [enqueue, nextBlock, SealedBlock.onParent, hpool]
  | submit raw =>
    rcases submit_accepting (accepting_of_step hlive) raw with ⟨e, he⟩ | ⟨hm, -⟩ | ⟨-, he⟩
    · simp [acknowledged, step, he, hpool]
    · simp [hs] at hm
    · simp only [acknowledged, step, he, queuedBetween_enqueue _ _ _ (c.pooled_queue _)]
      simp [enqueue, nextBlock, SealedBlock.onParent, hpool]
  | finalize | take | apply | stop =>
    obtain ⟨hsealer, -⟩ := step_other (c := c) rfl hlive
    simp [acknowledged, hsealer, hpool]

theorem run_instant (hs : c.config.sealing = .instant) (hpool : c.sealer.pool = [])
    (es : List Event) (hlive : (c.run es).accepting = true) :
    (c.run es).sealer.pool = [] ∧ ∀ b ∈ c.history es,
      b.transactions = [] ∨ ∃ hash, b.transactions = [hash] ∧ b.finalize = true := by
  induction es generalizing c with
  | nil => exact ⟨hpool, by simp [history]⟩
  | cons e es ih =>
    obtain ⟨hpool', hblocks⟩ := step_instant hs hpool (accepting_of_run hlive)
    obtain ⟨hrest, hlater⟩ := ih (by rw [(step_change c e).config_eq, hs]) hpool' hlive
    refine ⟨hrest, fun b hb => ?_⟩
    rcases List.mem_append.mp hb with hb | hb
    · exact hblocks b hb
    · exact hlater b hb

/-- In every live run the transactions of the sealed blocks, in the order of the blocks, followed by
the pool, are the transactions that were accepted, in the order of the calls. -/
theorem conserved_run (config : ChainConfig) (es : List Event)
    (hlive : ((start config).run es).accepting = true) :
    let c := (start config).run es
    let blocks := (start config).history es
    blocks.flatMap (·.transactions) ++ c.sealer.pool =
      ((start config).outcomes es).filterMap Outcome.accepted? ∧
    (∀ command created, command.createEmpty = false → (c.create command).2 = .ok created →
      ∃ block, c.acknowledged (.create command) = [block] ∧ block.hash = created.hash ∧
        block.transactions ≠ []) ∧
    (config.sealing = .instant → c.sealer.pool = [] ∧
      (∀ raw hash, (c.submit raw).2 = .ok hash →
        ∃ block, c.acknowledged (.submit raw) = [block] ∧ block.transactions = [hash] ∧
          block.finalize = true) ∧
      ∀ b ∈ blocks, b.transactions = [] ∨ ∃ hash, b.transactions = [hash] ∧ b.finalize = true) := by
  intro c blocks
  refine ⟨run_conserved es hlive, fun command created hfull hok => ?_, fun hs => ?_⟩
  · obtain ⟨block, hblock, hhash⟩ := acknowledged_create hok
    exact ⟨block, hblock, hhash, transactions_ne_nil hfull (hblock ▸ List.mem_singleton_self block)⟩
  · obtain ⟨_, _, -, h⟩ := consistent_run config es
    have hs' : c.config.sealing = .instant := by rw [h.config_eq, hs]
    obtain ⟨hpool, hblocks⟩ := run_instant (c := start config) hs rfl es hlive
    exact ⟨hpool, fun raw hash hok => acknowledged_alone hs' hpool hok, hblocks⟩

theorem conserved_twice :
    let es : List Event := [.submit [1], .create ⟨true, false, none⟩, .submit [1]]
    ((start { sealing := .instant }).run es).accepting = true ∧
      ((start { sealing := .instant }).history es).flatMap (·.transactions) =
        [keccak256 [1], keccak256 [1]] := by
  intro es
  have hlive : ((start { sealing := .instant }).run es).accepting = true := by rfl
  obtain ⟨hconserved, -, hinstant⟩ := conserved_run { sealing := .instant } es hlive
  have haccepted : ((start { sealing := .instant }).outcomes es).filterMap Outcome.accepted? =
      [keccak256 [1], keccak256 [1]] := by rfl
  rw [(hinstant rfl).1, List.append_nil, haccepted] at hconserved
  exact ⟨hlive, hconserved⟩

end SealedChain.Chain
