import SealedChain.Proofs.Chain.Conservation
import SealedChain.Proofs.Chain.Stopping

/-!
# Failed operations

Sealing takes the pool into a block before the block is sent, and puts it back if the block cannot be
sent; so a command that fails leaves the chain as it was. A submission with instant sealing pools its
transaction first, and no failure takes it out again: what sealing puts back is the pool with the
transaction in it. So a submission to a chain without a committer fails and leaves its transaction
behind. No other submission changes the chain when it fails.
-/
namespace SealedChain.Chain

/-- A call that fails leaves the chain as it was. -/
def Atomic {α : Type} (c : Chain) (call : Chain × Except ChainError α) : Prop :=
  ∀ e, call.2 = .error e → call.1 = c

/-- A transaction that would be sealed at once, had the chain a committer. -/
structure Strands (c : Chain) (raw : Bytes) : Prop where
  nonempty : raw.isEmpty = false
  instant : c.config.sealing = .instant
  stopped : c.accepting = false

def Outcome.failed : Outcome → Bool
  | .created (.error _) | .submitted (.error _) => true
  | .created (.ok _) | .submitted (.ok _) => false

/-- The events of a run without the commands and submissions that fail. -/
def succeeded (c : Chain) : List Event → List Event
  | [] => []
  | e :: es =>
    if (c.outcome? e).any Outcome.failed then (c.step e).succeeded es
    else e :: (c.step e).succeeded es

variable {c : Chain} {raw : Bytes}

theorem pooled_ne (c : Chain) (hash : Hash) : c.pooled hash ≠ c := fun h => by
  have hpool := congrArg (·.sealer.pool) h
  simp at hpool

/-- Sealing fails, and the transaction stays in the pool. -/
theorem submit_strands (h : c.Strands raw) :
    c.submit raw = (c.pooled (keccak256 raw), .error .stopped) := by
  have hsealed : (c.pooled (keccak256 raw)).create ⟨false, true, none⟩ =
      (c.pooled (keccak256 raw), .error .stopped) :=
    create_stopped (c := c.pooled (keccak256 raw)) h.stopped (.inl rfl) (.inr (by simp))
  rw [submit, if_neg (by simp [h.nonempty])]
  simp only [pooled_config, h.instant, hsealed]

theorem submit_manual (hs : c.config.sealing = .manual) (hraw : raw.isEmpty = false) :
    c.submit raw = (c.pooled (keccak256 raw), .ok (keccak256 raw)) := by
  rw [submit, if_neg (by simp [hraw])]
  simp only [pooled_config, hs]

theorem atomic_create (c : Chain) (command : BlockCommand) : Atomic c (c.create command) :=
  fun _ => create_refused

theorem atomic_submit_iff (c : Chain) (raw : Bytes) : Atomic c (c.submit raw) ↔ ¬ c.Strands raw := by
  constructor
  · intro h hstrands
    have hsubmit := submit_strands hstrands
    exact pooled_ne c (keccak256 raw) (by simpa [hsubmit] using h .stopped (by rw [hsubmit]))
  · intro h e he
    cases hraw : raw.isEmpty with
    | true => simp [submit, hraw]
    | false =>
      cases hs : c.config.sealing with
      | manual =>
        rw [submit_manual hs hraw] at he
        cases he
      | instant =>
        -- the transaction is not stranded, so there is a committer
        have ha : c.accepting = true := by
          cases ha : c.accepting with
          | true => rfl
          | false => exact absurd ⟨hraw, hs, ha⟩ h
        rcases submit_accepting ha raw with ⟨_, hsubmit⟩ | ⟨-, hsubmit⟩ | ⟨-, hsubmit⟩
        · rw [hsubmit]
        · rw [hsubmit] at he
          cases he
        · rw [hsubmit] at he
          cases he

theorem step_failed {e : Event} (h : c.config.sealing = .manual ∨ c.accepting = true)
    (hfailed : (c.outcome? e).any Outcome.failed = true) : c.step e = c := by
  cases e with
  | create command =>
    cases hresult : (c.create command).2 with
    | error e => exact atomic_create c command e hresult
    | ok created => simp [outcome?, hresult, Outcome.failed] at hfailed
  | submit raw =>
    cases hresult : (c.submit raw).2 with
    | error e =>
      refine (atomic_submit_iff c raw).mpr (fun hstrands => ?_) e hresult
      rcases h with hs | ha
      · cases hs.symm.trans hstrands.instant
      · cases ha.symm.trans hstrands.stopped
    | ok hash => simp [outcome?, hresult, Outcome.failed] at hfailed
  | finalize | take | apply | stop => simp [outcome?] at hfailed

theorem run_succeeded (es : List Event)
    (h : c.config.sealing = .manual ∨ (c.run es).accepting = true) :
    c.run (c.succeeded es) = c.run es := by
  induction es generalizing c with
  | nil => rfl
  | cons e es ih =>
    have hnow : c.config.sealing = .manual ∨ c.accepting = true :=
      h.imp_right fun hlive => accepting_of_step (accepting_of_run hlive)
    have hrest := ih (c := c.step e) (h.imp_left fun hs => by rw [(step_change c e).config_eq, hs])
    rw [succeeded]
    split
    · rename_i hfailed
      have hsame := step_failed hnow hfailed
      rw [hsame] at hrest ⊢
      rw [hrest]
      exact congrArg (run · es) hsame.symm
    · exact hrest

/-- A call that fails leaves the chain as it was, unless it submits a transaction that would be
sealed at once if there were a committer: that one stays in the pool. -/
theorem atomic_operations (c : Chain) :
    (∀ command, Atomic c (c.create command)) ∧
    (∀ raw, (Atomic c (c.submit raw) ↔ ¬ c.Strands raw) ∧
      (c.Strands raw → c.submit raw = (c.pooled (keccak256 raw), .error .stopped))) ∧
    ∀ es, c.config.sealing = .manual ∨ (c.run es).accepting = true →
      c.run (c.succeeded es) = c.run es :=
  ⟨c.atomic_create, fun raw => ⟨c.atomic_submit_iff raw, submit_strands⟩, run_succeeded⟩

/-- A chain with instant sealing that has been stopped reports that a submission failed, and has the
transaction in its pool. -/
theorem stranded_transaction :
    let c := (start { sealing := .instant }).stop.1
    (c.submit [1]).2 = .error .stopped ∧ keccak256 [1] ∉ c.sealer.pool ∧
      keccak256 [1] ∈ (c.submit [1]).1.sealer.pool ∧ ¬ Atomic c (c.submit [1]) := by
  intro c
  have hstrands : c.Strands [1] := ⟨rfl, rfl, rfl⟩
  have hsubmit := submit_strands hstrands
  refine ⟨by rw [hsubmit], List.not_mem_nil, by rw [hsubmit]; simp, ?_⟩
  exact fun h => (atomic_submit_iff c [1]).mp h hstrands

end SealedChain.Chain
