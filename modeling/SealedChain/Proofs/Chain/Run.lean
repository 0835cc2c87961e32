import Mathlib.Data.List.Induction
import SealedChain.Chain.Basic

/-!
# Runs of a chain

A chain changes one indivisible event at a time: its callers create blocks, submit transactions and
queue finalizations in any order, and the committer takes an operation, applies it or goes away at
any point. A run is a list of events, and its history is the list of the blocks that it acknowledged.
`step_change` says once what an event can do; whatever holds along runs is derived from it.
-/
namespace SealedChain

def CommitOp.block? : CommitOp → Option SealedBlock
  | .commit block => some block
  | .finalize .. => none

namespace Chain

inductive Event where
  | create (command : BlockCommand)
  | submit (raw : Bytes)
  | finalize (hash : Hash) (ticket : Nat)
  | take
  | apply
  | stop

def step (c : Chain) : Event → Chain
  | .create command => (c.create command).1
  | .submit raw => (c.submit raw).1
  | .finalize hash ticket => (c.finalize? hash ticket).getD c
  | .take => c.take
  | .apply => c.apply.1
  | .stop => c.stop.1

def run (c : Chain) (es : List Event) : Chain := es.foldl step c

/-- The chain with a block sealed: it is the head, the pool is empty, and its commit is queued. -/
def enqueue (c : Chain) (block : SealedBlock) : Chain :=
  { c with
    sealer := ⟨block.number, block.hash, []⟩
    queue := c.queue ++ [.commit block] }

def queuedBetween (before after : Chain) : List SealedBlock :=
  (after.queue.drop before.queue.length).filterMap CommitOp.block?

/-- The blocks that an event acknowledges: those that its call queued, if the call succeeded. -/
def acknowledged (c : Chain) : Event → List SealedBlock
  | .create command => match c.create command with
    | (c', .ok _) => c.queuedBetween c'
    | (_, .error _) => []
  | .submit raw => match c.submit raw with
    | (c', .ok _) => c.queuedBetween c'
    | (_, .error _) => []
  | .finalize .. | .take | .apply | .stop => []

def history (c : Chain) : List Event → List SealedBlock
  | [] => []
  | e :: es => c.acknowledged e ++ (c.step e).history es

/-- The sealed blocks on their way to the committed chain, the one in hand before those queued. -/
def waiting (c : Chain) : List SealedBlock :=
  (c.inHand.toList ++ c.queue).filterMap CommitOp.block?

@[simp] theorem run_nil (c : Chain) : c.run [] = c := rfl

theorem run_append (c : Chain) (es fs : List Event) : c.run (es ++ fs) = (c.run es).run fs :=
  List.foldl_append

theorem run_concat (c : Chain) (es : List Event) (e : Event) :
    c.run (es ++ [e]) = (c.run es).step e := by
  rw [run_append]
  rfl

theorem history_append (c : Chain) (es fs : List Event) :
    c.history (es ++ fs) = c.history es ++ (c.run es).history fs := by
  induction es generalizing c with
  | nil => rfl
  | cons e es ih =>
    simp only [List.cons_append, history, ih, List.append_assoc]
    rfl

theorem history_concat (c : Chain) (es : List Event) (e : Event) :
    c.history (es ++ [e]) = c.history es ++ (c.run es).acknowledged e := by
  rw [history_append]
  simp [history]

theorem send?_of_accepting {c : Chain} (h : c.accepting = true) (op : CommitOp) :
    c.send? op = some { c with queue := c.queue ++ [op] } := if_pos h

theorem send?_of_stopped {c : Chain} (h : c.accepting = false) (op : CommitOp) :
    c.send? op = none := if_neg (h ▸ Bool.false_ne_true)

@[simp] theorem pooled_config (c : Chain) (hash : Hash) : (c.pooled hash).config = c.config := rfl

@[simp] theorem pooled_queue (c : Chain) (hash : Hash) : (c.pooled hash).queue = c.queue := rfl

@[simp] theorem pooled_pool (c : Chain) (hash : Hash) :
    (c.pooled hash).sealer.pool = c.sealer.pool ++ [hash] := rfl

theorem create_cases (c : Chain) (command : BlockCommand) :
    (∃ e, c.create command = (c, .error e)) ∨
    (c.accepting = true ∧
      c.create command = (c.enqueue (c.nextBlock command.finalize),
        .ok ⟨(c.nextBlock command.finalize).hash, { isNewBest := true }⟩)) := by
  unfold create
  split
  · exact .inl ⟨_, rfl⟩
  · split
    · exact .inl ⟨_, rfl⟩
    · cases ha : c.accepting with
      | true =>
        simp only [send?_of_accepting (c := c.withPool []) ha]
        exact .inr ⟨trivial, rfl⟩
      | false =>
        simp only [send?_of_stopped (c := c.withPool []) ha]
        -- the transactions of the block are those that the pool had
        exact .inl ⟨_, rfl⟩

theorem submit_cases (c : Chain) (raw : Bytes) :
    (∃ e, c.submit raw = (c, .error e)) ∨
    (∃ e, c.submit raw = (c.pooled (keccak256 raw), .error e)) ∨
    (c.config.sealing = .manual ∧
      c.submit raw = (c.pooled (keccak256 raw), .ok (keccak256 raw))) ∨
    (c.config.sealing = .instant ∧ c.accepting = true ∧
      c.submit raw = ((c.pooled (keccak256 raw)).enqueue ((c.pooled (keccak256 raw)).nextBlock true),
        .ok (keccak256 raw))) := by
  unfold submit
  split
  · exact .inl ⟨_, rfl⟩
  · cases hs : c.config.sealing with
    | manual => exact .inr (.inr (.inl ⟨rfl, by simp [hs]⟩))
    | instant =>
      have hp : (c.pooled (keccak256 raw)).config.sealing = .instant := hs
      rcases (c.pooled (keccak256 raw)).create_cases ⟨false, true, none⟩ with ⟨e, he⟩ | ⟨ha, he⟩
      · exact .inr (.inl ⟨e, by simp only [hp, he]⟩)
      · exact .inr (.inr (.inr ⟨rfl, ha, by simp only [hp, he]⟩))

theorem accepting_create (c : Chain) (command : BlockCommand) :
    (c.create command).1.accepting = c.accepting := by
  rcases c.create_cases command with ⟨e, he⟩ | ⟨-, he⟩ <;> rw [he]
  rfl

theorem accepting_submit (c : Chain) (raw : Bytes) :
    (c.submit raw).1.accepting = c.accepting := by
  rcases c.submit_cases raw with ⟨e, he⟩ | ⟨e, he⟩ | ⟨-, he⟩ | ⟨-, -, he⟩ <;> rw [he] <;> rfl

/-- What an event can do to a chain, and the blocks that it acknowledges by it. -/
inductive Change (c : Chain) : Chain → List SealedBlock → Prop
  | same : Change c c []
  | pooled (hash : Hash) : Change c (c.pooled hash) []
  | sealed {c' : Chain} (finalize : Bool) (accepting : c.accepting = true)
      (pool : c' = c ∨ ∃ hash, c' = c.pooled hash) :
      Change c (c'.enqueue (c'.nextBlock finalize)) [c'.nextBlock finalize]
  | queued (hash : Hash) (ticket : Nat) (accepting : c.accepting = true) :
      Change c { c with queue := c.queue ++ [.finalize hash ticket] } []
  | taken (op : CommitOp) (rest : List CommitOp) (free : c.inHand = none)
      (next : c.queue = op :: rest) : Change c { c with inHand := some op, queue := rest } []
  | committed (block : SealedBlock) (committed : CommittedChain)
      (held : c.inHand = some (.commit block)) (fits : c.committed.commit block = .ok committed) :
      Change c { c with committed, inHand := none } []
  | refused (block : SealedBlock) (e : ChainError) (held : c.inHand = some (.commit block))
      (misfit : c.committed.commit block = .error e) : Change c c.stop.1 []
  | finalized (hash : Hash) (ticket : Nat) (committed : CommittedChain)
      (held : c.inHand = some (.finalize hash ticket))
      (known : c.committed.finalize hash = .ok committed) :
      Change c { c with committed, inHand := none } []
  | unknown (hash : Hash) (ticket : Nat) (held : c.inHand = some (.finalize hash ticket)) :
      Change c { c with inHand := none } []
  | stopped : Change c c.stop.1 []

@[simp] theorem queuedBetween_enqueue (c c' : Chain) (block : SealedBlock)
    (h : c'.queue = c.queue) : c.queuedBetween (c'.enqueue block) = [block] := by
  simp [queuedBetween, enqueue, h, CommitOp.block?]

theorem create_change (c : Chain) (command : BlockCommand) :
    Change c (c.create command).1 (c.acknowledged (.create command)) := by
  rcases c.create_cases command with ⟨e, he⟩ | ⟨ha, he⟩
  · simp only [acknowledged, he]
    exact .same
  · simp only [acknowledged, he, queuedBetween_enqueue]
    exact .sealed command.finalize ha (.inl rfl)

theorem submit_change (c : Chain) (raw : Bytes) :
    Change c (c.submit raw).1 (c.acknowledged (.submit raw)) := by
  rcases c.submit_cases raw with ⟨e, he⟩ | ⟨e, he⟩ | ⟨-, he⟩ | ⟨-, ha, he⟩
  · simp only [acknowledged, he]
    exact .same
  · simp only [acknowledged, he]
    exact .pooled _
  · have hq : c.queuedBetween (c.pooled (keccak256 raw)) = [] := by simp [queuedBetween]
    simp only [acknowledged, he, hq]
    exact .pooled _
  · simp only [acknowledged, he, queuedBetween_enqueue _ _ _ (c.pooled_queue _)]
    exact .sealed true ha (.inr ⟨_, rfl⟩)

theorem apply_change (c : Chain) : Change c c.apply.1 [] := by
  unfold apply
  cases hi : c.inHand with
  | none => exact .same
  | some op =>
    cases op with
    | commit block =>
      cases hc : c.committed.commit block with
      | ok committed => simpa only [hc] using Change.committed block committed hi hc
      | error e => simpa only [hc] using Change.refused block e hi hc
    | finalize hash ticket =>
      cases hf : c.committed.finalize hash with
      | ok committed => simpa only [hf] using Change.finalized hash ticket committed hi hf
      | error e => simpa only [hf] using Change.unknown hash ticket hi

theorem step_change (c : Chain) (e : Event) : Change c (c.step e) (c.acknowledged e) := by
  cases e with
  | create command => exact c.create_change command
  | submit raw => exact c.submit_change raw
  | finalize hash ticket =>
    cases ha : c.accepting with
    | true =>
      simp only [step, finalize?, send?_of_accepting ha, Option.getD_some]
      exact .queued hash ticket ha
    | false =>
      simp only [step, finalize?, send?_of_stopped ha, Option.getD_none]
      exact .same
  | take =>
    simp only [step, take]
    split
    · rename_i op rest hi hq
      exact .taken op rest hi hq
    · exact .same
  | apply => exact c.apply_change
  | stop => exact .stopped

theorem Change.queuedBetween {c c' : Chain} {new : List SealedBlock} (h : Change c c' new) :
    c.queuedBetween c' = new := by
  cases h with
  | sealed finalize _ pool =>
    rcases pool with rfl | ⟨hash, rfl⟩
    · exact queuedBetween_enqueue _ _ _ rfl
    · exact queuedBetween_enqueue _ _ _ (c.pooled_queue hash)
  | queued hash ticket => simp [Chain.queuedBetween, CommitOp.block?]
  | taken op rest _ next =>
    have hdrop : rest.drop c.queue.length = [] := List.drop_eq_nil_of_le (by simp [next])
    simp [Chain.queuedBetween, hdrop]
  | refused | stopped => simp [Chain.queuedBetween, stop]
  | _ => simp [Chain.queuedBetween]

/-- A property that the start has and every change keeps holds along every run. -/
theorem run_induction {config : ChainConfig} {P : Chain → List SealedBlock → Prop}
    (start : P (.start config) [])
    (change : ∀ {c c' : Chain} {sealed new : List SealedBlock}, P c sealed → Change c c' new →
      P c' (sealed ++ new)) (es : List Event) :
    P ((Chain.start config).run es) ((Chain.start config).history es) := by
  induction es using List.reverseRecOn with
  | nil => exact start
  | append_singleton es e ih =>
    rw [run_concat, history_concat]
    exact change ih (step_change _ e)

end Chain

end SealedChain
