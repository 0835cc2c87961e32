import SealedChain.Proofs.Chain.Run
import SealedChain.Proofs.Chain.Window

/-!
# Sealed, waiting and committed blocks

One invariant ties the sealer, the queue, the committer's hand and the committed chain: the blocks
acknowledged so far form one chain on the genesis block, the committed ones come first in it, and
the rest is what the committer still has before it. It holds in every state of every run, so each
block that the committer applies fits the committed chain.
-/
namespace SealedChain.Chain

/-- The hashes by height of blocks on top of a genesis block. -/
def hashesOn (genesis : Hash) (blocks : List SealedBlock) : List Hash :=
  genesis :: blocks.map (·.hash)

/-- The blocks are numbered from one on, and the parent of each is the hash one height below. -/
def Linked (genesis : Hash) (blocks : List SealedBlock) : Prop :=
  ∀ i b, blocks[i]? = some b → b.number = i + 1 ∧ (hashesOn genesis blocks)[i]? = some b.parent

/-- The state of a chain that has committed the blocks `done` and still has to commit `rest`. Once
the committer is gone, `rest` is what it left uncommitted. -/
structure Consistent (config : ChainConfig) (c : Chain) (done rest : List SealedBlock) : Prop where
  config_eq : c.config = config
  genesisHash_eq : c.genesisHash = (SealedBlock.genesis config.chainId).hash
  linked : Linked c.genesisHash (done ++ rest)
  headNumber : c.sealer.headNumber = (done ++ rest).length
  headHash : (hashesOn c.genesisHash (done ++ rest)).getLast? = some c.sealer.headHash
  canonical : c.committed.canonical = hashesOn c.genesisHash done
  blocks : c.committed.blocks = done.reverse ++ [SealedBlock.genesis config.chainId]
  capacity : c.committed.window.capacity = config.hashCount
  window : c.committed.window.Recent 1 (done.map (·.hash))
  waiting : c.accepting = true → c.waiting = rest
  idle : c.accepting = false → c.inHand = none ∧ c.queue = []

theorem hashesOn_append (genesis : Hash) (blocks : List SealedBlock) (b : SealedBlock) :
    hashesOn genesis (blocks ++ [b]) = hashesOn genesis blocks ++ [b.hash] := by
  simp [hashesOn]

@[simp] theorem length_hashesOn (genesis : Hash) (blocks : List SealedBlock) :
    (hashesOn genesis blocks).length = blocks.length + 1 := by
  simp [hashesOn]

theorem Linked.append {genesis : Hash} {blocks : List SealedBlock} (h : Linked genesis blocks)
    {b : SealedBlock} (hn : b.number = blocks.length + 1)
    (hp : (hashesOn genesis blocks).getLast? = some b.parent) :
    Linked genesis (blocks ++ [b]) := by
  intro i x hx
  rw [List.getElem?_append] at hx
  rw [hashesOn_append, List.getElem?_append, length_hashesOn]
  split at hx
  · rename_i hi
    obtain ⟨hnumber, hparent⟩ := h i x hx
    rw [if_pos (by omega)]
    exact ⟨hnumber, hparent⟩
  · rename_i hi
    have hi' : i = blocks.length := by
      have := (List.getElem?_eq_some_iff.mp hx).1
      rw [List.length_singleton] at this
      omega
    subst hi'
    simp only [Nat.sub_self, List.getElem?_cons_zero, Option.some.injEq] at hx
    subst hx
    rw [List.getLast?_eq_getElem?, length_hashesOn] at hp
    rw [if_pos (by omega)]
    exact ⟨hn, hp⟩

theorem waiting_of_inHand {c : Chain} {op : CommitOp} (h : c.inHand = some op) :
    c.waiting = op.block?.toList ++ c.queue.filterMap CommitOp.block? := by
  rw [Chain.waiting, h, List.filterMap_append, Option.toList_some]
  cases op <;> rfl

variable {config : ChainConfig}

theorem consistent_start (config : ChainConfig) : Consistent config (.start config) [] [] where
  config_eq := rfl
  genesisHash_eq := rfl
  linked := by simp [Linked]
  headNumber := rfl
  headHash := rfl
  canonical := rfl
  blocks := rfl
  capacity := rfl
  window := HashWindow.recent_empty _ _
  waiting := fun _ => rfl
  idle := fun _ => ⟨rfl, rfl⟩

namespace Consistent

variable {c : Chain} {done rest : List SealedBlock}

theorem pooled (h : Consistent config c done rest) (hash : Hash) :
    Consistent config (c.pooled hash) done rest :=
  { h with }

theorem enqueue (h : Consistent config c done rest) (ha : c.accepting = true) (finalize : Bool) :
    Consistent config (c.enqueue (c.nextBlock finalize)) done (rest ++ [c.nextBlock finalize]) where
  config_eq := h.config_eq
  genesisHash_eq := h.genesisHash_eq
  linked := by
    rw [← List.append_assoc]
    exact h.linked.append (by rw [← h.headNumber]; rfl) h.headHash
  headNumber := by
    rw [← List.append_assoc, List.length_append, ← h.headNumber]
    rfl
  headHash := by
    rw [← List.append_assoc, hashesOn_append, List.getLast?_concat]
    rfl
  canonical := h.canonical
  blocks := h.blocks
  capacity := h.capacity
  window := h.window
  waiting := fun _ => by
    rw [← h.waiting ha]
    simp [Chain.waiting, Chain.enqueue, CommitOp.block?]
  idle := fun hn => by
    have : c.accepting = false := hn
    simp [ha] at this

theorem queued (h : Consistent config c done rest) (ha : c.accepting = true) (hash : Hash)
    (ticket : Nat) :
    Consistent config { c with queue := c.queue ++ [.finalize hash ticket] } done rest :=
  { h with
    waiting := fun _ => by
      rw [← h.waiting ha]
      simp [Chain.waiting, CommitOp.block?]
    idle := fun hn => by simp [ha] at hn }

theorem taken (h : Consistent config c done rest) {op : CommitOp} {ops : List CommitOp}
    (hi : c.inHand = none) (hq : c.queue = op :: ops) :
    Consistent config { c with inHand := some op, queue := ops } done rest :=
  { h with
    waiting := fun ha => by
      rw [← h.waiting ha]
      simp [Chain.waiting, hi, hq]
    idle := fun hn => by simp [(h.idle hn).2] at hq }

theorem accepting_of_inHand (h : Consistent config c done rest) {op : CommitOp}
    (hi : c.inHand = some op) : c.accepting = true := by
  cases ha : c.accepting with
  | true => rfl
  | false => simp [(h.idle ha).1] at hi

/-- A finalization leaves the hand, and the finalized height may then be any. -/
theorem released (h : Consistent config c done rest) {hash : Hash} {ticket : Nat}
    (hi : c.inHand = some (.finalize hash ticket)) (finalized : Nat) :
    Consistent config
      { c with committed := { c.committed with finalized }, inHand := none } done rest :=
  { h with
    waiting := fun ha => by
      rw [← h.waiting ha, waiting_of_inHand hi]
      simp [Chain.waiting, CommitOp.block?]
    idle := fun hn => ⟨rfl, (h.idle hn).2⟩ }

theorem stopped (h : Consistent config c done rest) : Consistent config c.stop.1 done rest :=
  { h with
    waiting := fun ha => absurd ha (by simp [Chain.stop])
    idle := fun _ => ⟨rfl, rfl⟩ }

theorem commit (h : Consistent config c done rest) {block : SealedBlock}
    (hi : c.inHand = some (.commit block)) :
    ∃ rest' committed, rest = block :: rest' ∧ c.committed.commit block = .ok committed ∧
      Consistent config { c with committed, inHand := none } (done ++ [block]) rest' := by
  obtain ⟨rest', hrest⟩ : ∃ rest', c.queue.filterMap CommitOp.block? = rest' := ⟨_, rfl⟩
  have hw := h.waiting (h.accepting_of_inHand hi)
  rw [waiting_of_inHand hi, hrest] at hw
  obtain rfl : block :: rest' = rest := hw
  have hnumber : block.number = done.length + 1 := (h.linked done.length block (by simp)).1
  obtain ⟨window, hpush, hcapacity, hrecent⟩ := h.window.push block.hash
  rw [List.length_map, Nat.add_comm, ← hnumber] at hpush
  have hassoc : done ++ [block] ++ rest' = done ++ block :: rest' := by simp
  have hc : c.committed.commit block = .ok
      { blocks := block :: c.committed.blocks
        canonical := c.committed.canonical ++ [block.hash]
        window
        finalized := if block.finalize then block.number else c.committed.finalized } := by
    rw [CommittedChain.commit, hpush]
  refine ⟨rest', _, rfl, hc, ?_⟩
  exact {
    config_eq := h.config_eq
    genesisHash_eq := h.genesisHash_eq
    linked := by rw [hassoc]; exact h.linked
    headNumber := by rw [hassoc]; exact h.headNumber
    headHash := by rw [hassoc]; exact h.headHash
    canonical := by rw [hashesOn_append, ← h.canonical]
    blocks := by simp [h.blocks]
    capacity := hcapacity.trans h.capacity
    window := by simpa using hrecent
    waiting := fun _ => hrest
    idle := fun hn => ⟨rfl, (h.idle hn).2⟩ }

/-- The block in hand can be applied, and is installed as the last of the committed ones. -/
theorem apply_commit (h : Consistent config c done rest) {block : SealedBlock}
    (hi : c.inHand = some (.commit block)) :
    ∃ committed, c.committed.commit block = .ok committed ∧
      c.apply = ({ c with committed, inHand := none }, []) ∧
      committed.canonical = c.committed.canonical ++ [block.hash] := by
  obtain ⟨rest', committed, -, hok, h'⟩ := h.commit hi
  refine ⟨committed, hok, by simp only [apply, hi, hok], ?_⟩
  rw [h.canonical, ← hashesOn_append]
  exact h'.canonical

theorem accepting_apply (h : Consistent config c done rest) :
    c.apply.1.accepting = c.accepting := by
  cases hi : c.inHand with
  | none => simp only [apply, hi]
  | some op =>
    cases op with
    | commit block =>
      obtain ⟨committed, -, happly, -⟩ := h.apply_commit hi
      rw [happly]
    | finalize hash ticket =>
      cases hf : c.committed.finalize hash <;> simp only [apply, hi, hf]

/-- A change keeps a chain consistent, and moves blocks only from those that wait to those
committed. -/
theorem change (h : Consistent config c done rest) {c' : Chain} {new : List SealedBlock}
    (hc : Change c c' new) :
    ∃ moved rest', rest ++ new = moved ++ rest' ∧ Consistent config c' (done ++ moved) rest' := by
  have unmoved : ∀ {c' new}, Consistent config c' done (rest ++ new) →
      ∃ moved rest', rest ++ new = moved ++ rest' ∧ Consistent config c' (done ++ moved) rest' :=
    fun h' => ⟨[], _, rfl, by simpa using h'⟩
  cases hc with
  | same => exact unmoved (by simpa using h)
  | pooled hash => exact unmoved (by simpa using h.pooled hash)
  | sealed finalize ha hp =>
    rcases hp with rfl | ⟨hash, rfl⟩
    · exact unmoved (h.enqueue ha finalize)
    · exact unmoved ((h.pooled hash).enqueue ha finalize)
  | queued hash ticket ha => exact unmoved (by simpa using h.queued ha hash ticket)
  | taken op ops hi hq => exact unmoved (by simpa using h.taken hi hq)
  | committed block committed hi hf =>
    obtain ⟨rest', committed', rfl, hok, h'⟩ := h.commit hi
    obtain rfl : committed' = committed := Except.ok.inj (hok.symm.trans hf)
    exact ⟨[block], rest', by simp, h'⟩
  | refused block e hi hf =>
    obtain ⟨-, committed, -, hok, -⟩ := h.commit hi
    simp [hok] at hf
  | finalized hash ticket committed hi hf =>
    obtain ⟨finalized, rfl⟩ : ∃ finalized, committed = { c.committed with finalized } := by
      unfold CommittedChain.finalize at hf
      split at hf
      · simp at hf
      · exact ⟨_, (Except.ok.inj hf).symm⟩
    exact unmoved (by simpa using h.released hi finalized)
  | unknown hash ticket hi => exact unmoved (by simpa using h.released hi c.committed.finalized)
  | stopped => exact unmoved (by simpa using h.stopped)

end Consistent

theorem consistent_run (config : ChainConfig) (es : List Event) :
    ∃ done rest, (Chain.start config).history es = done ++ rest ∧
      Consistent config ((Chain.start config).run es) done rest := by
  refine run_induction (P := fun c acks => ∃ done rest, acks = done ++ rest ∧
    Consistent config c done rest) ⟨[], [], rfl, consistent_start config⟩ ?_ es
  rintro c c' _ new ⟨done, rest, rfl, h⟩ hc
  obtain ⟨moved, rest', heq, h'⟩ := h.change hc
  exact ⟨done ++ moved, rest', by rw [List.append_assoc, heq, List.append_assoc], h'⟩

theorem canonical_mono (config : ChainConfig) (es fs : List Event) :
    ((Chain.start config).run es).committed.canonical <+:
      ((Chain.start config).run (es ++ fs)).committed.canonical := by
  induction fs using List.reverseRecOn with
  | nil => simp
  | append_singleton fs e ih =>
    obtain ⟨done, rest, -, h⟩ := consistent_run config (es ++ fs)
    obtain ⟨moved, rest', -, h'⟩ := h.change (step_change _ e)
    rw [← List.append_assoc, run_concat]
    refine ih.trans ?_
    have hg := h.genesisHash_eq.trans h'.genesisHash_eq.symm
    rw [h.canonical, h'.canonical, hg]
    exact ⟨moved.map (·.hash), by simp [hashesOn]⟩

theorem acknowledged_create {c : Chain} {command : BlockCommand} {created : CreatedBlock}
    (h : (c.create command).2 = .ok created) :
    ∃ block, c.acknowledged (.create command) = [block] ∧ block.hash = created.hash := by
  rcases c.create_cases command with ⟨e, he⟩ | ⟨-, he⟩
  · simp [he] at h
  · rw [he] at h
    obtain rfl := Except.ok.inj h
    exact ⟨_, by simp only [acknowledged, he, queuedBetween_enqueue], rfl⟩

theorem acknowledged_submit {c : Chain} {raw : Bytes} {hash : Hash}
    (hs : c.config.sealing = .instant) (h : (c.submit raw).2 = .ok hash) :
    ∃ block, c.acknowledged (.submit raw) = [block] ∧ hash ∈ block.transactions := by
  rcases c.submit_cases raw with ⟨e, he⟩ | ⟨e, he⟩ | ⟨hm, -⟩ | ⟨-, -, he⟩
  · simp [he] at h
  · simp [he] at h
  · simp [hs] at hm
  · rw [he] at h
    obtain rfl := Except.ok.inj h
    refine ⟨(c.pooled (keccak256 raw)).nextBlock true, ?_, ?_⟩
    · simp only [acknowledged, he, queuedBetween_enqueue _ _ _ (c.pooled_queue _)]
    · simp [nextBlock, SealedBlock.onParent]

/-- The acknowledged blocks are one chain on the genesis block up to the sealer's head, and the
first of them are committed. While there is a committer the others are what it has before it, and
the block that it holds is committed next. -/
theorem acknowledged_run (config : ChainConfig) (es fs : List Event) :
    let c := (Chain.start config).run es
    let blocks := (Chain.start config).history es
    let genesis := (SealedBlock.genesis config.chainId).hash
    (Linked genesis blocks ∧ c.sealer.headNumber = blocks.length ∧
      (hashesOn genesis blocks).getLast? = some c.sealer.headHash) ∧
    (∃ committed rest, blocks = committed ++ rest ∧
      c.committed.canonical = hashesOn genesis committed ∧
      (c.accepting = true → c.waiting = rest)) ∧
    c.committed.canonical <+: (c.run fs).committed.canonical ∧
    (∀ block, c.inHand = some (.commit block) →
      ∃ committed, c.committed.commit block = .ok committed ∧
        c.apply = ({ c with committed, inHand := none }, []) ∧
        committed.canonical = c.committed.canonical ++ [block.hash]) ∧
    c.apply.1.accepting = c.accepting ∧
    (∀ command created, (c.create command).2 = .ok created →
      ∃ block, c.acknowledged (.create command) = [block] ∧ block.hash = created.hash) ∧
    (∀ raw hash, config.sealing = .instant → (c.submit raw).2 = .ok hash →
      ∃ block, c.acknowledged (.submit raw) = [block] ∧ hash ∈ block.transactions) := by
  intro c blocks genesis
  obtain ⟨done, rest, hblocks, h⟩ := consistent_run config es
  have hgenesis : c.genesisHash = genesis := h.genesisHash_eq
  refine ⟨⟨?_, ?_, ?_⟩, ⟨done, rest, hblocks, ?_, h.waiting⟩, ?_, fun block => h.apply_commit,
    h.accepting_apply, ?_, ?_⟩
  · simpa only [blocks, hblocks, ← hgenesis] using h.linked
  · simpa only [blocks, hblocks] using h.headNumber
  · simpa only [blocks, hblocks, ← hgenesis] using h.headHash
  · rw [← hgenesis]
    exact h.canonical
  · have := canonical_mono config es fs
    rwa [run_append] at this
  · exact fun command created hok => acknowledged_create hok
  · intro raw hash hs hok
    have hi : c.config.sealing = .instant := by rw [h.config_eq, hs]
    exact acknowledged_submit hi hok

/-- Of two blocks the first is in hand, and applying it makes it the committed head. -/
theorem acknowledged_two_blocks :
    let es : List Event := [.create ⟨true, false, none⟩, .create ⟨true, false, none⟩, .take]
    let c := (Chain.start {}).run es
    ∃ first second, (Chain.start {}).history es = [first, second] ∧
      second.parent = first.hash ∧ c.sealer.headHash = second.hash ∧
      c.committed.canonical = [c.genesisHash] ∧
      c.apply.1.committed.canonical = [c.genesisHash, first.hash] ∧
      c.apply.1.waiting = [second] := by
  intro es c
  obtain ⟨-, -, -, happly, -⟩ := acknowledged_run {} es []
  obtain ⟨committed, -, hinstalled, hcanonical⟩ := happly _ rfl
  refine ⟨_, _, rfl, rfl, rfl, rfl, ?_, ?_⟩
  · rw [hinstalled]
    exact hcanonical
  · rw [hinstalled]
    rfl

end SealedChain.Chain
