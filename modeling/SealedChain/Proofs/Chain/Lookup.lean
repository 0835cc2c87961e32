import SealedChain.Proofs.Chain.Finality

/-!
# Look-ups of blocks

Committed blocks are kept twice, by their hashes and by their heights, and the finalized height names
one of them. All look-ups come down to the sealed blocks by height, cut off behind the committed head:
they agree with each other, and since the cut only moves up, what has been found once is found ever
after.
-/
namespace SealedChain.Chain

/-- The sealed blocks by height, up to the committed head. -/
def upToHead (config : ChainConfig) (es : List Event) : List SealedBlock :=
  (byHeight config es).take (((start config).run es).blockNumber + 1)

variable {config : ChainConfig} {es fs : List Event}

theorem collisionFree_earlier
    (h : CollisionFree (preimages config.chainId ((start config).history (es ++ fs)))) :
    CollisionFree (preimages config.chainId ((start config).history es)) := by
  refine h.mono (List.cons_subset_cons _ (List.map_subset _ ?_))
  rw [history_append]
  exact List.subset_append_left _ _

theorem blockNumber_mono (config : ChainConfig) (es fs : List Event) :
    ((start config).run es).blockNumber ≤ ((start config).run (es ++ fs)).blockNumber := by
  have hlength := (canonical_mono config es fs).length_le
  simp only [blockNumber, CommittedChain.head]
  omega

theorem upToHead_eq {done rest : List SealedBlock}
    (hblocks : (start config).history es = done ++ rest)
    (h : Consistent config ((start config).run es) done rest) :
    upToHead config es = SealedBlock.genesis config.chainId :: done := by
  have hlength : done.length + 1 = (SealedBlock.genesis config.chainId :: done).length := rfl
  rw [upToHead, h.blockNumber, byHeight, hblocks, ← List.cons_append, hlength, List.take_left]

theorem length_upToHead (config : ChainConfig) (es : List Event) :
    (upToHead config es).length = ((start config).run es).blockNumber + 1 := by
  obtain ⟨done, rest, hblocks, h⟩ := consistent_run config es
  rw [upToHead_eq hblocks h, h.blockNumber, List.length_cons]

theorem upToHead_prefix (config : ChainConfig) (es fs : List Event) :
    upToHead config es <+: upToHead config (es ++ fs) := by
  have hlonger : byHeight config es <+: byHeight config (es ++ fs) := by
    rw [byHeight, byHeight, history_append, ← List.cons_append]
    exact List.prefix_append _ _
  refine List.prefix_of_prefix_length_le ((List.take_prefix _ _).trans hlonger)
    (List.take_prefix _ _) ?_
  rw [length_upToHead, length_upToHead]
  exact Nat.succ_le_succ (blockNumber_mono config es fs)

theorem getElem?_extended {xs ys : List SealedBlock} (h : xs <+: ys) {n : Nat} {b : SealedBlock}
    (hb : xs[n]? = some b) : ys[n]? = some b := by
  obtain ⟨hn, rfl⟩ := List.getElem?_eq_some_iff.mp hb
  exact List.prefix_iff_getElem?.mp h n hn

theorem number_upToHead {n : Nat} {b : SealedBlock} (hb : (upToHead config es)[n]? = some b) :
    b.number = n :=
  number_byHeight (getElem?_extended (List.take_prefix _ _) hb)

theorem parent_upToHead {n : Nat} {b : SealedBlock} (hb : (upToHead config es)[n + 1]? = some b) :
    (upToHead config es)[n]?.map (·.hash) = some b.parent := by
  have hsealed : (byHeight config es)[n + 1]? = some b := getElem?_extended (List.take_prefix _ _) hb
  have hparent : ((byHeight config es).map (·.hash))[n]? = some b.parent :=
    (linked_run config es n b hsealed).2
  have hn := (List.getElem?_eq_some_iff.mp hb).1
  rw [length_upToHead] at hn
  rw [upToHead, List.getElem?_take_of_lt (Nat.lt_of_succ_lt hn), ← List.getElem?_map]
  exact hparent

theorem stored_upToHead
    (hfree : CollisionFree (preimages config.chainId ((start config).history es))) :
    let c := ((start config).run es).committed
    c.canonical = (upToHead config es).map (·.hash) ∧
      (∀ b, b ∈ c.blocks ↔ b ∈ upToHead config es) ∧
      ∀ b ∈ upToHead config es, c.blockByHash? b.hash = some b := by
  intro c
  obtain ⟨done, rest, hblocks, h⟩ := consistent_run config es
  have hdistinct := h.nodup (hblocks ▸ hashed_run config es) (hblocks ▸ hfree)
  rw [upToHead_eq hblocks h]
  refine ⟨?_, fun b => h.mem_blocks, fun b hb => h.blockByHash?_eq hdistinct (h.mem_blocks.mpr hb)⟩
  rw [h.canonical, h.genesisHash_eq]
  rfl

theorem blockByNumber?_run
    (hfree : CollisionFree (preimages config.chainId ((start config).history es))) (n : Nat) :
    ((start config).run es).blockByNumber? (.number n) =
      (upToHead config es)[n]?.map SealedBlock.toRecord := by
  obtain ⟨hcanonical, -, hfound⟩ := stored_upToHead hfree
  rw [Chain.blockByNumber?, CommittedChain.blockByNumber?, CommittedChain.resolve, hcanonical,
    List.getElem?_map]
  cases hb : (upToHead config es)[n]? with
  | none => rfl
  | some b => rw [Option.map_some, Option.bind_some, hfound b (List.mem_of_getElem? hb)]

theorem blockByHash?_run
    (hfree : CollisionFree (preimages config.chainId ((start config).history es))) {hash : Hash}
    {record : BlockRecord} :
    ((start config).run es).blockByHash? hash = some record ↔
      ∃ b ∈ upToHead config es, b.hash = hash ∧ b.toRecord = record := by
  obtain ⟨-, hmem, hfound⟩ := stored_upToHead hfree
  constructor
  · intro h
    obtain ⟨b, hb, hrecord⟩ := Option.map_eq_some_iff.mp h
    have hhash : b.hash = hash := by simpa using List.find?_some hb
    exact ⟨b, (hmem b).mp (List.mem_of_find?_eq_some hb), hhash, hrecord⟩
  · rintro ⟨b, hb, rfl, rfl⟩
    rw [Chain.blockByHash?, hfound b hb, Option.map_some]

theorem blockByNumber?_isSome
    (hfree : CollisionFree (preimages config.chainId ((start config).history es))) (n : Nat) :
    (((start config).run es).blockByNumber? (.number n)).isSome ↔
      n ≤ ((start config).run es).blockNumber := by
  have hlength := length_upToHead config es
  rw [blockByNumber?_run hfree, Option.isSome_map, Option.isSome_iff_exists]
  constructor
  · rintro ⟨b, hb⟩
    have hn := (List.getElem?_eq_some_iff.mp hb).1
    omega
  · intro hn
    exact ⟨_, List.getElem?_eq_getElem (by omega)⟩

/-- The block at a height is the one found under its hash, on top of the one below. -/
theorem found_by_number
    (hfree : CollisionFree (preimages config.chainId ((start config).history es))) {n : Nat}
    {b : BlockRecord} (hb : ((start config).run es).blockByNumber? (.number n) = some b) :
    b.number = n ∧ ((start config).run es).blockByHash? b.hash = some b ∧
      (n = 0 → b.parent = Word.zero 32) ∧
      ∀ m, n = m + 1 →
        (((start config).run es).blockByNumber? (.number m)).map (·.hash) = some b.parent := by
  rw [blockByNumber?_run hfree] at hb
  obtain ⟨x, hx, rfl⟩ := Option.map_eq_some_iff.mp hb
  refine ⟨number_upToHead hx, (blockByHash?_run hfree).mpr ⟨x, List.mem_of_getElem? hx, rfl, rfl⟩,
    ?_, ?_⟩
  · rintro rfl
    obtain rfl : SealedBlock.genesis config.chainId = x := Option.some.inj hx
    rfl
  · rintro m rfl
    have hparent := parent_upToHead hx
    rw [blockByNumber?_run hfree, Option.map_map]
    exact hparent

theorem found_by_hash
    (hfree : CollisionFree (preimages config.chainId ((start config).history es))) {hash : Hash}
    {b : BlockRecord} (hb : ((start config).run es).blockByHash? hash = some b) :
    b.hash = hash ∧ ((start config).run es).blockByNumber? (.number b.number) = some b := by
  obtain ⟨x, hx, rfl, rfl⟩ := (blockByHash?_run hfree).mp hb
  obtain ⟨n, hn⟩ := List.mem_iff_getElem?.mp hx
  have hnumber : x.toRecord.number = n := number_upToHead hn
  refine ⟨rfl, ?_⟩
  rw [blockByNumber?_run hfree, hnumber, hn, Option.map_some]

/-- What is found once is found ever after. -/
theorem found_later
    (hfree : CollisionFree (preimages config.chainId ((start config).history (es ++ fs)))) :
    (∀ n b, ((start config).run es).blockByNumber? (.number n) = some b →
      ((start config).run (es ++ fs)).blockByNumber? (.number n) = some b) ∧
    ∀ hash b, ((start config).run es).blockByHash? hash = some b →
      ((start config).run (es ++ fs)).blockByHash? hash = some b := by
  have hprefix := upToHead_prefix config es fs
  constructor
  · intro n b hb
    rw [blockByNumber?_run (collisionFree_earlier hfree)] at hb
    obtain ⟨x, hx, rfl⟩ := Option.map_eq_some_iff.mp hb
    rw [blockByNumber?_run hfree, getElem?_extended hprefix hx, Option.map_some]
  · intro hash b hb
    obtain ⟨x, hx, hfound⟩ := (blockByHash?_run (collisionFree_earlier hfree)).mp hb
    exact (blockByHash?_run hfree).mpr ⟨x, hprefix.subset hx, hfound⟩

/-- The blocks up to the head are found, by height as under their hashes, each on top of the one
below, and what is found once is found in every later state. No two of the preimages that occur have
one hash. -/
theorem lookups_run (config : ChainConfig) (es fs : List Event)
    (hfree : CollisionFree (preimages config.chainId ((start config).history (es ++ fs)))) :
    let c := (start config).run es
    let later := c.run fs
    (∀ n, (c.blockByNumber? (.number n)).isSome ↔ n ≤ c.blockNumber) ∧
    (∀ n b, c.blockByNumber? (.number n) = some b →
      b.number = n ∧ c.blockByHash? b.hash = some b ∧ (n = 0 → b.parent = Word.zero 32) ∧
      ∀ m, n = m + 1 → (c.blockByNumber? (.number m)).map (·.hash) = some b.parent) ∧
    (∀ hash b, c.blockByHash? hash = some b →
      b.hash = hash ∧ c.blockByNumber? (.number b.number) = some b) ∧
    ((∃ b, c.blockByNumber? (.number c.blockNumber) = some b ∧
        c.blockByNumber? .latest = some b ∧ c.blockByNumber? .pending = some b) ∧
      (∃ b, c.blockByNumber? (.number c.committed.finalized) = some b ∧
        c.blockByNumber? .finalized = some b ∧ c.blockByNumber? .safe = some b) ∧
      c.blockByNumber? .earliest = some (SealedBlock.genesis config.chainId).toRecord) ∧
    (∀ n b, c.blockByNumber? (.number n) = some b → later.blockByNumber? (.number n) = some b) ∧
    (∀ hash b, c.blockByHash? hash = some b → later.blockByHash? hash = some b) ∧
    c.blockNumber ≤ later.blockNumber := by
  intro c later
  have hnow := collisionFree_earlier hfree
  have hlater : later = (start config).run (es ++ fs) := (run_append _ es fs).symm
  have hat : ∀ n ≤ c.blockNumber, ∃ b, c.blockByNumber? (.number n) = some b :=
    fun n hn => Option.isSome_iff_exists.mp ((blockByNumber?_isSome hnow n).mpr hn)
  obtain ⟨hnumber, hhash⟩ := found_later hfree
  refine ⟨blockByNumber?_isSome hnow, fun n b hb => found_by_number hnow hb,
    fun hash b hb => found_by_hash hnow hb, ⟨?_, ?_, ?_⟩, ?_⟩
  · obtain ⟨b, hb⟩ := hat c.blockNumber (Nat.le_refl _)
    exact ⟨b, hb, hb, hb⟩
  · obtain ⟨b, hb⟩ := hat c.committed.finalized (final_run config es).le_head
    exact ⟨b, hb, hb, hb⟩
  · have hlowest : c.blockByNumber? (.number 0) = (upToHead config es)[0]?.map SealedBlock.toRecord :=
      blockByNumber?_run hnow 0
    exact hlowest
  · rw [hlater]
    exact ⟨hnumber, hhash, blockNumber_mono config es fs⟩

theorem lookups_first :
    let block := (start {}).nextBlock false
    let c := (start {}).run [.create ⟨true, false, none⟩, .take, .apply]
    CollisionFree (preimages 42 [block]) ∧ c.blockNumber = 1 ∧
      ∃ b, c.blockByNumber? .latest = some b ∧ b.number = 1 ∧ c.blockByHash? b.hash = some b := by
  intro block c
  have hfree : CollisionFree (preimages 42 ((start {}).history
      ([.create ⟨true, false, none⟩, .take, .apply] ++ []))) := collisionFree_first
  obtain ⟨hsome, hfound, -, ⟨⟨b, hb, hlatest, -⟩, -⟩, -⟩ :=
    lookups_run {} [.create ⟨true, false, none⟩, .take, .apply] [] hfree
  obtain ⟨hnumber, hhash, -⟩ := hfound _ b hb
  exact ⟨collisionFree_first, rfl, b, hlatest, hnumber, hhash⟩

end SealedChain.Chain
