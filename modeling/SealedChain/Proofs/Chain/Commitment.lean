import SealedChain.Proofs.Chain.Visible

/-!
# What a block hash commits to

A hash is taken of the parent's hash, the height and the transactions, so it tells of everything
below it: of the chain id, of how many blocks there are and of what each holds. Whether a block is
final, how large the window is and when blocks were committed have no part in it.
-/
namespace SealedChain

theorem SealedBlock.genesisPreimage_inj {a b : Nat} (ha : a < limit64) (hb : b < limit64)
    (h : genesisPreimage a = genesisPreimage b) : a = b := by
  have hbytes := congrArg Bytes.toNat (List.append_cancel_left h)
  have hrange : Bytes.range 8 = limit64 := by decide
  rw [Bytes.toNat_bigEndian, Bytes.toNat_bigEndian, hrange, Nat.mod_eq_of_lt ha,
    Nat.mod_eq_of_lt hb] at hbytes
  exact hbytes

namespace Chain

/-- The genesis block and the blocks that a run seals on top of it, by height. -/
def byHeight (config : ChainConfig) (es : List Event) : List SealedBlock :=
  SealedBlock.genesis config.chainId :: (start config).history es

variable {config config' : ChainConfig} {es fs : List Event}

theorem linked_run (config : ChainConfig) (es : List Event) :
    Linked (SealedBlock.genesis config.chainId).hash ((start config).history es) := by
  obtain ⟨done, rest, hblocks, h⟩ := consistent_run config es
  rw [hblocks, ← h.genesisHash_eq]
  exact h.linked

theorem hashed_run (config : ChainConfig) (es : List Event) :
    ∀ b ∈ (start config).history es, b.Hashed := by
  refine run_induction (P := fun _ blocks => ∀ b ∈ blocks, b.Hashed) (by simp) ?_ es
  intro c c' blocks new h hc b hb
  rcases List.mem_append.mp hb with hb | hb
  · exact h b hb
  · exact hc.hashed b hb

theorem number_byHeight {n : Nat} {b : SealedBlock} (hb : (byHeight config es)[n]? = some b) :
    b.number = n := by
  cases n with
  | zero =>
    obtain rfl := Option.some.inj hb
    rfl
  | succ n => exact (linked_run config es n b hb).1

/-- Chains on one genesis block with the same transactions up to a height have one hash there. -/
theorem Linked.hashes_eq {genesis : Hash} {as bs : List SealedBlock} (hlinked : Linked genesis as)
    (hlinked' : Linked genesis bs) (hhashed : ∀ a ∈ as, a.Hashed) (hhashed' : ∀ b ∈ bs, b.Hashed)
    {n : Nat} (hn : n ≤ as.length) (hm : n ≤ bs.length)
    (hsame : ∀ i < n, as[i]?.map (·.transactions) = bs[i]?.map (·.transactions)) :
    (hashesOn genesis as)[n]? = (hashesOn genesis bs)[n]? := by
  induction n with
  | zero => rfl
  | succ n ih =>
    have hbelow := ih (Nat.le_of_succ_le hn) (Nat.le_of_succ_le hm)
      fun i hi => hsame i (Nat.lt_succ_of_lt hi)
    obtain ⟨a, ha⟩ : ∃ a, as[n]? = some a := ⟨_, List.getElem?_eq_getElem hn⟩
    obtain ⟨b, hb⟩ : ∃ b, bs[n]? = some b := ⟨_, List.getElem?_eq_getElem hm⟩
    have htransactions : a.transactions = b.transactions := by
      have := hsame n (Nat.lt_succ_self n)
      rw [ha, hb] at this
      exact Option.some.inj this
    obtain ⟨hnumber, hparent⟩ := hlinked n a ha
    obtain ⟨hnumber', hparent'⟩ := hlinked' n b hb
    rw [hbelow, hparent'] at hparent
    rw [getElem?_hashesOn_succ, getElem?_hashesOn_succ, ha, hb, Option.map_some, Option.map_some,
      hhashed a (List.mem_of_getElem? ha), hhashed' b (List.mem_of_getElem? hb), hnumber, hnumber',
      Option.some.inj hparent, htransactions]

def SameUpTo (as bs : List SealedBlock) (n : Nat) : Prop :=
  ∀ i, 1 ≤ i → i ≤ n → as[i]?.map (·.transactions) = bs[i]?.map (·.transactions)

theorem sameUpTo_byHeight {n : Nat} : SameUpTo (byHeight config es) (byHeight config' fs) n ↔
    ∀ i < n, ((start config).history es)[i]?.map (·.transactions) =
      ((start config').history fs)[i]?.map (·.transactions) := by
  constructor
  · exact fun h i hi => h (i + 1) (Nat.le_add_left 1 i) hi
  · intro h i hpos hi
    obtain ⟨i, rfl⟩ : ∃ k, i = k + 1 := ⟨i - 1, by omega⟩
    exact h i hi

theorem getElem?_hashes {n : Nat} {b : SealedBlock} (hb : (byHeight config es)[n]? = some b) :
    (hashesOn (SealedBlock.genesis config.chainId).hash ((start config).history es))[n]? =
      some b.hash := by
  have hmap : ((byHeight config es).map (·.hash))[n]? = some b.hash := by
    rw [List.getElem?_map, hb, Option.map_some]
  exact hmap

theorem nodup_byHeight (hfree : CollisionFree (preimages config.chainId ((start config).history es))) :
    ((byHeight config es).map (·.hash)).Nodup :=
  (linked_run config es).nodup (hashed_run config es) hfree

/-- Unless preimages collide, blocks of any two runs have one hash exactly if they are at one height
of chains with one id, and up to there every height holds the same transactions. -/
theorem hash_eq_iff_run (config config' : ChainConfig) (es fs : List Event)
    (hid : config.chainId < limit64) (hid' : config'.chainId < limit64)
    (hfree : CollisionFree (preimages config.chainId ((start config).history es) ++
      preimages config'.chainId ((start config').history fs))) :
    let as := byHeight config es
    let bs := byHeight config' fs
    (∀ n m a b, as[n]? = some a → bs[m]? = some b → a.number = n ∧ b.number = m ∧
      (a.hash = b.hash ↔ config.chainId = config'.chainId ∧ n = m ∧ SameUpTo as bs n)) ∧
    (as.map (·.hash)).Nodup ∧
    (config.chainId ≠ config'.chainId → ∀ a ∈ as, ∀ b ∈ bs, a.hash ≠ b.hash) ∧
    (config.chainId = config'.chainId → as.map (·.transactions) = bs.map (·.transactions) →
      as.map (·.hash) = bs.map (·.hash)) := by
  intro as bs
  have hlinked := linked_run config es
  have hlinked' := linked_run config' fs
  have hhashed := hashed_run config es
  have hhashed' := hashed_run config' fs
  have down : ∀ {n m a b}, as[n]? = some a → bs[m]? = some b → a.hash = b.hash →
      config.chainId = config'.chainId ∧ n = m ∧ SameUpTo as bs n := by
    intro n m a b ha hb heq
    obtain ⟨hgenesis, hheight, hbelow⟩ := hlinked.history_eq hlinked' hhashed hhashed' hfree
      (getElem?_hashes ha) (heq ▸ getElem?_hashes hb)
    exact ⟨SealedBlock.genesisPreimage_inj hid hid' hgenesis, hheight, sameUpTo_byHeight.mpr hbelow⟩
  have up : ∀ {n a b}, as[n]? = some a → bs[n]? = some b → config.chainId = config'.chainId →
      SameUpTo as bs n → a.hash = b.hash := by
    intro n a b ha hb hsame hbelow
    have hn := Nat.lt_succ_iff.mp (List.getElem?_eq_some_iff.mp ha).1
    have hm := Nat.lt_succ_iff.mp (List.getElem?_eq_some_iff.mp hb).1
    have hhashes := Linked.hashes_eq hlinked (hsame ▸ hlinked') hhashed hhashed' hn hm
      (sameUpTo_byHeight.mp hbelow)
    rw [getElem?_hashes ha, hsame, getElem?_hashes hb] at hhashes
    exact Option.some.inj hhashes
  refine ⟨fun n m a b ha hb => ⟨number_byHeight ha, number_byHeight hb, down ha hb, ?_⟩, ?_, ?_, ?_⟩
  · rintro ⟨hsame, rfl, hbelow⟩
    exact up ha hb hsame hbelow
  · exact nodup_byHeight fun p hp q hq =>
      hfree p (List.mem_append_left _ hp) q (List.mem_append_left _ hq)
  · intro hne a ha b hb heq
    obtain ⟨n, ha⟩ := List.mem_iff_getElem?.mp ha
    obtain ⟨m, hb⟩ := List.mem_iff_getElem?.mp hb
    exact hne (down ha hb heq).1
  · intro hsame htransactions
    have hat : ∀ i : Nat, as[i]?.map (·.transactions) = bs[i]?.map (·.transactions) := by
      intro i
      rw [← List.getElem?_map, ← List.getElem?_map, htransactions]
    refine List.ext_getElem? fun n => ?_
    have hn := hat n
    rw [List.getElem?_map, List.getElem?_map]
    cases ha : as[n]? with
    | none =>
      rw [ha] at hn
      rw [Option.map_eq_none_iff.mp hn.symm]
    | some a =>
      rw [ha] at hn
      obtain ⟨b, hb, -⟩ := Option.map_eq_some_iff.mp hn.symm
      rw [hb, Option.map_some, Option.map_some, up ha hb hsame fun i _ _ => hat i]

/-- Two chains with windows of different sizes seal an empty block each, of which one is final. -/
theorem hash_eq_empty_block :
    let as := byHeight {} [.create ⟨true, false, none⟩]
    let bs := byHeight { hashCount := 1 } [.create ⟨true, true, none⟩]
    ∃ a b, as[1]? = some a ∧ bs[1]? = some b ∧ a.finalize ≠ b.finalize ∧ a.hash = b.hash := by
  intro as bs
  have hfree : CollisionFree (preimages 42 ((start {}).history [.create ⟨true, false, none⟩])) := by
    unfold CollisionFree
    decide +kernel
  obtain ⟨hiff, -⟩ := hash_eq_iff_run {} { hashCount := 1 } [.create ⟨true, false, none⟩]
    [.create ⟨true, true, none⟩] (by decide) (by decide) hfree.twice
  obtain ⟨-, -, hhash⟩ := hiff 1 1 ((start {}).nextBlock false) ((start {}).nextBlock true) rfl rfl
  refine ⟨_, _, rfl, rfl, Bool.false_ne_true, hhash.mpr ⟨rfl, rfl, fun i hpos hi => ?_⟩⟩
  obtain rfl : i = 1 := Nat.le_antisymm hi hpos
  rfl

end Chain

end SealedChain
