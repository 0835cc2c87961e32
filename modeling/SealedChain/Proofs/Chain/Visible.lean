import Mathlib.Data.List.Nodup
import SealedChain.Proofs.Chain.BlockHash

/-!
# Visible blocks

A block is visible once it can be found by its hash, and it stays so. As long as no two of the
preimages that occur have one hash, no two blocks of a chain do: blocks with one hash have parents
with one hash, and so on down to the genesis block, whose preimage is shorter than that of any block
on top of it. So a visible hash tells of one block, and every block sealed before it is visible too.
-/
namespace SealedChain

/-- The hash of the block is that of its contents. -/
def SealedBlock.Hashed (b : SealedBlock) : Prop :=
  b.hash = keccak256 (preimage b.parent b.number b.transactions)

def CollisionFree (preimages : List Bytes) : Prop :=
  ∀ p ∈ preimages, ∀ q ∈ preimages, keccak256 p = keccak256 q → p = q

theorem CollisionFree.mono {preimages more : List Bytes} (h : CollisionFree more)
    (hsub : preimages ⊆ more) : CollisionFree preimages :=
  fun p hp q hq => h p (hsub hp) q (hsub hq)

theorem CollisionFree.twice {preimages : List Bytes} (h : CollisionFree preimages) :
    CollisionFree (preimages ++ preimages) :=
  fun p hp q hq => h p (by simpa using hp) q (by simpa using hq)

theorem CollisionFree.pair {p q : Bytes} (h : keccak256 p ≠ keccak256 q) :
    CollisionFree [p, q] := by
  intro x hx y hy heq
  simp only [List.mem_cons, List.not_mem_nil, or_false] at hx hy
  rcases hx with rfl | rfl <;> rcases hy with rfl | rfl
  · rfl
  · exact absurd heq h
  · exact absurd heq.symm h
  · rfl

theorem Word.flatMap_toBytes_inj {n : Nat} (hn : 0 < n) {vs ws : List (Word n)}
    (h : vs.flatMap toBytes = ws.flatMap toBytes) : vs = ws := by
  have nonempty : ∀ (w : Word n) (bs : Bytes), [] ≠ w.toBytes ++ bs := fun w bs heq => by
    have hlength := congrArg List.length heq
    simp only [List.length_nil, List.length_append, w.length_toBytes] at hlength
    omega
  induction vs generalizing ws with
  | nil =>
    cases ws with
    | nil => rfl
    | cons w ws => exact absurd h (nonempty w _)
  | cons v vs ih =>
    cases ws with
    | nil => exact absurd h.symm (nonempty v _)
    | cons w ws =>
      obtain ⟨hhead, htail⟩ := List.append_inj h (v.length_toBytes.trans w.length_toBytes.symm)
      rw [Word.ext hhead, ih htail]

namespace SealedBlock

theorem length_genesisPreimage (chainId : Nat) : (genesisPreimage chainId).length = 15 := by
  simp [genesisPreimage, genesisMark]

theorem length_preimage (parent : Hash) (number : Nat) (transactions : List Hash) :
    40 ≤ (preimage parent number transactions).length := by
  simp only [preimage, List.length_append, Bytes.length_bigEndian, parent.length_toBytes]
  omega

theorem genesisPreimage_ne_preimage (chainId : Nat) (parent : Hash) (number : Nat)
    (transactions : List Hash) : genesisPreimage chainId ≠ preimage parent number transactions := by
  intro heq
  have hlength := congrArg List.length heq
  have := length_preimage parent number transactions
  rw [length_genesisPreimage] at hlength
  omega

theorem preimage_inj {p p' : Hash} {n n' : Nat} {ts ts' : List Hash}
    (h : preimage p n ts = preimage p' n' ts') : p = p' ∧ ts = ts' := by
  simp only [preimage, List.append_assoc] at h
  obtain ⟨hparent, hrest⟩ := List.append_inj h (p.length_toBytes.trans p'.length_toBytes.symm)
  have htransactions := List.append_inj_right hrest (by simp)
  exact ⟨Word.ext hparent, Word.flatMap_toBytes_inj (by decide) htransactions⟩

end SealedBlock

namespace Chain

/-- What the hashes of a genesis block and of the blocks on top of it are taken of. -/
def preimages (chainId : Nat) (blocks : List SealedBlock) : List Bytes :=
  SealedBlock.genesisPreimage chainId ::
    blocks.map fun b => SealedBlock.preimage b.parent b.number b.transactions

/-- A block is found under the hash. -/
def Visible (c : Chain) (hash : Hash) : Prop := (c.blockByHash? hash).isSome

theorem visible_iff {c : Chain} {hash : Hash} :
    c.Visible hash ↔ ∃ b ∈ c.committed.blocks, b.hash = hash := by
  simp [Visible, blockByHash?, CommittedChain.blockByHash?]

theorem Change.hashed {c c' : Chain} {new : List SealedBlock} (h : Change c c' new) :
    ∀ b ∈ new, b.Hashed := by
  cases h with
  | sealed finalize =>
    intro b hb
    rw [List.mem_singleton.mp hb]
    rfl
  | _ => simp

theorem Change.visible {c c' : Chain} {new : List SealedBlock} (h : Change c c' new) {hash : Hash}
    (hv : c.Visible hash) : c'.Visible hash := by
  rw [visible_iff] at hv ⊢
  obtain ⟨b, hb, hhash⟩ := hv
  cases h with
  | sealed finalize _ pool =>
    rcases pool with rfl | ⟨_, rfl⟩
    · exact ⟨b, hb, hhash⟩
    · exact ⟨b, hb, hhash⟩
  | committed block committed _ fits =>
    have hblocks : committed.blocks = block :: c.committed.blocks := by
      unfold CommittedChain.commit at fits
      split at fits
      · cases fits
      · rw [← Except.ok.inj fits]
    exact ⟨b, hblocks ▸ List.mem_cons_of_mem _ hb, hhash⟩
  | finalized _ _ committed _ known =>
    have hblocks : committed.blocks = c.committed.blocks := by
      unfold CommittedChain.finalize at known
      split at known
      · cases known
      · rw [← Except.ok.inj known]
    exact ⟨b, hblocks ▸ hb, hhash⟩
  | _ => exact ⟨b, hb, hhash⟩

theorem getElem?_hashesOn_succ (genesis : Hash) (blocks : List SealedBlock) (n : Nat) :
    (hashesOn genesis blocks)[n + 1]? = blocks[n]?.map (·.hash) := by
  simp [hashesOn]

/-- Two chains come to one hash only at the same height, on genesis blocks with one preimage and with
the same transactions up to there. -/
theorem Linked.history_eq {chainId chainId' : Nat} {as bs : List SealedBlock}
    (hlinked : Linked (SealedBlock.genesis chainId).hash as)
    (hlinked' : Linked (SealedBlock.genesis chainId').hash bs)
    (hhashed : ∀ a ∈ as, a.Hashed) (hhashed' : ∀ b ∈ bs, b.Hashed)
    (hfree : CollisionFree (preimages chainId as ++ preimages chainId' bs)) {n m : Nat} {hash : Hash}
    (hn : (hashesOn (SealedBlock.genesis chainId).hash as)[n]? = some hash)
    (hm : (hashesOn (SealedBlock.genesis chainId').hash bs)[m]? = some hash) :
    SealedBlock.genesisPreimage chainId = SealedBlock.genesisPreimage chainId' ∧ n = m ∧
      ∀ i < n, as[i]?.map (·.transactions) = bs[i]?.map (·.transactions) := by
  have hgenesis := List.mem_append_left (preimages chainId' bs)
    (List.mem_cons_self : SealedBlock.genesisPreimage chainId ∈ preimages chainId as)
  have hgenesis' := List.mem_append_right (preimages chainId as)
    (List.mem_cons_self : SealedBlock.genesisPreimage chainId' ∈ preimages chainId' bs)
  have hpreimage : ∀ a ∈ as, SealedBlock.preimage a.parent a.number a.transactions ∈
      preimages chainId as ++ preimages chainId' bs :=
    fun a ha => List.mem_append_left _ (List.mem_cons_of_mem _ (List.mem_map_of_mem ha))
  have hpreimage' : ∀ b ∈ bs, SealedBlock.preimage b.parent b.number b.transactions ∈
      preimages chainId as ++ preimages chainId' bs :=
    fun b hb => List.mem_append_right _ (List.mem_cons_of_mem _ (List.mem_map_of_mem hb))
  -- blocks with one hash have parents with one hash, so the induction goes down both chains
  induction n generalizing m hash with
  | zero =>
    obtain rfl := Option.some.inj hn
    cases m with
    | zero => exact ⟨hfree _ hgenesis _ hgenesis' (Option.some.inj hm).symm, rfl, by simp⟩
    | succ m =>
      rw [getElem?_hashesOn_succ] at hm
      obtain ⟨b, hb, hhash⟩ := Option.map_eq_some_iff.mp hm
      have hb' := List.mem_of_getElem? hb
      rw [hhashed' b hb'] at hhash
      exact absurd (hfree _ hgenesis _ (hpreimage' b hb') hhash.symm)
        (SealedBlock.genesisPreimage_ne_preimage _ _ _ _)
  | succ n ih =>
    rw [getElem?_hashesOn_succ] at hn
    obtain ⟨a, ha, hhash⟩ := Option.map_eq_some_iff.mp hn
    have ha' := List.mem_of_getElem? ha
    rw [hhashed a ha'] at hhash
    cases m with
    | zero =>
      obtain rfl := Option.some.inj hm
      exact absurd (hfree _ hgenesis' _ (hpreimage a ha') hhash.symm)
        (SealedBlock.genesisPreimage_ne_preimage _ _ _ _)
    | succ m =>
      rw [getElem?_hashesOn_succ] at hm
      obtain ⟨b, hb, hhash'⟩ := Option.map_eq_some_iff.mp hm
      have hb' := List.mem_of_getElem? hb
      rw [hhashed' b hb'] at hhash'
      obtain ⟨hparent, htransactions⟩ := SealedBlock.preimage_inj
        (hfree _ (hpreimage a ha') _ (hpreimage' b hb') (hhash.trans hhash'.symm))
      obtain ⟨hsame, rfl, hbelow⟩ := ih (hlinked n a ha).2 (hparent ▸ (hlinked' m b hb).2)
      refine ⟨hsame, rfl, fun i hi => ?_⟩
      rcases Nat.lt_succ_iff_lt_or_eq.mp hi with hi | rfl
      · exact hbelow i hi
      · rw [ha, hb, Option.map_some, Option.map_some, htransactions]

theorem Linked.nodup {chainId : Nat} {blocks : List SealedBlock}
    (hlinked : Linked (SealedBlock.genesis chainId).hash blocks) (hhashed : ∀ b ∈ blocks, b.Hashed)
    (hfree : CollisionFree (preimages chainId blocks)) :
    (hashesOn (SealedBlock.genesis chainId).hash blocks).Nodup := by
  refine List.nodup_iff_getElem?_ne_getElem?.mpr fun n m hnm hm heq => ?_
  have hm' := List.getElem?_eq_getElem hm
  obtain ⟨-, hsame, -⟩ := hlinked.history_eq hlinked hhashed hhashed hfree.twice (heq.trans hm') hm'
  omega

namespace Consistent

variable {config : ChainConfig} {c : Chain} {done rest : List SealedBlock}

theorem nodup (h : Consistent config c done rest) (hhashed : ∀ b ∈ done ++ rest, b.Hashed)
    (hfree : CollisionFree (preimages config.chainId (done ++ rest))) :
    (hashesOn c.genesisHash (done ++ rest)).Nodup := by
  have hlinked := h.linked
  rw [h.genesisHash_eq] at hlinked ⊢
  exact hlinked.nodup hhashed hfree

theorem lt_of_visible (h : Consistent config c done rest)
    (hdistinct : (hashesOn c.genesisHash (done ++ rest)).Nodup) {n : Nat} {b : SealedBlock}
    (hb : (done ++ rest)[n]? = some b) (hv : c.Visible b.hash) : n < done.length := by
  obtain ⟨x, hx, hhash⟩ := visible_iff.mp hv
  have hn : (hashesOn c.genesisHash (done ++ rest))[n + 1]? = some b.hash := by
    rw [getElem?_hashesOn_succ, hb]
    rfl
  -- the hash stands at one place only, and there stands a committed block or the genesis block
  have unique : ∀ m, (hashesOn c.genesisHash (done ++ rest))[m]? = some b.hash → m = n + 1 :=
    fun m hm => (List.getElem?_inj (List.getElem?_eq_some_iff.mp hm).1 hdistinct).mp
      (hm.trans hn.symm)
  rw [h.blocks, List.mem_append, List.mem_reverse, List.mem_singleton] at hx
  rcases hx with hx | rfl
  · obtain ⟨m, hm, hget⟩ := List.getElem_of_mem hx
    have hm' : (done ++ rest)[m]? = some x := by
      rw [List.getElem?_append_left hm, List.getElem?_eq_getElem hm, hget]
    have := unique (m + 1) (by rw [getElem?_hashesOn_succ, hm', ← hhash]; rfl)
    omega
  · have := unique 0 (by rw [← hhash, ← h.genesisHash_eq]; rfl)
    omega

theorem mem_blocks (h : Consistent config c done rest) {b : SealedBlock} :
    b ∈ c.committed.blocks ↔ b ∈ SealedBlock.genesis config.chainId :: done := by
  rw [h.blocks]
  simp [or_comm]

theorem blockByHash?_eq (h : Consistent config c done rest)
    (hdistinct : (hashesOn c.genesisHash (done ++ rest)).Nodup) {b : SealedBlock}
    (hb : b ∈ c.committed.blocks) : c.committed.blockByHash? b.hash = some b := by
  have hnodup : ((SealedBlock.genesis config.chainId :: done).map (·.hash)).Nodup := by
    refine hdistinct.sublist ?_
    rw [h.genesisHash_eq, hashesOn, List.map_cons, List.map_append]
    exact (List.sublist_append_left _ _).cons_cons _
  cases hfound : c.committed.blockByHash? b.hash with
  | none => exact absurd (List.find?_eq_none.mp hfound b hb) (by simp)
  | some x =>
    have hhash : x.hash = b.hash := by simpa using List.find?_some hfound
    have hx : x ∈ c.committed.blocks := List.mem_of_find?_eq_some hfound
    rw [List.inj_on_of_nodup_map hnodup (h.mem_blocks.mp hx) (h.mem_blocks.mp hb) hhash]

/-- A visible block, the head and every block sealed before it. -/
theorem prefix_visible (h : Consistent config c done rest)
    (hdistinct : (hashesOn c.genesisHash (done ++ rest)).Nodup) {n : Nat} {b : SealedBlock}
    (hb : (done ++ rest)[n]? = some b) (hv : c.Visible b.hash) :
    b.number = n + 1 ∧ b.number ≤ c.blockNumber ∧
      ∀ m ≤ n, ∀ x, (done ++ rest)[m]? = some x → c.blockByHash? x.hash = some x.toRecord := by
  have hn := h.lt_of_visible hdistinct hb hv
  have hnumber := (h.linked n b hb).1
  refine ⟨hnumber, ?_, fun m hm x hx => ?_⟩
  · rw [hnumber, h.blockNumber]
    exact hn
  · rw [List.getElem?_append_left (Nat.lt_of_le_of_lt hm hn)] at hx
    have hstored := h.mem_blocks.mpr (List.mem_cons_of_mem _ (List.mem_of_getElem? hx))
    rw [Chain.blockByHash?, h.blockByHash?_eq hdistinct hstored, Option.map_some]

end Consistent

end Chain

end SealedChain
