import Mathlib.Algebra.Order.Group.Nat
import Mathlib.Order.Nat
import SealedChain.Proofs.Chain.Sealing

/-!
# Block hashes along a run

A height is answered with the hash of its committed block while that is among the last committed,
as many as the window holds, and with the sentinel before and after. The genesis block is committed
from the start but never in the window.
-/
namespace SealedChain.Chain

variable {config : ChainConfig}

namespace Consistent

variable {c : Chain} {done rest : List SealedBlock}

theorem blockNumber (h : Consistent config c done rest) : c.blockNumber = done.length := by
  simp [Chain.blockNumber, CommittedChain.head, h.canonical]

theorem length_canonical (h : Consistent config c done rest) :
    c.committed.canonical.length = c.blockNumber + 1 := by
  rw [h.blockNumber, h.canonical, length_hashesOn]

theorem blockHash (h : Consistent config c done rest) (height : Nat) :
    c.blockHash height =
      (if 1 ≤ height ∧ c.blockNumber < height + config.hashCount
        then c.committed.canonical[height]? else none).getD sentinelHash := by
  rw [Chain.blockHash, h.window.get, h.blockNumber, h.canonical, h.capacity, List.length_map]
  by_cases hin : 1 ≤ height ∧ done.length < height + config.hashCount
  · obtain ⟨n, rfl⟩ : ∃ n, height = n + 1 := ⟨height - 1, by omega⟩
    rw [if_pos (by omega), if_pos hin]
    rfl
  · rw [if_neg (by omega), if_neg hin]

theorem blockHash_recent (h : Consistent config c done rest) {height : Nat} (hpos : 1 ≤ height)
    (hle : height ≤ c.blockNumber) (hlt : c.blockNumber < height + config.hashCount) :
    c.committed.canonical[height]? = some (c.blockHash height) := by
  have hin : height < c.committed.canonical.length := by
    rw [h.length_canonical]
    omega
  rw [h.blockHash, if_pos ⟨hpos, hlt⟩, List.getElem?_eq_getElem hin, Option.getD_some]

theorem blockHash_sentinel (h : Consistent config c done rest) {height : Nat}
    (hout : ¬ (1 ≤ height ∧ height ≤ c.blockNumber ∧
      c.blockNumber < height + config.hashCount)) : c.blockHash height = sentinelHash := by
  rw [h.blockHash]
  split
  · have hend : c.committed.canonical.length ≤ height := by
      rw [h.length_canonical]
      omega
    rw [List.getElem?_eq_none hend, Option.getD_none]
  · rfl

/-- Applying a held block makes it the head, and its hash the newest in the window. -/
theorem blockHash_apply (h : Consistent config c done rest) {block : SealedBlock}
    (hi : c.inHand = some (.commit block)) :
    c.apply.1.blockNumber = block.number ∧ block.number = c.blockNumber + 1 ∧
      (0 < config.hashCount → c.apply.1.blockHash block.number = block.hash) := by
  obtain ⟨rest', committed, rfl, hok, h'⟩ := h.commit hi
  have happly : c.apply.1 = { c with committed, inHand := none } := by simp only [apply, hi, hok]
  have hnumber : block.number = done.length + 1 := (h.linked done.length block (by simp)).1
  rw [← h.blockNumber] at hnumber
  rw [← happly] at h'
  have hhead : c.apply.1.blockNumber = block.number := by
    rw [h'.blockNumber, List.length_append, List.length_singleton, ← h.blockNumber, hnumber]
  refine ⟨hhead, hnumber, fun hroom => ?_⟩
  have hnewest := h'.blockHash_recent (by omega) hhead.ge (by omega)
  have hlength : block.number = (hashesOn c.apply.1.genesisHash done).length := by
    rw [length_hashesOn, hnumber, h.blockNumber]
  rw [h'.canonical, hashesOn_append, hlength, List.getElem?_concat_length, ← hlength] at hnewest
  exact (Option.some.inj hnewest).symm

theorem blockByNumber?_hash (h : Consistent config c done rest) (height : Nat) :
    (c.blockByNumber? (.number height)).map (·.hash) = c.committed.canonical[height]? := by
  have hstored : ∀ hash ∈ c.committed.canonical,
      (c.committed.blockByHash? hash).map (·.hash) = some hash := by
    intro hash hm
    have hb : ∃ b ∈ c.committed.blocks, b.hash = hash := by
      rw [h.canonical, h.genesisHash_eq, hashesOn, List.mem_cons, List.mem_map] at hm
      rw [h.blocks]
      rcases hm with rfl | ⟨b, hb, rfl⟩
      · exact ⟨_, by simp, rfl⟩
      · exact ⟨b, by simp [hb], rfl⟩
    obtain ⟨b, hb, hhash⟩ := hb
    cases hf : c.committed.blockByHash? hash with
    | none => exact absurd (List.find?_eq_none.mp hf b hb) (by simp [hhash])
    | some found =>
      have := List.find?_some hf
      simpa using this
  rw [Chain.blockByNumber?, CommittedChain.blockByNumber?, CommittedChain.resolve]
  cases hc : c.committed.canonical[height]? with
  | none => rfl
  | some hash =>
    have := hstored hash (List.mem_of_getElem? hc)
    simpa [Option.map_map, Function.comp_def, SealedBlock.toRecord] using this

theorem number_le (h : Consistent config c done rest) {b : SealedBlock}
    (hb : b ∈ c.committed.blocks) : b.number ≤ c.sealer.headNumber := by
  rw [h.blocks, List.mem_append, List.mem_reverse, List.mem_singleton] at hb
  rcases hb with hb | rfl
  · obtain ⟨i, hi, hget⟩ := List.getElem_of_mem (List.mem_append_left rest hb)
    have hnumber := (h.linked i b (List.getElem?_eq_some_iff.mpr ⟨hi, hget⟩)).1
    rw [hnumber, h.headNumber]
    exact hi
  · exact Nat.zero_le _

theorem blockByHash?_number_le (h : Consistent config c done rest) {hash : Hash}
    {b : BlockRecord} (hb : b ∈ c.blockByHash? hash) : b.number ≤ c.sealer.headNumber := by
  obtain ⟨x, hx, rfl⟩ := Option.map_eq_some_iff.mp hb
  exact h.number_le (List.mem_of_find?_eq_some hx)

theorem blockByNumber?_number_le (h : Consistent config c done rest) {tag : BlockTag}
    {b : BlockRecord} (hb : b ∈ c.blockByNumber? tag) : b.number ≤ c.sealer.headNumber := by
  obtain ⟨x, hx, rfl⟩ := Option.map_eq_some_iff.mp hb
  obtain ⟨hash, -, hx⟩ := Option.bind_eq_some_iff.mp hx
  exact h.number_le (List.mem_of_find?_eq_some hx)

theorem blockNumber_le (h : Consistent config c done rest) :
    c.blockNumber ≤ c.sealer.headNumber := by
  rw [h.blockNumber, h.headNumber, List.length_append]
  exact Nat.le_add_right _ _

end Consistent

theorem exists_first {f : Nat → Nat} (hf : Monotone f) (bound last : Nat) :
    ∃ first, ∀ t ≤ last, bound ≤ f t ↔ first ≤ t := by
  by_cases h : ∃ t, bound ≤ f t
  · refine ⟨Nat.find h, fun t _ => ⟨fun ht => Nat.find_min' h ht, fun ht => ?_⟩⟩
    exact (Nat.find_spec h).trans (hf ht)
  · refine ⟨last + 1, fun t ht => ⟨fun hb => absurd ⟨t, hb⟩ h, fun hl => ?_⟩⟩
    omega

def after (config : ChainConfig) (es : List Event) (t : Nat) : Chain :=
  (Chain.start config).run (es.take t)

theorem canonical_after (config : ChainConfig) (es : List Event) {t u : Nat} (h : t ≤ u) :
    (after config es t).committed.canonical <+: (after config es u).committed.canonical := by
  have hsplit : es.take u = es.take t ++ (es.take u).drop t := by
    conv_lhs => rw [← List.take_append_drop t (es.take u), List.take_take, Nat.min_eq_left h]
  rw [after, after, hsplit]
  exact canonical_mono config (es.take t) _

theorem blockNumber_after_mono (config : ChainConfig) (es : List Event) :
    Monotone fun t => (after config es t).blockNumber := by
  intro t u h
  have := (canonical_after config es h).length_le
  simp only [Chain.blockNumber, CommittedChain.head]
  omega

theorem consistent_after (config : ChainConfig) (es : List Event) (t : Nat) :
    ∃ done rest, Consistent config (after config es t) done rest := by
  obtain ⟨done, rest, -, h⟩ := consistent_run config (es.take t)
  exact ⟨done, rest, h⟩

/-- Along a run the answers for a height are the sentinel, then one hash, then the sentinel. -/
theorem blockHash_after (config : ChainConfig) (es : List Event) (height : Nat) :
    ∃ hash first last, first ≤ last ∧ ∀ t ≤ es.length,
      (after config es t).blockHash height =
        if first ≤ t ∧ t < last then hash else sentinelHash := by
  have hmono := blockNumber_after_mono config es
  obtain ⟨first, hfirst⟩ := exists_first hmono height es.length
  obtain ⟨last, hlast⟩ := exists_first hmono (height + config.hashCount) es.length
  let hash := ((after config es es.length).committed.canonical[height]?).getD sentinelHash
  by_cases hz : height = 0
  · refine ⟨hash, 0, 0, Nat.le_refl 0, fun t _ => ?_⟩
    obtain ⟨done, rest, h⟩ := consistent_after config es t
    rw [h.blockHash_sentinel (by omega), if_neg (by omega)]
  refine ⟨hash, first, max first last, Nat.le_max_left first last, fun t ht => ?_⟩
  obtain ⟨done, rest, h⟩ := consistent_after config es t
  have hreached : height ≤ (after config es t).blockNumber ↔ first ≤ t := hfirst t ht
  have hpassed : height + config.hashCount ≤ (after config es t).blockNumber ↔ last ≤ t :=
    hlast t ht
  by_cases hin : first ≤ t ∧ t < max first last
  · have hhash := h.blockHash_recent (Nat.pos_of_ne_zero hz) (hreached.mpr hin.1) (by omega)
    have hkept : (after config es es.length).committed.canonical[height]? =
        some ((after config es t).blockHash height) := by
      obtain ⟨more, hmore⟩ := canonical_after config es ht
      rw [← hmore, List.getElem?_append_left (List.getElem?_eq_some_iff.mp hhash).1, hhash]
    rw [if_pos hin]
    simp only [hash, hkept, Option.getD_some]
  · rw [if_neg hin, h.blockHash_sentinel (by omega)]

/-- A height is answered with the hash of its committed block if it is among the last up to the
head, as many as the window has room for, and with the sentinel if not. Along a run that is the
sentinel, then one hash, then the sentinel. -/
theorem blockHash_run (config : ChainConfig) (es : List Event) :
    let c := (Chain.start config).run es
    (∀ height, 1 ≤ height → height ≤ c.blockNumber → c.blockNumber - height < config.hashCount →
      c.committed.canonical[height]? = some (c.blockHash height) ∧
      (c.blockByNumber? (.number height)).map (·.hash) = some (c.blockHash height)) ∧
    (∀ height, ¬ (1 ≤ height ∧ height ≤ c.blockNumber ∧
        c.blockNumber - height < config.hashCount) → c.blockHash height = sentinelHash) ∧
    c.committed.window.size = min c.blockNumber config.hashCount ∧
    (∀ block, c.inHand = some (.commit block) →
      (∃ committed, c.committed.commit block = .ok committed ∧
        c.apply.1.committed = committed) ∧
      c.apply.1.blockNumber = block.number ∧ block.number = c.blockNumber + 1 ∧
      (0 < config.hashCount → c.apply.1.blockHash block.number = block.hash)) ∧
    ∀ height, ∃ hash first last, first ≤ last ∧ ∀ t ≤ es.length,
      (after config es t).blockHash height =
        if first ≤ t ∧ t < last then hash else sentinelHash := by
  intro c
  obtain ⟨done, rest, -, h⟩ : ∃ done rest, _ ∧ Consistent config c done rest :=
    consistent_run config es
  refine ⟨fun height hpos hle hlt => ?_, fun height hout => ?_, ?_, fun block hi => ⟨?_, ?_⟩,
    blockHash_after config es⟩
  · have hhash := h.blockHash_recent hpos hle (by omega)
    exact ⟨hhash, (h.blockByNumber?_hash height).trans hhash⟩
  · exact h.blockHash_sentinel (by omega)
  · rw [h.window.size, h.capacity, List.length_map, h.blockNumber]
  · obtain ⟨committed, hok, happly, -⟩ := h.apply_commit hi
    exact ⟨committed, hok, by rw [happly]⟩
  · exact h.blockHash_apply hi

/-- With room for one hash, the first block is looked up until the second is committed. -/
theorem blockHash_one_kept :
    let turn : List Event := [.create ⟨true, false, none⟩, .take]
    let first := (Chain.start { hashCount := 1 }).nextBlock false
    let c := (Chain.start { hashCount := 1 }).run turn
    let second := c.apply.1.nextBlock false
    let d := c.apply.1.run turn
    first.hash ≠ sentinelHash ∧
      c.inHand = some (.commit first) ∧ c.apply.1.blockHash 1 = first.hash ∧
      d.inHand = some (.commit second) ∧ d.blockHash 1 = first.hash ∧
      (d.blockByNumber? (.number 1)).map (·.hash) = some first.hash ∧
      d.apply.1.blockHash 2 = second.hash ∧ d.apply.1.blockHash 1 = sentinelHash := by
  intro turn first c second d
  have hd : (Chain.start { hashCount := 1 }).run (turn ++ [.apply] ++ turn) = d := by
    rw [run_append, run_concat]
    rfl
  have hafter : (Chain.start { hashCount := 1 }).run (turn ++ [.apply] ++ turn ++ [.apply]) =
      d.apply.1 := by
    rw [run_concat, hd]
    rfl
  have hcommitted : d.committed = c.apply.1.committed := rfl
  obtain ⟨-, -, -, hfirst, -⟩ := blockHash_run { hashCount := 1 } turn
  obtain ⟨hkept, -, -, hsecond, -⟩ := blockHash_run { hashCount := 1 } (turn ++ [.apply] ++ turn)
  obtain ⟨-, hpassed, -, -, -⟩ :=
    blockHash_run { hashCount := 1 } (turn ++ [.apply] ++ turn ++ [.apply])
  obtain ⟨-, -, -, hhash⟩ := hfirst first rfl
  obtain ⟨-, hstored⟩ := hkept 1 (by decide) (by decide) (by decide)
  obtain ⟨-, -, -, hhash'⟩ := hsecond second rfl
  have hc : c.apply.1.blockHash 1 = first.hash := hhash Nat.one_pos
  have hlooked : d.blockHash 1 = first.hash := by
    rw [Chain.blockHash, hcommitted]
    exact hc
  rw [hd] at hstored hhash'
  rw [hafter] at hpassed
  exact ⟨by decide +kernel, rfl, hc, rfl, hlooked, hstored.trans (congrArg some hlooked),
    hhash' Nat.one_pos, hpassed 1 (by decide)⟩

end SealedChain.Chain
