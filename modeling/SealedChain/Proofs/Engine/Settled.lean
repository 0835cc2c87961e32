import SealedChain.Proofs.Engine.RoundTrip

/-!
# Settled blocks

When a call of an engine that waits for blocks ends without an error, its block is visible. Then the
block and every block sealed before it are committed, and they stay so. A block that was produced
before another was begun is sealed before it, so settling the last block of a burst settles all.
-/
namespace SealedChain

/-- The call has waited for the block of an acknowledgment. -/
inductive Undertaking.Settled (ack : Acknowledgment) : Undertaking → Prop
  | settle : Settled ack ⟨.settle ack, .ended (.ok .settled)⟩
  | produce (command : BlockCommand) :
      Settled ack ⟨.command (.createBlock command) true, .ended (.ok (.acknowledged ack))⟩

/-- The call has sealed a block, whether it has waited for it or not. -/
inductive Undertaking.Produced (ack : Acknowledgment) : Undertaking → Prop
  | intro (command : BlockCommand) (settles : Bool) :
      Produced ack ⟨.command (.createBlock command) settles, .ended (.ok (.acknowledged ack))⟩

namespace Engine.Sound

variable {visible named : Hash → Prop} {base e : Engine} {u : Undertaking} {ack : Acknowledgment}

theorem settled (h : Sound visible named base e) (hawaits : e.config.settlement.awaits = true)
    (hu : u ∈ e.calls.drop base.calls.length) (hsettled : u.Settled ack) {hash : Hash}
    (hhash : ack.hash? = some hash) : visible hash := by
  obtain ⟨k, hk⟩ := List.mem_iff_getElem?.mp hu
  rw [List.getElem?_drop] at hk
  have hstands := h.calls _ u (Nat.le_add_right _ k) hk
  cases hsettled with
  | settle => exact hstands.shows hawaits rfl ack hash (.settle ack) hhash
  | produce command => exact hstands.shows hawaits rfl ack hash (.command _ true ack) hhash

theorem produced (h : Sound visible named base e) (hu : u ∈ e.calls.drop base.calls.length)
    (hproduced : u.Produced ack) : ∃ hash, ack.hash? = some hash ∧ named hash := by
  obtain ⟨k, hk⟩ := List.mem_iff_getElem?.mp hu
  rw [List.getElem?_drop] at hk
  have hstands := h.calls _ u (Nat.le_add_right _ k) hk
  cases hproduced with
  | intro command settles => exact hstands.names ack (.command _ settles ack) command settles rfl

end Engine.Sound

namespace Deployment

variable (config : ChainConfig) (configs : Nat → ClientConfig)

theorem prefix_visible (es : List Event)
    (hfree : CollisionFree (Chain.preimages config.chainId ((start config configs).sealing es)))
    {n : Nat} {b : SealedBlock} (hb : ((start config configs).sealing es)[n]? = some b)
    (hv : ((start config configs).run es).chain.Visible b.hash) :
    b.number = n + 1 ∧ b.number ≤ ((start config configs).run es).chain.blockNumber ∧
      ∀ m ≤ n, ∀ x, ((start config configs).sealing es)[m]? = some x →
        ((start config configs).run es).chain.blockByHash? x.hash = some x.toRecord := by
  obtain ⟨done, rest, hblocks, hchain⟩ := consistent_run config configs es
  have hhashed := sealing_hashed (start config configs) es
  rw [hblocks] at hfree hb hhashed ⊢
  exact hchain.prefix_visible (hchain.nodup hhashed hfree) hb hv

/-- When a call has waited for the block of an acknowledgment, this block and every block sealed
before it can be found, then and later. No client has used up the ids of sixty-four bits, and no two
preimages that occur have one hash. -/
theorem settled_run (before es fs : List Event)
    (hfree : CollisionFree (Chain.preimages config.chainId
      ((start config configs).sealing (before ++ es ++ fs))))
    (hids : ∀ i, (((start config configs).run (before ++ es)).engines i).client.nextId ≤ limit64) :
    let blocks := (start config configs).sealing (before ++ es ++ fs)
    let earlier := (start config configs).run before
    let d := earlier.run es
    let later := d.run fs
    (∀ j, ∀ v ∈ (d.engines j).calls.drop (earlier.engines j).calls.length, ∀ ack, v.Produced ack →
      ∃ x ∈ earlier.sealing es, ack.hash? = some x.hash) ∧
    ∀ i, (d.engines i).config.settlement.awaits = true → ∀ u ∈ (d.engines i).calls,
      ∀ ack, u.Settled ack →
      (∀ n b, blocks[n]? = some b → ack.hash? = some b.hash →
        b.number = n + 1 ∧ b.number ≤ later.chain.blockNumber ∧
        ∀ m ≤ n, ∀ x, blocks[m]? = some x →
          later.chain.blockByHash? x.hash = some x.toRecord) ∧
      ∀ j, ∀ v ∈ (d.engines j).calls.drop (earlier.engines j).calls.length, v.Produced ack →
        ∀ k, ∀ w ∈ (earlier.engines k).calls, ∀ first, w.Produced first →
          ∃ x ∈ blocks, first.hash? = some x.hash ∧
            later.chain.blockByHash? x.hash = some x.toRecord := by
  intro blocks earlier d later
  have hd : (start config configs).run (before ++ es) = d := run_append _ before es
  have hlater : (start config configs).run (before ++ es ++ fs) = later := by
    rw [run_append, hd]
  have hblocks : blocks = (start config configs).sealing before ++
      (earlier.sealing es ++ d.sealing fs) := by
    simp only [blocks, sealing_append, hd, List.append_assoc]
    rfl
  rw [hd] at hids
  have hproduced : ∀ j, ∀ v ∈ (d.engines j).calls.drop (earlier.engines j).calls.length, ∀ ack,
      v.Produced ack → ∃ x ∈ earlier.sealing es, ack.hash? = some x.hash := by
    intro j v hv ack hack
    have hsound := sound_since config configs before es (hids j)
    obtain ⟨hash, hhash, x, hx, rfl⟩ := hsound.produced hv hack
    exact ⟨x, hx, hhash⟩
  have hsettled : ∀ i, (d.engines i).config.settlement.awaits = true →
      ∀ u ∈ (d.engines i).calls, ∀ ack, u.Settled ack → ∀ n b, blocks[n]? = some b →
      ack.hash? = some b.hash → b.number = n + 1 ∧ b.number ≤ later.chain.blockNumber ∧
        ∀ m ≤ n, ∀ x, blocks[m]? = some x →
          later.chain.blockByHash? x.hash = some x.toRecord := by
    intro i hawaits u hu ack hack n b hb hhash
    have hsound := sound_since config configs [] (before ++ es) (i := i) (hd.symm ▸ hids i)
    have hv : d.chain.Visible b.hash :=
      hd ▸ hsound.settled (hd.symm ▸ hawaits) (hd.symm ▸ hu) hack hhash
    rw [← hlater]
    exact prefix_visible config configs _ hfree hb (hlater ▸ run_visible d fs hv)
  refine ⟨hproduced, fun i hawaits u hu ack hack =>
    ⟨hsettled i hawaits u hu ack hack, fun j v hv hvack k w hw first hfirst => ?_⟩⟩
  -- the earlier block was sealed before this production began, and its own block after that
  obtain ⟨y, hy, hyhash⟩ := hproduced j v hv ack hvack
  have hsound := sound_since config configs [] before (i := k)
    (Nat.le_trans (nextId_le_run earlier es k) (hids k))
  obtain ⟨hash, hhash, x, hx, rfl⟩ := hsound.produced hw hfirst
  have hx : x ∈ (start config configs).sealing before := hx
  obtain ⟨m, hm⟩ := List.mem_iff_getElem?.mp hx
  obtain ⟨n, hn⟩ := List.mem_iff_getElem?.mp hy
  have hlt := (List.getElem?_eq_some_iff.mp hm).1
  have hlt' := (List.getElem?_eq_some_iff.mp hn).1
  have hm' : blocks[m]? = some x := by
    rw [hblocks, List.getElem?_append_left hlt]
    exact hm
  have hn' : blocks[((start config configs).sealing before).length + n]? = some y := by
    rw [hblocks, List.getElem?_append_right (Nat.le_add_right _ n), Nat.add_sub_cancel_left,
      List.getElem?_append_left hlt', hn]
  obtain ⟨-, -, hall⟩ := hsettled i hawaits u hu ack hack _ y hn' hyhash
  exact ⟨x, List.mem_of_getElem? hm', hhash, hall m (by omega) x hm'⟩

/-- An engine produces a block without waiting, and settles it once the committer has taken it. -/
theorem settled_production :
    let config : ChainConfig := {}
    let configs : Nat → ClientConfig := fun _ => { settlement := .awaitBlock 10 1000 }
    let block := (Chain.start config).nextBlock false
    let ack : Acknowledgment := ⟨(CreatedBlock.mk block.hash { isNewBest := true }).toJson.sorted⟩
    let es : List Event :=
      [] ++ [.call 0 (.command (.createBlock (.onHead false)) false)] ++ roundTrip 0 0 1 0 ++
        [.chain .take] ++ [.chain .apply] ++ [.call 0 (.settle ack)] ++ [.turn 0 1] ++
        roundTrip 0 1 2 1
    ⟨.settle ack, .ended (.ok .settled)⟩ ∈ (((start config configs).run es).engines 0).calls ∧
      (start config configs).sealing es = [block] ∧
      block.number ≤ ((start config configs).run es).chain.blockNumber ∧
      ((start config configs).run es).chain.blockByHash? block.hash = some block.toRecord := by
  intro config configs block ack es
  have hhash : ack.hash? = some block.hash := CreatedBlock.hash?_acknowledgment _
  have hfree : CollisionFree (Chain.preimages config.chainId [block]) := by
    unfold CollisionFree
    decide +kernel
  -- of any events that seal this block alone
  have hsound : ∀ {es : List Event} {c : Chain} {e : Engine},
      (start config configs).Leads 0 es c [block] e → 1 + es.length ≤ limit64 →
      e.config.settlement.awaits = true → ⟨.settle ack, .ended (.ok .settled)⟩ ∈ e.calls →
      block.number ≤ c.blockNumber ∧ c.blockByHash? block.hash = some block.toRecord := by
    intro es c e h hlength hawaits hmem
    have hrun := settled_run config configs [] es []
      (by rw [List.nil_append, List.append_nil, h.sealed]; exact hfree)
      (fun i => (nextId_run_le _ _ i).trans hlength)
    simp only [List.nil_append, List.append_nil, run_nil, h.sealed, h.chain] at hrun
    obtain ⟨-, hsettles⟩ := hrun
    obtain ⟨-, hhead, hbelow⟩ := (hsettles 0 (by rw [h.engine]; exact hawaits) _
      (by rw [h.engine]; exact hmem) ack .settle).1 0 block rfl hhash
    exact ⟨hhead, hbelow 0 (Nat.le_refl 0) block rfl⟩
  have hid : (1 : Nat) < limit64 := by decide
  have hfresh : Engine.Rests ((start config configs).engines 0) 1 0 :=
    ⟨⟨rfl, rfl, rfl, rfl⟩, rfl, rfl, rfl⟩
  let sealed := (Chain.start config).create (.onHead false)
  have hcreated : sealed.2 = .ok ⟨block.hash, { isNewBest := true }⟩ := rfl
  obtain ⟨e, hproduced, hrests, hconfig, hcalls⟩ :=
    (Leads.nil (start config configs) 0).produce hfresh hid hcreated
  have hcommitted := (hproduced.operate .take rfl).operate .apply rfl
  let committed := (sealed.1.step .take).step .apply
  have hblocks : committed.committed.blocks = [block, .genesis config.chainId] := rfl
  have hfound : committed.blockByHash? block.hash = some block.toRecord := by
    simp [Chain.blockByHash?, CommittedChain.blockByHash?, hblocks]
  obtain ⟨e', hsettled, -, hconfig', hcalls'⟩ := hcommitted.settle hrests (by decide)
    (by rw [hconfig]; rfl) hhash hfound (show 1 < limit64 from hid)
  rw [hcalls] at hsettled hcalls'
  have hall : (start config configs).Leads 0 es committed [block] e' := hsettled
  have hmem : ⟨.settle ack, .ended (.ok .settled)⟩ ∈ e'.calls := by
    rw [hcalls']
    simp
  have hawaits : e'.config.settlement.awaits = true := by
    rw [hconfig', hconfig]
    rfl
  rw [hall.engine, hall.sealed, hall.chain]
  exact ⟨hmem, rfl, hsound hall (show 1 + 23 ≤ limit64 by decide) hawaits hmem⟩

end Deployment

end SealedChain
