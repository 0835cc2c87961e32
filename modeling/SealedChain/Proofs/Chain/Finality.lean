import Mathlib.Order.Bounds.Defs
import SealedChain.Proofs.Chain.Commitment
import SealedChain.Proofs.Chain.Stopping

/-!
# Finality

The finalized height is raised by the blocks that are sealed as final, once they are committed, and
by finalizations that callers ask for. A committed block overwrites it without looking at what it
was; since it is the highest block so far, nothing is lost by that. A finalization is applied after
everything that was queued before it, so whether its block is known depends on its place in the queue
and not on what was committed when it was called for.
-/
namespace SealedChain

namespace CommittedChain

/-- What the committer can make of the committed chain, and the hashes whose finalizations it
applies. -/
inductive Advance (c : CommittedChain) : CommittedChain → List Hash → Prop
  | same : Advance c c []
  | committed (b : SealedBlock) (window : HashWindow) (next : b.number = c.canonical.length) :
      Advance c ⟨b :: c.blocks, c.canonical ++ [b.hash], window,
        if b.finalize then b.number else c.finalized⟩ []
  | finalized (b : SealedBlock) (stored : b ∈ c.blocks) :
      Advance c { c with finalized := max c.finalized b.number } [b.hash]

/-- The finalized height is the highest of the stored blocks that are sealed as final or that were
finalized by their hash. -/
structure Final (c : CommittedChain) (hashes : List Hash) : Prop where
  low : ∀ b ∈ c.blocks, b.number ≤ c.head
  sealed : ∀ b ∈ c.blocks, b.finalize = true → b.number ≤ c.finalized
  named : ∀ hash ∈ hashes, ∃ b ∈ c.blocks, b.hash = hash ∧ b.number ≤ c.finalized
  attained : ∃ b ∈ c.blocks, b.number = c.finalized ∧ (b.finalize = true ∨ b.hash ∈ hashes)

variable {c c' : CommittedChain} {hashes new : List Hash}

theorem finalize_ok {hash : Hash} (h : c.finalize hash = .ok c') :
    ∃ b ∈ c.blocks, b.hash = hash ∧ c' = { c with finalized := max c.finalized b.number } := by
  unfold finalize at h
  split at h
  · cases h
  · rename_i b hb
    have hhash : b.hash = hash := by simpa using List.find?_some hb
    exact ⟨b, List.mem_of_find?_eq_some hb, hhash, (Except.ok.inj h).symm⟩

theorem finalize_error {hash : Hash} {e : ChainError} (h : c.finalize hash = .error e) :
    e = .unknownBlock hash ∧ ∀ b ∈ c.blocks, b.hash ≠ hash := by
  unfold finalize at h
  split at h
  · rename_i hnone
    exact ⟨(Except.error.inj h).symm, by simpa using List.find?_eq_none.mp hnone⟩
  · cases h

theorem commit_ok {b : SealedBlock} (h : c.commit b = .ok c') :
    ∃ window, c' = ⟨b :: c.blocks, c.canonical ++ [b.hash], window,
      if b.finalize then b.number else c.finalized⟩ := by
  unfold commit at h
  split at h
  · cases h
  · exact ⟨_, (Except.ok.inj h).symm⟩

theorem Final.le_head (h : c.Final hashes) : c.finalized ≤ c.head := by
  obtain ⟨b, hb, hnumber, -⟩ := h.attained
  exact hnumber ▸ h.low b hb

namespace Advance

theorem head_le (h : Advance c c' new) : c.head ≤ c'.head := by
  cases h with
  | same => exact Nat.le_refl _
  | committed b window next =>
    simp only [head, List.length_append, List.length_singleton]
    omega
  | finalized b stored => exact Nat.le_refl _

theorem finalized_le (h : Advance c c' new) (hfinal : c.Final hashes) :
    c.finalized ≤ c'.finalized := by
  have hhead := hfinal.le_head
  cases h with
  | same => exact Nat.le_refl _
  | committed b window next =>
    simp only [head] at hhead
    simp only
    split <;> omega
  | finalized b stored => exact Nat.le_max_left _ _

theorem final (h : Advance c c' new) (hfinal : c.Final hashes) : c'.Final (hashes ++ new) := by
  have hhead := h.head_le
  have hle := h.finalized_le hfinal
  obtain ⟨hlow, hsealed, hnamed, top, htop, hnumber, hcause⟩ := hfinal
  cases h with
  | same => exact ⟨hlow, hsealed, by simpa using hnamed, top, htop, hnumber, by simpa using hcause⟩
  | committed b window next =>
    constructor
    · intro x hx
      rcases List.mem_cons.mp hx with rfl | hx
      · simp only [head, List.length_append, List.length_singleton]
        omega
      · exact Nat.le_trans (hlow x hx) hhead
    · intro x hx hfinal
      rcases List.mem_cons.mp hx with rfl | hx
      · simp only [hfinal, if_true, Nat.le_refl]
      · exact Nat.le_trans (hsealed x hx hfinal) hle
    · intro hash hhash
      obtain ⟨x, hx, hxhash, hxle⟩ := hnamed hash (by simpa using hhash)
      exact ⟨x, List.mem_cons_of_mem _ hx, hxhash, Nat.le_trans hxle hle⟩
    · cases hb : b.finalize with
      | true => exact ⟨b, List.mem_cons_self, by simp, .inl hb⟩
      | false =>
        exact ⟨top, List.mem_cons_of_mem _ htop, by simp [hnumber], by simpa using hcause⟩
  | finalized b stored =>
    constructor
    · exact hlow
    · exact fun x hx hfinal => Nat.le_trans (hsealed x hx hfinal) hle
    · intro hash hhash
      rcases List.mem_append.mp hhash with hhash | hhash
      · obtain ⟨x, hx, hxhash, hxle⟩ := hnamed hash hhash
        exact ⟨x, hx, hxhash, Nat.le_trans hxle hle⟩
      · exact ⟨b, stored, (List.mem_singleton.mp hhash).symm, Nat.le_max_right _ _⟩
    · rcases Nat.le_total b.number c.finalized with hb | hb
      · refine ⟨top, htop, ?_, hcause.imp_right (List.mem_append_left _)⟩
        simp only [hnumber, Nat.max_eq_left hb]
      · exact ⟨b, stored, (Nat.max_eq_right hb).symm, .inr (by simp)⟩

end Advance

/-- What the caller of a finalization is told. -/
def verdict (c : CommittedChain) (hash : Hash) : Except ChainError Unit :=
  (c.finalize hash).map fun _ => ()

theorem verdict_ok_iff {hash : Hash} :
    c.verdict hash = .ok () ↔ ∃ b ∈ c.blocks, b.hash = hash := by
  unfold verdict
  cases hf : c.finalize hash with
  | ok finalized =>
    obtain ⟨b, hb, hhash, -⟩ := finalize_ok hf
    exact ⟨fun _ => ⟨b, hb, hhash⟩, fun _ => rfl⟩
  | error e =>
    obtain ⟨-, hnone⟩ := finalize_error hf
    refine ⟨nofun, ?_⟩
    rintro ⟨b, hb, hhash⟩
    exact absurd hhash (hnone b hb)

theorem verdict_cases (c : CommittedChain) (hash : Hash) :
    c.verdict hash = .ok () ∨ c.verdict hash = .error (.unknownBlock hash) := by
  unfold verdict
  cases hf : c.finalize hash with
  | ok finalized => exact .inl rfl
  | error e =>
    obtain ⟨rfl, -⟩ := finalize_error hf
    exact .inr rfl

theorem answers_finalize (c : CommittedChain) (hash : Hash) (ticket : Nat) :
    (c.perform (.finalize hash ticket)).2 = [⟨ticket, c.verdict hash⟩] := by
  simp only [perform, verdict]
  cases c.finalize hash <;> rfl

theorem result_verdicts {ops : List CommitOp} {answer : TicketAnswer} (h : answer ∈ c.verdicts ops) :
    answer.result ≠ .error .stopped := by
  induction ops generalizing c with
  | nil => cases h
  | cons op ops ih =>
    rcases List.mem_append.mp h with h | h
    · cases op with
      | commit block => cases h
      | finalize hash ticket =>
        rw [answers_finalize, List.mem_singleton] at h
        subst h
        rcases c.verdict_cases hash with hv | hv <;> simp [hv]
    · exact ih h

theorem verdict_of_mem {before after : List CommitOp} {hash : Hash} {ticket : Nat}
    (hbefore : ticket ∉ before.filterMap CommitOp.ticket?)
    (hafter : ticket ∉ after.filterMap CommitOp.ticket?) {result : Except ChainError Unit}
    (h : ⟨ticket, result⟩ ∈ c.verdicts (before ++ .finalize hash ticket :: after)) :
    result = (c.replay before).verdict hash := by
  have hothers : ∀ {c : CommittedChain} {ops : List CommitOp},
      ⟨ticket, result⟩ ∈ c.verdicts ops → ticket ∈ ops.filterMap CommitOp.ticket? := by
    intro c ops hmem
    rw [← c.tickets_verdicts]
    exact List.mem_map_of_mem hmem
  rw [verdicts_append, verdicts, answers_finalize, List.mem_append, List.mem_append,
    List.mem_singleton] at h
  rcases h with h | h | h
  · exact absurd (hothers h) hbefore
  · exact (TicketAnswer.mk.inj h).2
  · exact absurd (hothers h) hafter

end CommittedChain

namespace Chain

/-- The hashes whose finalizations an event applies with success. -/
def finalizedBy (c : Chain) : Event → List Hash
  | .apply => match c.inHand, c.apply.2 with
    | some (.finalize hash _), [⟨_, .ok ()⟩] => [hash]
    | _, _ => []
  | .create _ | .submit _ | .finalize .. | .take | .stop => []

def finalizations (c : Chain) : List Event → List Hash
  | [] => []
  | e :: es => c.finalizedBy e ++ (c.step e).finalizations es

variable {config : ChainConfig} {c : Chain} {done rest : List SealedBlock}

theorem finalizations_concat (c : Chain) (es : List Event) (e : Event) :
    c.finalizations (es ++ [e]) = c.finalizations es ++ (c.run es).finalizedBy e := by
  induction es generalizing c with
  | nil => simp [finalizations]
  | cons x es ih =>
    simp only [List.cons_append, finalizations, ih, List.append_assoc]
    rfl

theorem step_committed {e : Event} (he : e ≠ .apply) :
    (c.step e).committed = c.committed ∧ c.finalizedBy e = [] := by
  cases e with
  | create command =>
    rcases c.create_cases command with ⟨e, he⟩ | ⟨-, he⟩ <;>
      exact ⟨congrArg (·.1.committed) he, rfl⟩
  | submit raw =>
    rcases c.submit_cases raw with ⟨e, he⟩ | ⟨e, he⟩ | ⟨-, he⟩ | ⟨-, -, he⟩ <;>
      exact ⟨congrArg (·.1.committed) he, rfl⟩
  | finalize hash ticket =>
    simp only [step, finalize?, send?]
    split <;> exact ⟨rfl, rfl⟩
  | take =>
    simp only [step, take]
    split <;> exact ⟨rfl, rfl⟩
  | apply => exact absurd rfl he
  | stop => exact ⟨rfl, rfl⟩

theorem Consistent.step_advance (h : Consistent config c done rest) (e : Event) :
    c.committed.Advance (c.step e).committed (c.finalizedBy e) := by
  by_cases he : e = .apply
  · subst he
    simp only [step, finalizedBy]
    cases hi : c.inHand with
    | none =>
      simp only [apply, hi]
      exact .same
    | some op =>
      cases op with
      | commit block =>
        obtain ⟨rest', committed, hrest, hok, -⟩ := h.commit hi
        obtain ⟨window, rfl⟩ := CommittedChain.commit_ok hok
        have hnumber := (h.linked done.length block (by simp [hrest])).1
        simp only [apply, hi, hok]
        refine .committed block window ?_
        rw [h.canonical, length_hashesOn, hnumber]
      | finalize hash ticket =>
        cases hf : c.committed.finalize hash with
        | error e =>
          simp only [apply, hi, hf]
          exact .same
        | ok committed =>
          obtain ⟨b, hb, rfl, rfl⟩ := CommittedChain.finalize_ok hf
          simp only [apply, hi, hf]
          exact .finalized b hb
  · obtain ⟨hsame, hnone⟩ := step_committed (c := c) he
    rw [hsame, hnone]
    exact .same

theorem final_run (config : ChainConfig) (es : List Event) :
    ((start config).run es).committed.Final ((start config).finalizations es) := by
  induction es using List.reverseRecOn with
  | nil =>
    have hgenesis := List.mem_singleton_self (SealedBlock.genesis config.chainId)
    exact ⟨by simp [start, CommittedChain.start, CommittedChain.head, SealedBlock.genesis],
      by simp [start, CommittedChain.start, SealedBlock.genesis], by simp [finalizations],
      _, hgenesis, rfl, .inl rfl⟩
  | append_singleton es e ih =>
    obtain ⟨done, rest, -, h⟩ := consistent_run config es
    rw [run_concat, finalizations_concat]
    exact (h.step_advance e).final ih

theorem finalized_mono (config : ChainConfig) (es fs : List Event) :
    ((start config).run es).committed.finalized ≤
      ((start config).run (es ++ fs)).committed.finalized := by
  induction fs using List.reverseRecOn with
  | nil => simp
  | append_singleton fs e ih =>
    obtain ⟨done, rest, -, h⟩ := consistent_run config (es ++ fs)
    rw [← List.append_assoc, run_concat]
    exact Nat.le_trans ih ((h.step_advance e).finalized_le (final_run config (es ++ fs)))

theorem turns_quiet {turns : List Event} (h : ∀ e ∈ turns, e = .take ∨ e = .apply)
    (hlive : (c.run turns).accepting = true) : c.log turns = [] ∧ c.history turns = [] := by
  induction turns generalizing c with
  | nil => exact ⟨rfl, rfl⟩
  | cons e turns ih =>
    obtain ⟨hlog, hhistory⟩ := ih (fun x hx => h x (List.mem_cons_of_mem _ hx)) hlive
    have hstep : (c.step e).accepting = true := accepting_of_run hlive
    rcases h e List.mem_cons_self with rfl | rfl
    · have hqueued : c.queuedBy .take = [] := by
        simp only [queuedBy, step, take]
        split
        · rename_i op rest hi hq
          exact List.drop_eq_nil_of_le (by simp [hq])
        · exact List.drop_length
      exact ⟨by rw [log, hqueued, hlog, List.append_nil], by rw [history, hhistory]; rfl⟩
    · have hqueued : c.queuedBy .apply = [] := by
        obtain ⟨-, -, hqueue⟩ := c.apply_frame
        simp only [queuedBy, step, hqueue hstep, List.drop_length]
      exact ⟨by rw [log, hqueued, hlog, List.append_nil], by rw [history, hhistory]; rfl⟩

/-- Once all that was queued is applied, every block that was sealed is stored. -/
theorem blocks_replay_log (config : ChainConfig) (es : List Event)
    (hlive : ((start config).run es).accepting = true) :
    ((start config).committed.replay ((start config).log es)).blocks =
      ((start config).history es).reverse ++ [SealedBlock.genesis config.chainId] := by
  obtain ⟨done, rest, -, h⟩ := consistent_run config es
  obtain ⟨turns, hturns, hlive', hdrained⟩ := h.drain hlive
  rw [← run_append] at hlive' hdrained
  obtain ⟨hlog, hhistory⟩ := turns_quiet hturns (by rwa [← run_append])
  obtain ⟨performed, hperformed, hcommitted, -⟩ := replayed_run config (es ++ turns) hlive'
  obtain ⟨done', rest', hblocks, h'⟩ := consistent_run config (es ++ turns)
  have hrest : rest' = [] := by
    rw [← h'.waiting hlive', waiting, hdrained.1, hdrained.2]
    rfl
  rw [log_append, hlog, List.append_nil, hdrained.backlog, List.append_nil] at hperformed
  rw [history_append, hhistory, List.append_nil, hrest, List.append_nil] at hblocks
  rw [hperformed, ← hcommitted, h'.blocks, hblocks]

theorem answered_finalize (config : ChainConfig) (es fs : List Event) {hash : Hash} {ticket : Nat}
    (hfresh : ∀ e ∈ es ++ fs, e.ticket? ≠ some ticket) {result : Except ChainError Unit}
    (h : ⟨ticket, result⟩ ∈ ((start config).run es).answered (.finalize hash ticket :: fs))
    (hkept : result ≠ .error .stopped) :
    ((start config).run es).accepting = true ∧
      result = ((start config).committed.replay ((start config).log es)).verdict hash := by
  obtain ⟨live, hprefix, hlive, hmem⟩ := answered_live config es _ h hkept
  cases live with
  | nil => cases hmem
  | cons e live =>
    obtain ⟨rfl, hlater⟩ := List.cons_prefix_cons.mp hprefix
    have hnone : ∀ xs : List Event, (∀ x ∈ xs, x ∈ es ++ fs) →
        ticket ∉ xs.filterMap Event.ticket? := by
      intro xs hxs hin
      obtain ⟨x, hx, hticket⟩ := List.mem_filterMap.mp hin
      exact hfresh x (hxs x hx) hticket
    have hrun := hlive
    rw [run_append] at hrun
    have ha : ((start config).run es).accepting = true := accepting_of_run hrun
    obtain ⟨performed, hlog, -, hanswered⟩ := replayed_run config _ hlive
    have hqueued : ((start config).run es).queuedBy (.finalize hash ticket) =
        [.finalize hash ticket] := by
      simp only [queuedBy, step, finalize?, send?_of_accepting ha, Option.getD_some,
        List.drop_left]
    rw [log_append, log, hqueued] at hlog
    have hverdict : ⟨ticket, result⟩ ∈ (start config).committed.verdicts
        ((start config).log es ++ .finalize hash ticket ::
          (((start config).run es).step (.finalize hash ticket)).log live) := by
      refine (CommittedChain.verdicts_prefix _ ⟨_, hlog.symm⟩).subset ?_
      rw [← hanswered, answered_append]
      exact List.mem_append_right _ hmem
    refine ⟨ha, CommittedChain.verdict_of_mem ?_ ?_ hverdict⟩
    · rw [tickets_log es ha]
      exact hnone es fun x hx => List.mem_append_left _ hx
    · rw [tickets_log live hrun]
      exact hnone live fun x hx => List.mem_append_right _ (hlater.subset hx)

/-- The finalized height is the highest of the blocks that were sealed as final or finalized by
their hash, and a finalization is granted exactly if its block was sealed before it was called for.
No two of the preimages that occur have one hash. -/
theorem finalized_run (config : ChainConfig) (es fs : List Event)
    (hfree : CollisionFree (preimages config.chainId ((start config).history es))) :
    let c := (start config).run es
    c.committed.finalized ≤ c.blockNumber ∧
    c.committed.finalized ≤ (c.run fs).committed.finalized ∧
    IsGreatest {n | n = 0 ∨ (∃ b ∈ c.committed.blocks, b.finalize = true ∧ b.number = n) ∨
      ∃ b ∈ byHeight config es, b.hash ∈ (start config).finalizations es ∧ b.number = n}
      c.committed.finalized ∧
    (∀ hash ticket, (∀ e ∈ es ++ fs, e.ticket? ≠ some ticket) →
      (∀ result, ⟨ticket, result⟩ ∈ c.answered (.finalize hash ticket :: fs) →
        result ≠ .error .stopped →
        (result = .ok () ↔ ∃ b ∈ byHeight config es, b.hash = hash) ∧
        (result = .ok () ∨ result = .error (.unknownBlock hash))) ∧
      ((c.run (.finalize hash ticket :: fs)).accepting = true →
        (c.run (.finalize hash ticket :: fs)).Drained →
        ∃ result, ⟨ticket, result⟩ ∈ c.answered (.finalize hash ticket :: fs) ∧
          result ≠ .error .stopped)) ∧
    ∀ hash ticket e, c.inHand = some (.finalize hash ticket) → ⟨ticket, .error e⟩ ∈ c.apply.2 →
      e = .unknownBlock hash ∧ c.apply.1 = { c with inHand := none } := by
  intro c
  obtain ⟨done, rest, hblocks, h⟩ := consistent_run config es
  have hfinal := final_run config es
  have hstored : ∀ b, b ∈ c.committed.blocks → b ∈ byHeight config es := by
    intro b hb
    rw [byHeight, hblocks, ← List.cons_append]
    exact List.mem_append_left rest (h.mem_blocks.mp hb)
  refine ⟨hfinal.le_head, ?_, ⟨?_, ?_⟩, ?_, ?_⟩
  · have hmono := finalized_mono config es fs
    rwa [run_append] at hmono
  · obtain ⟨b, hb, hnumber, hcause⟩ := hfinal.attained
    rcases hcause with hsealed | hnamed
    · exact .inr (.inl ⟨b, hb, hsealed, hnumber⟩)
    · exact .inr (.inr ⟨b, hstored b hb, hnamed, hnumber⟩)
  · rintro n (rfl | ⟨b, hb, hsealed, rfl⟩ | ⟨b, hb, hnamed, rfl⟩)
    · exact Nat.zero_le _
    · exact hfinal.sealed b hb hsealed
    · obtain ⟨x, hx, hhash, hle⟩ := hfinal.named b.hash hnamed
      rwa [List.inj_on_of_nodup_map (nodup_byHeight hfree) (hstored x hx) hb hhash] at hle
  · intro hash ticket hfresh
    constructor
    · intro result hanswer hkept
      obtain ⟨ha, rfl⟩ := answered_finalize config es fs hfresh hanswer hkept
      refine ⟨?_, CommittedChain.verdict_cases _ hash⟩
      have hsame : ∀ b, b ∈ ((start config).history es).reverse ++
          [SealedBlock.genesis config.chainId] ↔ b ∈ byHeight config es := by
        intro b
        simp [byHeight, or_comm]
      rw [CommittedChain.verdict_ok_iff, blocks_replay_log config es ha]
      simp only [hsame]
    · intro hlive hdrained
      obtain ⟨result, hanswer⟩ :=
        h.answers_finalize (accepting_of_run hlive) hash ticket hlive hdrained
      have hmem : ⟨ticket, result⟩ ∈ c.answered (.finalize hash ticket :: fs) :=
        List.mem_append_right _ hanswer
      obtain ⟨performed, -, -, hanswered⟩ := replayed_run config
        (es ++ .finalize hash ticket :: fs) (by rwa [run_append])
      rw [answered_append] at hanswered
      have hverdict := hanswered ▸ List.mem_append_right ((start config).answered es) hmem
      exact ⟨result, hmem, CommittedChain.result_verdicts hverdict⟩
  · intro hash ticket e hi hanswer
    cases hf : c.committed.finalize hash with
    | ok committed => simp [apply, hi, hf] at hanswer
    | error e' =>
      simp only [apply, hi, hf, List.mem_singleton, TicketAnswer.mk.injEq, true_and,
        Except.error.injEq] at hanswer ⊢
      obtain ⟨rfl, -⟩ := CommittedChain.finalize_error hf
      exact ⟨hanswer, trivial⟩

theorem collisionFree_first : CollisionFree (preimages 42 [(start {}).nextBlock false]) :=
  .pair (by decide +kernel)

/-- A block is finalized before it is committed: the finalization waits behind it. -/
theorem finalized_waiting :
    let block := (start {}).nextBlock false
    let c := (start {}).run [.create ⟨true, false, none⟩]
    c.committed.blocks = [.genesis 42] ∧
      ∃ turns, ⟨7, .ok ()⟩ ∈ c.answered (.finalize block.hash 7 :: turns) := by
  intro block c
  refine ⟨rfl, ?_⟩
  have hfree : CollisionFree (preimages 42 ((start {}).history [.create ⟨true, false, none⟩])) :=
    collisionFree_first
  obtain ⟨done, rest, -, h⟩ :=
    consistent_run {} [.create ⟨true, false, none⟩, .finalize block.hash 7]
  obtain ⟨turns, hturns, hlive, hdrained⟩ := h.drain rfl
  have hfresh : ∀ e ∈ [.create ⟨true, false, none⟩] ++ turns, e.ticket? ≠ some 7 := by
    intro e he
    rcases List.mem_cons.mp he with rfl | he
    · exact nofun
    · rcases hturns e he with rfl | rfl <;> exact nofun
  obtain ⟨-, -, -, hcalls, -⟩ := finalized_run {} [.create ⟨true, false, none⟩] turns hfree
  obtain ⟨hjudged, hanswers⟩ := hcalls block.hash 7 hfresh
  obtain ⟨result, hanswer, hkept⟩ := hanswers hlive hdrained
  have hsealed : block ∈ byHeight {} [.create ⟨true, false, none⟩] :=
    List.mem_cons_of_mem _ List.mem_cons_self
  have hgranted := (hjudged result hanswer hkept).1.mpr ⟨block, hsealed, rfl⟩
  exact ⟨turns, hgranted ▸ hanswer⟩

end Chain

end SealedChain
