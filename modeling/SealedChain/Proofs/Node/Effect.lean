import SealedChain.Proofs.Chain.Conservation
import SealedChain.Proofs.Chain.Refusal
import SealedChain.Proofs.Node.Reply

/-!
# What requests leave behind

A request that is answered with an error leaves the chain as it would be without it, and so does a
query. All checks come before the first change, but for a finalization, which is judged in the queue
and leaves it without a trace when it is refused. What a request does that succeeds is one thing: a
block more is sealed, or a transaction more is on its way.
-/
namespace SealedChain

namespace Chain

/-- The transactions on their way: those of the blocks that wait to be committed, then the pool. -/
def underway (c : Chain) : List Hash :=
  c.waiting.flatMap (·.transactions) ++ c.sealer.pool

theorem waiting_enqueue (c : Chain) (block : SealedBlock) :
    (c.enqueue block).waiting = c.waiting ++ [block] := by
  simp [waiting, enqueue, CommitOp.block?]

theorem underway_pooled (c : Chain) (hash : Hash) :
    (c.pooled hash).underway = c.underway ++ [hash] :=
  (List.append_assoc _ _ _).symm

/-- Sealing takes the pool into a block, and with it nothing gets lost. -/
theorem underway_sealed (c : Chain) (finalize : Bool) :
    (c.enqueue (c.nextBlock finalize)).underway = c.underway := by
  rw [underway, waiting_enqueue, List.flatMap_append]
  simp [underway, enqueue, nextBlock, SealedBlock.onParent]

end Chain

namespace Node

def IsError (text : String) : Prop := ∃ id code message, text = errorText id code message

def IsResult (text : String) : Prop := ∃ id result, text = successText id result

/-- The body is a request that passes and names the method. -/
def Calls (body : ByteArray) (m : Rpc.Method) : Prop := ∃ e, Holds body e ∧ e.method = m.name

def queries : List Rpc.Method :=
  [.blockNumber, .chainId, .netVersion, .getBlockByNumber, .getBlockByHash, .call]

theorem toList_errorText (id : Json) (code : Rpc.ErrorCode) (message : String) :
    ∃ rest, (errorText id code message).toList = '{' :: '"' :: 'e' :: rest := by
  rw [errorText, Json.render, String.toList_ofList]
  exact ⟨_, rfl⟩

theorem toList_successText (id result : Json) :
    ∃ rest, (successText id result).toList = '{' :: '"' :: 'i' :: rest := by
  rw [successText, Json.render, String.toList_ofList]
  exact ⟨_, rfl⟩

theorem IsError.not_isResult {text : String} (h : IsError text) : ¬ IsResult text := by
  rintro ⟨id', result, hresult⟩
  obtain ⟨id, code, message, rfl⟩ := h
  obtain ⟨rest, hleft⟩ := toList_errorText id code message
  obtain ⟨rest', hright⟩ := toList_successText id' result
  rw [hresult, hright] at hleft
  simp at hleft

variable {c : Chain} {ticket : Nat} {body : ByteArray} {es : List Chain.Event}
  {verdict : Except ChainError Unit}

theorem Calls.unique {m m' : Rpc.Method} (h : Calls body m) (h' : Calls body m') : m = m' := by
  obtain ⟨e, ⟨-, v, hparse, hvalid⟩, hname⟩ := h
  obtain ⟨e', ⟨-, v', hparse', hvalid'⟩, hname'⟩ := h'
  rw [hparse, Option.some.injEq] at hparse'
  rw [← hparse', hvalid, Except.ok.injEq] at hvalid'
  have hsame := congrArg Rpc.Method.ofName? (hname.symm.trans (hvalid' ▸ hname'))
  rw [Rpc.Method.ofName?_name, Rpc.Method.ofName?_name] at hsame
  exact Option.some.inj hsame

theorem Gives.eq_of_answered {text text' : String} (h : Gives c ticket body es verdict text')
    (hnow : (respond c ticket body).2 = .answered text) : text' = text := by
  cases h with
  | atOnce _ now =>
    rw [now] at hnow
    exact Outcome.answered.inj hnow
  | afterwards id awaiting =>
    rw [awaiting] at hnow
    cases hnow

def createdText (id : Json) (block : SealedBlock) : String :=
  successText id (CreatedBlock.toJson ⟨block.hash, { isNewBest := true }⟩).sorted

/-- What a body does to a chain with a committer, and how it is answered. -/
inductive Effect (c : Chain) (ticket : Nat) (body : ByteArray) : Chain × Outcome → Prop
  | refused (text : String) (error : IsError text) : Effect c ticket body (c, .answered text)
  | asked (m : Rpc.Method) (calls : Calls body m) (query : m ∈ queries) (text : String) :
      Effect c ticket body (c, .answered text)
  | created (calls : Calls body .createBlock) (finalize : Bool) (id : Json) :
      Effect c ticket body
        (c.enqueue (c.nextBlock finalize), .answered (createdText id (c.nextBlock finalize)))
  | submitted (calls : Calls body .sendRawTransaction) (c' : Chain) (hash : Hash) (id : Json)
      (added : c' = c.pooled hash ∨ c' = (c.pooled hash).enqueue ((c.pooled hash).nextBlock true)) :
      Effect c ticket body (c', .answered (successText id (.ofWord hash)))
  | queued (calls : Calls body .finalizeBlock) (hash : Hash) (id : Json) :
      Effect c ticket body (c.step (.finalize hash ticket), .awaiting id)

theorem effect_serve (hlive : c.accepting = true) {e : Envelope} {m : Rpc.Method} {d : Demand}
    (hcalls : Calls body m) (hasks : Asks m e.args d) (id : Json) :
    Effect c ticket body (serve c ticket id d) := by
  generalize e.args = args at hasks
  cases hasks with
  | createBlock createEmpty finalize rest parent =>
    rcases c.create_cases ⟨createEmpty, finalize, parent⟩ with ⟨e, he⟩ | ⟨-, he⟩
    · simp only [serve, he]
      exact .refused _ ⟨_, _, _, rfl⟩
    · simp only [serve, he]
      exact .created hcalls finalize id
  | sendRawTransaction v raw =>
    rcases Chain.submit_accepting hlive raw with ⟨e, he⟩ | ⟨-, he⟩ | ⟨-, he⟩
    · simp only [serve, he]
      exact .refused _ ⟨_, _, _, rfl⟩
    · simp only [serve, he]
      exact .submitted hcalls _ _ id (.inl rfl)
    · simp only [serve, he]
      exact .submitted hcalls _ _ id (.inr rfl)
  | finalizeBlock v hash rest =>
    have hqueued : Effect c ticket body (c.step (.finalize hash ticket), .awaiting id) :=
      .queued hcalls hash id
    simpa only [serve, Chain.step, Chain.finalize?, Chain.send?_of_accepting hlive,
      Option.getD_some] using hqueued
  | blockNumber | chainId | netVersion | getBlockByNumber | getBlockByHash | call =>
    exact .asked _ hcalls (by decide) _

theorem effect_respond (hlive : c.accepting = true) (ticket : Nat) (body : ByteArray) :
    Effect c ticket body (respond c ticket body) := by
  have hreads := reads_reading body
  rw [respond_eq]
  cases hreading : reading body with
  | error refusal => exact .refused _ ⟨_, _, _, rfl⟩
  | ok d =>
    rw [hreading] at hreads
    cases hreads with
    | demands e m d hholds hknown hasks =>
      exact effect_serve hlive ⟨e, hholds, hknown.symm⟩ hasks _

theorem effect_none (hlive : c.accepting = true)
    (h : (∀ verdict text, Gives c ticket body es verdict text → IsError text) ∨
      ∃ m ∈ queries, Calls body m) :
    ((respond c ticket body).1 = c ∨ Calls body .finalizeBlock) ∧
      ∃ fs, Chain.FewerTurns es fs ∧
        Chain.SameEffect ((respond c ticket body).1.run es) (c.run fs) := by
  have heffect := effect_respond hlive ticket body
  generalize hp : respond c ticket body = p at heffect
  have hnone : ∀ {id result m}, p.2 = .answered (successText id result) → Calls body m →
      m ∉ queries → False := by
    intro id result m hnow hcalls hm
    rcases h with herror | ⟨m', hm', hcalls'⟩
    · exact (herror (.ok ()) _ (.atOnce _ (hp ▸ hnow))).not_isResult ⟨id, result, rfl⟩
    · exact hm (hcalls.unique hcalls' ▸ hm')
  cases heffect with
  | refused | asked => exact ⟨.inl rfl, es, .refl es, .refl _⟩
  | created hcalls => exact (hnone rfl hcalls (by decide)).elim
  | submitted hcalls => exact (hnone rfl hcalls (by decide)).elim
  | queued hcalls hash id =>
    refine ⟨.inr hcalls, Chain.refused_finalize hlive hash ticket es fun hgranted => ?_⟩
    -- it would be answered with a result then, and it is no query
    rcases h with herror | ⟨m, hm, hcalls'⟩
    · refine (herror (.ok ()) _ (.afterwards id (by rw [hp]) (by rwa [hp]))).not_isResult ?_
      exact ⟨id, _, rfl⟩
    · obtain rfl := hcalls.unique hcalls'
      exact absurd hm (by decide)

/-- A request that is answered with a result, and does not only ask, has done what it asks for. -/
theorem effect_granted (hlive : c.accepting = true) {m : Rpc.Method} (hcalls : Calls body m)
    (hm : m ∉ queries) {text : String} (hgives : Gives c ticket body es verdict text)
    (hresult : IsResult text) :
    (m = .createBlock ∧ ∃ finalize id,
      (respond c ticket body).1 = c.enqueue (c.nextBlock finalize) ∧
        text = createdText id (c.nextBlock finalize)) ∨
    (m = .sendRawTransaction ∧ ∃ hash id,
      ((respond c ticket body).1 = c.pooled hash ∨
        (respond c ticket body).1 = (c.pooled hash).enqueue ((c.pooled hash).nextBlock true)) ∧
        text = successText id (.ofWord hash)) ∨
    m = .finalizeBlock := by
  have heffect := effect_respond hlive ticket body
  generalize hp : respond c ticket body = p at heffect
  have hnow := congrArg Prod.snd hp
  cases heffect with
  | refused text' herror =>
    rw [← hgives.eq_of_answered hnow] at herror
    exact absurd hresult herror.not_isResult
  | asked m' hcalls' hm' => exact absurd (hcalls.unique hcalls' ▸ hm') hm
  | created hcalls' finalize id =>
    exact .inl ⟨hcalls.unique hcalls', finalize, id, rfl, hgives.eq_of_answered hnow⟩
  | submitted hcalls' c' hash id hadded =>
    exact .inr (.inl ⟨hcalls.unique hcalls', hash, id, hadded, hgives.eq_of_answered hnow⟩)
  | queued hcalls' => exact .inr (.inr (hcalls.unique hcalls'))

/-- If every answer that a body is given is an error, or if it only asks, then what happens after it
has the effect that it would have without it. A creation that succeeds seals one block, and a
submission that succeeds adds one transaction. -/
theorem effects_respond (c : Chain) (hlive : c.accepting = true) (ticket : Nat)
    (body : ByteArray) :
    let c' := (respond c ticket body).1
    (∀ es, (∀ verdict text, Gives c ticket body es verdict text → IsError text) ∨
        (∃ m ∈ queries, Calls body m) →
      (c' = c ∨ Calls body .finalizeBlock) ∧
      ∃ fs, Chain.FewerTurns es fs ∧ Chain.SameEffect (c'.run es) (c.run fs)) ∧
    (Calls body .createBlock → ∀ es verdict text, Gives c ticket body es verdict text →
      IsResult text → ∃ finalize id, text = createdText id (c.nextBlock finalize) ∧
        c' = c.enqueue (c.nextBlock finalize) ∧ c'.waiting = c.waiting ++ [c.nextBlock finalize] ∧
        c'.underway = c.underway) ∧
    (Calls body .sendRawTransaction → ∀ es verdict text, Gives c ticket body es verdict text →
      IsResult text → ∃ hash id, text = successText id (.ofWord hash) ∧
        (c' = c.pooled hash ∨ c' = (c.pooled hash).enqueue ((c.pooled hash).nextBlock true)) ∧
        c'.underway = c.underway ++ [hash]) := by
  intro c'
  refine ⟨fun es h => effect_none hlive h, ?_, ?_⟩
  · intro hcalls es verdict text hgives hresult
    rcases effect_granted hlive hcalls (by decide) hgives hresult with
      ⟨-, finalize, id, hsealed, htext⟩ | ⟨hm, -⟩ | hm
    · have hc' : c' = c.enqueue (c.nextBlock finalize) := hsealed
      exact ⟨finalize, id, htext, hc', by rw [hc', c.waiting_enqueue], by rw [hc', c.underway_sealed]⟩
    · cases hm
    · cases hm
  · intro hcalls es verdict text hgives hresult
    rcases effect_granted hlive hcalls (by decide) hgives hresult with
      ⟨hm, -⟩ | ⟨-, hash, id, hadded, htext⟩ | hm
    · cases hm
    · have hc' : c' = c.pooled hash ∨
          c' = (c.pooled hash).enqueue ((c.pooled hash).nextBlock true) := hadded
      refine ⟨hash, id, htext, hc', ?_⟩
      rcases hc' with hc' | hc'
      · rw [hc', c.underway_pooled]
      · rw [hc', Chain.underway_sealed, c.underway_pooled]
    · cases hm

theorem effects_unknown_block :
    let body := (Rpc.Request.new 1 "engine_finalizeBlock" [.ofWord sentinelHash]).frame.toUTF8
    let c := Chain.start {}
    (respond c 0 body).1 = c.step (.finalize sentinelHash 0) ∧
      ∃ fs, Chain.FewerTurns [.take, .apply] fs ∧
        Chain.SameEffect ((respond c 0 body).1.run [.take, .apply]) (c.run fs) := by
  intro body c
  have hsize : body.size ≤ maxBodySize := by decide +kernel
  have hrespond : respond c 0 body = (c.step (.finalize sentinelHash 0), .awaiting (.nat 1)) := by
    rw [respond_frame c 0 (by decide) (by decide) rfl hsize]
    rfl
  have hunknown : c.committed.finalize sentinelHash = .error (.unknownBlock sentinelHash) := by
    have hother : ((SealedBlock.genesis 42).hash == sentinelHash) = false := by decide +kernel
    simp [c, CommittedChain.finalize, CommittedChain.blockByHash?, Chain.start,
      CommittedChain.start, hother]
  have hanswered : (c.step (.finalize sentinelHash 0)).answered [.take, .apply] =
      [⟨0, .error (.unknownBlock sentinelHash)⟩] := by
    rw [Chain.answered_next rfl ⟨rfl, rfl⟩, CommittedChain.perform, hunknown]
  have herror : ∀ verdict text, Gives c 0 body [.take, .apply] verdict text → IsError text := by
    intro verdict text hgives
    cases hgives with
    | atOnce _ now =>
      rw [hrespond] at now
      cases now
    | afterwards id _ answered =>
      rw [hrespond, hanswered, List.mem_singleton] at answered
      obtain ⟨-, rfl⟩ := TicketAnswer.mk.inj answered
      exact ⟨id, _, _, rfl⟩
  obtain ⟨hnone, -⟩ := effects_respond c rfl 0 body
  exact ⟨congrArg Prod.fst hrespond, (hnone [.take, .apply] (.inl herror)).2⟩

end Node

end SealedChain
