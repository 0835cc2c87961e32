import SealedChain.Proofs.Block.Codec
import SealedChain.Proofs.Call.Carry
import SealedChain.Proofs.Chain.BlockHash
import SealedChain.Proofs.Node.Answer

/-!
# Calls and what they call

A typed call that is carried to a node gives what the chain itself gives for the same arguments, and
leaves the chain as the chain's own operation does. A failure of the chain arrives as an error with
its code and its wording.
-/
namespace SealedChain

def ChainError.asProtocol (method : String) (e : ChainError) : ClientError :=
  .protocol method (.new e.code e.message)

theorem Rpc.Method.name_ne_empty (m : Method) : m.name ≠ "" := by
  cases m <;> decide

namespace Node

theorem run_query {c : Chain} {e : Envelope} {m : Rpc.Method} {result : Json}
    (hmethod : e.method = m.name) (hquery : query? c e m = some (.ok result)) (ticket : Nat) :
    run c ticket e = (c, .answered (answerText e.id (.ok result))) := by
  unfold run
  rw [hmethod, Rpc.Method.ofName?_name]
  cases m with
  | createBlock | finalizeBlock | sendRawTransaction => simp [query?] at hquery
  | _ => simp only [hquery]

theorem optional?_recordOrNull {record : Option BlockRecord}
    (h : ∀ b ∈ record, b.number < limit64) :
    Json.optional? BlockRecord.ofJson? (recordOrNull record).sorted = some record := by
  cases record with
  | none => simp [recordOrNull, Json.sorted, Json.optional?]
  | some b =>
    have hobject : Json.optional? BlockRecord.ofJson? b.toJson.sorted =
        (BlockRecord.ofJson? b.toJson.sorted).map some := rfl
    rw [recordOrNull, Json.sorted_sorted, hobject, BlockRecord.ofJson?_sorted (h b rfl)]
    rfl

end Node

theorem Query.answer_blockByHash (id : Nat) {hash : Hash} {record : BlockRecord}
    (hnumber : record.number < limit64) :
    (Query.blockByHash hash).answer (Node.replyOf id (.ok (Node.recordOrNull (some record)))) =
      .ok (some record) := by
  have hrecord : ∀ b ∈ some record, b.number < limit64 := by
    rintro _ ⟨⟩
    exact hnumber
  have hdecode := Node.optional?_recordOrNull hrecord
  simp [Query.answer, Query.blockByHash, Query.request, Node.replyOf, Rpc.Reply.outcome,
    Rpc.Reply.payload, Rpc.Reply.success, hdecode, Except.mapError]

variable {client : Client} {c c' : Chain} {ticket : Nat}

theorem Query.ask_eq {α : Type} {q : Query α} (hready : client.Ready) (hmethod : q.method ≠ "")
    (hparams : Json.fitsItems q.params 125 = true) (hsize : q.Admissible client)
    {r : Except Node.MethodFault Json}
    (hrun : Node.run c ticket (Node.envelopeOf client.nextId q.method q.params) =
      (c', .answered (Node.answerText (.nat client.nextId) r)))
    (hr : ∀ result, r = .ok result → result.fits 126 = true) :
    q.ask client c ticket = (some (q.answer (Node.replyOf client.nextId r)), c') := by
  rw [Query.ask, carry_eq hready hmethod hparams hsize hrun hr]
  rfl

/-- A query that changes nothing is answered with its result as it is read. -/
theorem Query.ask_query {α : Type} {q : Query α} (m : Rpc.Method) (result : Json) {answer : α}
    (hready : client.Ready) (hmethod : q.method = m.name)
    (hparams : Json.fitsItems q.params 125 = true) (hsize : q.Admissible client)
    (hquery : Node.query? c (Node.envelopeOf client.nextId q.method q.params) m =
      some (.ok result))
    (hresult : result.fits 126 = true) (hdecode : q.decode result.sorted = .ok answer) :
    q.ask client c ticket = (some (.ok answer), c) := by
  have hne : q.method ≠ "" := hmethod ▸ m.name_ne_empty
  have hrun := Node.run_query hmethod hquery ticket
  rw [Query.ask_eq hready hne hparams hsize hrun (by rintro _ ⟨⟩; exact hresult)]
  simp [Query.answer, Node.replyOf, Rpc.Reply.outcome, Rpc.Reply.payload, Rpc.Reply.success,
    hdecode, Except.mapError]

theorem Query.fits_blockHashAt (height : Nat) :
    Json.fitsItems (Query.blockHashAt height).params 125 = true := by
  have hcall : (CallRequest.blockHash height).toJson.sorted.fits 125 = true := by
    refine Json.fits_sorted _ ?_
    simp [CallRequest.toJson, CallRequest.blockHash, CallRequest.members, Json.fits,
      Json.fitsMembers]
  simp [Query.blockHashAt, Json.fitsItems, hcall, BlockTag.toJson, Json.fits]

theorem Query.sorted_blockHashAt (height : Nat) :
    Json.sortedItems (Query.blockHashAt height).params = (Query.blockHashAt height).params := by
  simp only [Query.blockHashAt, BlockTag.toJson, Json.sortedItems, Json.sorted_sorted, Json.sorted]

namespace Node

variable (id : Nat)

theorem query?_blockByNumber {tag : BlockTag} (htag : tag.InRange) :
    query? c (envelopeOf id (Query.blockByNumber tag).method (Query.blockByNumber tag).params)
      .getBlockByNumber = some (.ok (recordOrNull (c.blockByNumber? tag))) := by
  have hsorted : Json.sortedItems (Query.blockByNumber tag).params =
      (Query.blockByNumber tag).params := by
    simp only [Query.blockByNumber, Query.request, BlockTag.toJson, Json.sortedItems, Json.sorted]
  have hfull : Json.bool? (.bool false) = some false := rfl
  rw [envelopeOf, hsorted]
  simp only [query?]
  rw [Envelope.atMost_eq (Nat.le_refl 2), Envelope.param_eq rfl (BlockTag.ofJson?_toJson htag),
    Envelope.optionalParam_eq rfl (by simp) hfull]
  rfl

theorem query?_blockByHash (hash : Hash) :
    query? c (envelopeOf id (Query.blockByHash hash).method (Query.blockByHash hash).params)
      .getBlockByHash = some (.ok (recordOrNull (c.blockByHash? hash))) := by
  have hsorted : Json.sortedItems (Query.blockByHash hash).params =
      (Query.blockByHash hash).params := by
    simp only [Query.blockByHash, Query.request, Json.sortedItems, Json.sorted, Json.sorted_ofWord]
  have hfull : Json.bool? (.bool false) = some false := rfl
  rw [envelopeOf, hsorted]
  simp only [query?]
  rw [Envelope.atMost_eq (Nat.le_refl 2), Envelope.param_eq rfl (Json.word?_ofWord hash),
    Envelope.optionalParam_eq rfl (by simp) hfull]
  rfl

theorem query?_blockHashAt {height : Nat} (hheight : height < limit64) :
    query? c (envelopeOf id (Query.blockHashAt height).method (Query.blockHashAt height).params)
      .call = some (.ok (.ofBytes (c.blockHash height).toBytes)) := by
  have htarget : (CallRequest.blockHash height).target = some historyContract := rfl
  have hcalldata : (CallRequest.blockHash height).calldata = some (historyCalldata height) := rfl
  have hlatest : BlockTag.ofJson? BlockTag.latest.toJson = some .latest :=
    BlockTag.ofJson?_toJson (by trivial)
  rw [envelopeOf, Query.sorted_blockHashAt]
  simp only [query?]
  rw [Envelope.atMost_eq (Nat.le_refl 2), Envelope.param_eq rfl (CallRequest.ofJson?_sorted height),
    Envelope.optionalParam_eq rfl (by simp [BlockTag.toJson]) hlatest]
  simp only [bind, Except.bind, htarget, hcalldata, Option.bind_some,
    historyHeight?_historyCalldata height hheight, hheight]
  rfl

end Node

theorem Query.ask_chainId (hready : client.Ready) (hsize : Query.chainId.Admissible client)
    (hchain : c.config.chainId < limit64) :
    Query.chainId.ask client c ticket = (some (.ok c.config.chainId), c) := by
  refine Query.ask_query .chainId (.ofQuantity c.config.chainId) hready rfl rfl hsize rfl
    (Json.fits_ofQuantity _ _) ?_
  simp [Query.chainId, Query.request, Json.quantity?_ofQuantity hchain]

theorem Query.ask_blockNumber (hready : client.Ready) (hsize : Query.blockNumber.Admissible client)
    (hnumber : c.blockNumber < limit64) :
    Query.blockNumber.ask client c ticket = (some (.ok c.blockNumber), c) := by
  refine Query.ask_query .blockNumber (.ofQuantity c.blockNumber) hready rfl rfl hsize rfl
    (Json.fits_ofQuantity _ _) ?_
  simp [Query.blockNumber, Query.request, Json.quantity?_ofQuantity hnumber]

theorem Query.ask_blockByNumber {tag : BlockTag} (hready : client.Ready)
    (hsize : (Query.blockByNumber tag).Admissible client) (htag : tag.InRange)
    (hnumber : ∀ b ∈ c.blockByNumber? tag, b.number < limit64) :
    (Query.blockByNumber tag).ask client c ticket = (some (.ok (c.blockByNumber? tag)), c) := by
  refine Query.ask_query .getBlockByNumber _ hready rfl ?_ hsize
    (Node.query?_blockByNumber client.nextId htag) (Node.fits_recordOrNull _) ?_
  · simp [Query.blockByNumber, Query.request, Json.fitsItems, BlockTag.toJson, Json.fits]
  · simp only [Query.blockByNumber, Query.request, Node.optional?_recordOrNull hnumber]

theorem Query.ask_blockByHash {hash : Hash} (hready : client.Ready)
    (hsize : (Query.blockByHash hash).Admissible client)
    (hnumber : ∀ b ∈ c.blockByHash? hash, b.number < limit64) :
    (Query.blockByHash hash).ask client c ticket = (some (.ok (c.blockByHash? hash)), c) := by
  refine Query.ask_query .getBlockByHash _ hready rfl ?_ hsize
    (Node.query?_blockByHash client.nextId hash) (Node.fits_recordOrNull _) ?_
  · simp [Query.blockByHash, Query.request, Json.fitsItems, Json.fits]
  · simp only [Query.blockByHash, Query.request, Node.optional?_recordOrNull hnumber]

theorem Query.ask_blockHashAt {height : Nat} (hready : client.Ready)
    (hsize : (Query.blockHashAt height).Admissible client) (hheight : height < limit64) :
    (Query.blockHashAt height).ask client c ticket = (some (.ok (c.blockHash height)), c) := by
  refine Query.ask_query .call _ hready rfl (Query.fits_blockHashAt height) hsize
    (Node.query?_blockHashAt client.nextId hheight) (Json.fits_ofBytes _ _) ?_
  simp [Query.blockHashAt, Word.ofBytes?_toBytes]

namespace Node

/-- The outcome of an operation of the chain as that of its method. -/
def chainResult {α : Type} (toJson : α → Json) (outcome : Except ChainError α) :
    Except MethodFault Json :=
  match outcome with
  | .ok x => .ok (toJson x)
  | .error e => .error (.chain e)

theorem run_sendRawTransaction (c : Chain) (ticket id : Nat) (raw : Bytes) :
    run c ticket (envelopeOf id Rpc.Method.sendRawTransaction.name [.ofBytes raw]) =
      ((c.submit raw).1,
        .answered (answerText (.nat id) (chainResult .ofWord (c.submit raw).2))) := by
  have htransaction : transactionOf (envelopeOf id Rpc.Method.sendRawTransaction.name
      [.ofBytes raw]) = .ok raw := by
    have hsorted : Json.sortedItems [Json.ofBytes raw] = [Json.ofBytes raw] := by
      simp only [Json.sortedItems, Json.sorted_ofBytes]
    rw [envelopeOf, hsorted, transactionOf, Envelope.atMost_eq (Nat.le_refl 1),
      Envelope.param_eq rfl (Json.bytes?_ofBytes raw)]
    rfl
  have hmethod : Rpc.Method.ofName? (envelopeOf id Rpc.Method.sendRawTransaction.name
      [.ofBytes raw]).method = some .sendRawTransaction :=
    Rpc.Method.ofName?_name .sendRawTransaction
  rw [run, hmethod]
  simp only [htransaction]
  obtain ⟨c', outcome⟩ := c.submit raw
  cases outcome <;> rfl

theorem run_createBlock (c : Chain) (ticket id : Nat) (command : BlockCommand) :
    run c ticket (envelopeOf id Rpc.Method.createBlock.name command.params) =
      ((c.create command).1,
        .answered (answerText (.nat id)
          (chainResult (·.toJson.sorted) (c.create command).2))) := by
  have hcommand : commandOf (envelopeOf id Rpc.Method.createBlock.name command.params) =
      .ok command := by
    have hsorted : Json.sortedItems command.params = command.params := by
      cases h : command.parent <;> simp [BlockCommand.params, Json.sortedItems, Json.sorted, h]
    simp only [commandOf, Envelope.args, envelopeOf, Option.getD_some, hsorted,
      BlockCommand.ofParams_params]
  have hmethod : Rpc.Method.ofName? (envelopeOf id Rpc.Method.createBlock.name
      command.params).method = some .createBlock :=
    Rpc.Method.ofName?_name .createBlock
  rw [run, hmethod]
  simp only [hcommand]
  obtain ⟨c', outcome⟩ := c.create command
  cases outcome <;> rfl

end Node

theorem Query.ask_sendRawTransaction {raw : Bytes} (hready : client.Ready)
    (hsize : (Query.sendRawTransaction raw).Admissible client) :
    (Query.sendRawTransaction raw).ask client c ticket =
      (some ((c.submit raw).2.mapError (·.asProtocol Rpc.Method.sendRawTransaction.name)),
        (c.submit raw).1) := by
  have hparams : Json.fitsItems (Query.sendRawTransaction raw).params 125 = true := by
    simp [Query.sendRawTransaction, Query.request, Json.fitsItems]
  have hrun := Node.run_sendRawTransaction c ticket client.nextId raw
  rw [Query.ask_eq hready (Rpc.Method.name_ne_empty .sendRawTransaction) hparams hsize hrun]
  · cases (c.submit raw).2 with
    | ok hash =>
      simp [Node.chainResult, Node.replyOf, Query.answer, Rpc.Reply.outcome, Rpc.Reply.payload,
        Rpc.Reply.success, Query.sendRawTransaction, Query.request, Except.mapError]
    | error e => rfl
  · intro result hresult
    cases hs : (c.submit raw).2 with
    | ok hash =>
      rw [hs] at hresult
      obtain rfl := Except.ok.inj hresult
      exact Json.fits_ofWord _ _
    | error e =>
      rw [hs] at hresult
      simp [Node.chainResult] at hresult

theorem EngineCommand.issue_createBlock {command : BlockCommand} (hready : client.Ready)
    (hsize : (createBlock command).Admissible client) :
    (∀ created, (c.create command).2 = .ok created → ∃ ack : Acknowledgment,
      (createBlock command).issue client c ticket = (some (.ok ack), (c.create command).1) ∧
      ack.created? = some created ∧ ack.hash? = some created.hash) ∧
    (∀ e, (c.create command).2 = .error e →
      (createBlock command).issue client c ticket =
        (some (.error (e.asProtocol Rpc.Method.createBlock.name)), (c.create command).1)) := by
  have hparams : Json.fitsItems (createBlock command).params 125 = true := by
    cases h : command.parent <;>
      simp [createBlock, BlockCommand.params, Json.fitsItems, Json.fits, h]
  have hrun := Node.run_createBlock c ticket client.nextId command
  constructor
  · intro created hcreated
    rw [hcreated] at hrun
    have hcarry := carry_eq hready Rpc.Method.createBlock.name_ne_empty hparams hsize hrun
      (by rintro _ ⟨⟩; exact created.fits_toJson)
    have hhash := created.get?_hash
    refine ⟨⟨created.toJson.sorted⟩, ?_, created.ofJson?_sorted, ?_⟩
    · simp only [issue, createBlock] at hcarry ⊢
      rw [hcarry]
      simp [Node.replyOf, Node.chainResult, Rpc.Reply.success, Acknowledgment.ofReply,
        Json.sorted_sorted, Json.isTruthy_of_get? hhash, Except.bind]
    · rw [Acknowledgment.hash?, hhash]
      exact Json.word?_ofWord created.hash
  · intro e he
    rw [he] at hrun
    have hcarry := carry_eq hready Rpc.Method.createBlock.name_ne_empty hparams hsize hrun
      (by simp [Node.chainResult])
    simp only [issue, createBlock] at hcarry ⊢
    rw [hcarry]
    rfl

/-- A client that can call gets from the node, by frames that it admits, what the chain gives for
the same arguments, and the chain is afterwards as its own operation leaves it. -/
theorem transparent_run (config : ChainConfig) (es : List Chain.Event) (client : Client)
    (ticket : Nat) (hready : client.Ready) (hchain : config.chainId < limit64)
    (hhead : ((Chain.start config).run es).sealer.headNumber < limit64) :
    let c := (Chain.start config).run es
    (Query.chainId.Admissible client →
      Query.chainId.ask client c ticket = (some (.ok config.chainId), c)) ∧
    (Query.blockNumber.Admissible client →
      Query.blockNumber.ask client c ticket = (some (.ok c.blockNumber), c)) ∧
    (∀ tag : BlockTag, tag.InRange → (Query.blockByNumber tag).Admissible client →
      (Query.blockByNumber tag).ask client c ticket = (some (.ok (c.blockByNumber? tag)), c)) ∧
    (∀ hash, (Query.blockByHash hash).Admissible client →
      (Query.blockByHash hash).ask client c ticket = (some (.ok (c.blockByHash? hash)), c)) ∧
    (∀ height < limit64, (Query.blockHashAt height).Admissible client →
      (Query.blockHashAt height).ask client c ticket = (some (.ok (c.blockHash height)), c)) ∧
    (∀ raw, (Query.sendRawTransaction raw).Admissible client →
      (Query.sendRawTransaction raw).ask client c ticket =
        (some ((c.submit raw).2.mapError (·.asProtocol Rpc.Method.sendRawTransaction.name)),
          (c.submit raw).1)) ∧
    ∀ command, (EngineCommand.createBlock command).Admissible client →
      (∀ created, (c.create command).2 = .ok created → ∃ ack : Acknowledgment,
        (EngineCommand.createBlock command).issue client c ticket =
          (some (.ok ack), (c.create command).1) ∧
        ack.created? = some created ∧ ack.hash? = some created.hash) ∧
      ∀ e, (c.create command).2 = .error e →
        (EngineCommand.createBlock command).issue client c ticket =
          (some (.error (e.asProtocol Rpc.Method.createBlock.name)), (c.create command).1) := by
  intro c
  obtain ⟨done, rest, -, h⟩ : ∃ done rest, _ ∧ Chain.Consistent config c done rest :=
    Chain.consistent_run config es
  have hconfig : c.config = config := h.config_eq
  refine ⟨fun hsize => ?_, fun hsize => ?_, fun tag htag hsize => ?_, fun hash hsize => ?_,
    fun height hheight hsize => ?_, fun raw hsize => ?_, fun command hsize => ?_⟩
  · rw [← hconfig] at hchain ⊢
    exact Query.ask_chainId hready hsize hchain
  · exact Query.ask_blockNumber hready hsize (Nat.lt_of_le_of_lt h.blockNumber_le hhead)
  · exact Query.ask_blockByNumber hready hsize htag fun b hb =>
      Nat.lt_of_le_of_lt (h.blockByNumber?_number_le hb) hhead
  · exact Query.ask_blockByHash hready hsize fun b hb =>
      Nat.lt_of_le_of_lt (h.blockByHash?_number_le hb) hhead
  · exact Query.ask_blockHashAt hready hsize hheight
  · exact Query.ask_sendRawTransaction hready hsize
  · exact EngineCommand.issue_createBlock hready hsize

theorem transparent_blockNumber :
    Query.blockNumber.ask {} ((Chain.start {}).run [.create ⟨true, false, none⟩, .take, .apply]) 0 =
      (some (.ok 1), (Chain.start {}).run [.create ⟨true, false, none⟩, .take, .apply]) :=
  (transparent_run {} [.create ⟨true, false, none⟩, .take, .apply] {} 0 ⟨rfl, by decide⟩
    (by decide) (by decide)).2.1 (by unfold Query.Admissible Admissible; decide)

end SealedChain
