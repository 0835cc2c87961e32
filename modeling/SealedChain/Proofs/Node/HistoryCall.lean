import Mathlib.Data.Nat.Digits.Lemmas
import SealedChain.Proofs.Call.Transparency
import SealedChain.Proofs.Node.Reply

/-!
# Contract calls

A call of the reserved contract reads one height from its calldata and is answered with the hash
that the chain recorded for it. The height is a number of thirty-two bytes: one that takes more than
sixty-four bits is beyond every block, so it is not cut down to them. Which call fails, and with
which code, depends on the call alone, and no answer depends on the block tag.
-/
namespace SealedChain

namespace Bytes

def value (bs : Bytes) : Nat := Nat.ofDigits 256 (bs.reverse.map UInt8.toNat)

theorem toNat_eq_value (bs : Bytes) : bs.toNat = bs.value := by
  induction bs using List.reverseRecOn with
  | nil => rfl
  | append_singleton bs b ih =>
    rw [toNat_append_singleton, ih, value, value, List.reverse_append, List.reverse_singleton,
      List.singleton_append, List.map_cons, Nat.ofDigits_cons]
    omega

theorem value_lt (bs : Bytes) : bs.value < 256 ^ bs.length := by
  have hdigits : ∀ digit ∈ bs.reverse.map UInt8.toNat, digit < 256 := by
    intro digit hdigit
    obtain ⟨b, -, rfl⟩ := List.mem_map.mp hdigit
    exact b.toNat_lt
  have hlt := Nat.ofDigits_lt_base_pow_length (by decide : 1 < 256) hdigits
  rwa [List.length_map, List.length_reverse] at hlt

end Bytes

theorem historyHeight?_of_length {calldata : Bytes} (h : calldata.length = 32) :
    historyHeight? calldata = some calldata.value := by
  rw [historyHeight?, Word.ofBytes?, dif_pos h, Option.map_some, Word.toNat, Bytes.toNat_eq_value]

theorem length_historyCalldata (height : Nat) : (historyCalldata height).length = 32 :=
  (Word.ofNat 32 height).length_toBytes

theorem value_historyCalldata {height : Nat} (h : height < 2 ^ 256) :
    (historyCalldata height).value = height := by
  have hmod : (Word.ofNat 32 height).toNat = height % Bytes.range 32 := Word.toNat_ofNat 32 height
  have hrange : Bytes.range 32 = 2 ^ 256 := rfl
  rw [hrange, Nat.mod_eq_of_lt h] at hmod
  rw [← Bytes.toNat_eq_value]
  exact hmod

theorem CallRequest.calldata_eq (r : CallRequest) : r.calldata = r.input.or r.data := by
  unfold calldata
  cases r.input <;> rfl

namespace Node

/-- The body is a call under an id that asks this, with this block tag if it has one. -/
structure ContractCall (body : ByteArray) (id : Json) (r : CallRequest) (tag : Option BlockTag) :
    Prop where
  asks : ∃ e v rest, Holds body e ∧ e.method = "eth_call" ∧ e.id = id ∧ e.args = v :: rest ∧
    rest.length ≤ 1 ∧ CallRequest.ofJson? v = some r ∧ Optional BlockTag.ofJson? rest.head? tag

/-- What is said to a call on a chain: a hash, or the code of an error. -/
inductive HistoryAnswer (c : Chain) (r : CallRequest) : Except Int Hash → Prop
  | foreign (other : r.target ≠ some historyContract) : HistoryAnswer c r (.error (-32000))
  | misshapen (reserved : r.target = some historyContract)
      (misshapen : ∀ calldata, r.input.or r.data = some calldata → calldata.length ≠ 32) :
      HistoryAnswer c r (.error (-32602))
  | recorded (calldata : Bytes) (reserved : r.target = some historyContract)
      (given : r.input.or r.data = some calldata) (length : calldata.length = 32)
      (inRange : calldata.value < 2 ^ 64) : HistoryAnswer c r (.ok (c.blockHash calldata.value))
  | beyond (calldata : Bytes) (reserved : r.target = some historyContract)
      (given : r.input.or r.data = some calldata) (length : calldata.length = 32)
      (large : 2 ^ 64 ≤ calldata.value) : HistoryAnswer c r (.ok sentinelHash)

def saidCode : Except Int Hash → Option Int
  | .ok _ => none
  | .error code => some code

/-- A reply with an id that carries what is said: a hash in hexadecimal, or an error with a code. -/
structure HistoryReply (v id : Json) (said : Except Int Hash) : Prop where
  replies : Replies v id (saidCode said)
  hash : v.get? "result" = said.toOption.map fun hash => .string hash.hex

variable {c : Chain} {r : CallRequest} {said : Except Int Hash}

theorem word_or_misshapen (given : Option Bytes) :
    (∃ calldata, given = some calldata ∧ calldata.length = 32) ∨
      ∀ calldata, given = some calldata → calldata.length ≠ 32 := by
  by_cases h : ∃ calldata, given = some calldata ∧ calldata.length = 32
  · exact .inl h
  · exact .inr fun calldata hgiven hlength => h ⟨calldata, hgiven, hlength⟩

theorem exists_historyAnswer (c : Chain) (r : CallRequest) : ∃ said, HistoryAnswer c r said := by
  by_cases htarget : r.target = some historyContract
  · rcases word_or_misshapen (r.input.or r.data) with ⟨calldata, hgiven, hlength⟩ | hnone
    · rcases Nat.lt_or_ge calldata.value (2 ^ 64) with hlt | hge
      · exact ⟨_, .recorded calldata htarget hgiven hlength hlt⟩
      · exact ⟨_, .beyond calldata htarget hgiven hlength hge⟩
    · exact ⟨_, .misshapen htarget hnone⟩
  · exact ⟨_, .foreign htarget⟩

theorem answer_of_word {calldata : Bytes} (htarget : r.target = some historyContract)
    (hgiven : r.input.or r.data = some calldata) (hlength : calldata.length = 32) :
    (Question.call r).answer c = .ok (.string
      (if calldata.value < 2 ^ 64 then c.blockHash calldata.value else sentinelHash).hex) := by
  rw [Question.answer, if_neg (not_not.mpr htarget), CallRequest.calldata_eq, hgiven,
    Option.bind_some, historyHeight?_of_length hlength]
  rfl

theorem HistoryAnswer.answer (h : HistoryAnswer c r said) :
    faultCode ((Question.call r).answer c) = saidCode said ∧
      ((Question.call r).answer c).toOption = said.toOption.map fun hash => .string hash.hex := by
  cases h with
  | foreign other =>
    rw [Question.answer, if_pos other]
    exact ⟨rfl, rfl⟩
  | misshapen reserved misshapen =>
    have hnone : (r.input.or r.data).bind historyHeight? = none := by
      cases hgiven : r.input.or r.data with
      | none => rfl
      | some calldata => exact historyHeight?_eq_none.mpr (misshapen calldata hgiven)
    rw [Question.answer, if_neg (not_not.mpr reserved), CallRequest.calldata_eq, hnone]
    exact ⟨rfl, rfl⟩
  | recorded calldata reserved given length inRange =>
    rw [answer_of_word reserved given length, if_pos inRange]
    exact ⟨rfl, rfl⟩
  | beyond calldata reserved given length large =>
    rw [answer_of_word reserved given length, if_neg (Nat.not_lt.mpr large)]
    exact ⟨rfl, rfl⟩

/-- One thing is said to a call, since a reply shows what it is. -/
theorem HistoryAnswer.unique {said' : Except Int Hash} (h : HistoryAnswer c r said)
    (h' : HistoryAnswer c r said') : said = said' := by
  have hcode : saidCode said = saidCode said' := h.answer.1.symm.trans h'.answer.1
  have hhash := h.answer.2.symm.trans h'.answer.2
  cases said with
  | error code =>
    cases said' with
    | error code' => rw [Option.some.inj hcode]
    | ok hash' => cases hcode
  | ok hash =>
    cases said' with
    | error code' => cases hcode
    | ok hash' =>
      have hword : (Json.ofWord hash).word? 32 = (Json.ofWord hash').word? 32 :=
        congrArg (Json.word? 32) (Option.some.inj hhash)
      rw [Json.word?_ofWord, Json.word?_ofWord] at hword
      rw [Option.some.inj hword]

theorem HistoryAnswer.reply (h : HistoryAnswer c r said) (id : Json) :
    ∃ v, answerText id ((Question.call r).answer c) = v.render ∧ HistoryReply v id said ∧
      (id.ReadsBack → Json.parse v.render = some v) := by
  obtain ⟨hcode, hhash⟩ := h.answer
  cases hanswer : (Question.call r).answer c with
  | ok result =>
    rw [hanswer] at hcode hhash
    obtain ⟨v, htext, hreplies, hresult, hparse⟩ := replies_success id (readsBack_answer hanswer)
    exact ⟨v, htext, ⟨hcode ▸ hreplies, hresult.trans hhash⟩, hparse⟩
  | error fault =>
    rw [hanswer] at hcode hhash
    obtain ⟨v, htext, hreplies, hresult, hparse⟩ := replies_failure id fault.code fault.message
    exact ⟨v, htext, ⟨hcode ▸ hreplies, hresult.trans hhash⟩, hparse⟩

section Body

variable {body : ByteArray} {id : Json} {tag : Option BlockTag}

theorem ContractCall.idOf_eq (h : ContractCall body id r tag) : idOf body = id := by
  obtain ⟨e, -, -, hholds, -, rfl, -⟩ := h.asks
  obtain ⟨v, hparse, hvalid⟩ := hholds.valid
  exact (idOf_of_parsed hholds.small hparse).trans (detectId_of_validate hvalid)

theorem ContractCall.respond_eq (h : ContractCall body id r tag) (c : Chain) (ticket : Nat) :
    respond c ticket body = (c, .answered (answerText id ((Question.call r).answer c))) := by
  have hid := h.idOf_eq
  obtain ⟨e, v, rest, hholds, hmethod, -, hargs, hcount, hread, htag⟩ := h.asks
  have hasks : Asks .call e.args (.question (.call r)) :=
    hargs ▸ .call v r rest tag hcount hread htag
  have hname : Rpc.Method.call.name = e.method := hmethod.symm
  have hreading : reading body = .ok (.question (.call r)) := by
    rw [reading_of_holds hholds, ofName?_of_name hname]
    simp only [demandOf_iff.mpr hasks, Except.mapError]
  rw [Node.respond_eq, hreading, hid]
  rfl

theorem contractCall_frame (height : Nat) {id : Nat} (hid : id < limit64)
    (hsize : (Rpc.Request.new id "eth_call" (Query.blockHashAt height).params).frame.toUTF8.size ≤
      maxBodySize) :
    ContractCall (Rpc.Request.new id "eth_call" (Query.blockHashAt height).params).frame.toUTF8
      (.nat id) (CallRequest.blockHash height) (some .latest) := by
  have hread := Rpc.Request.parse_frame hid "eth_call" (Query.fits_blockHashAt height)
  rw [Query.sorted_blockHashAt, ← parseBytes_toUTF8] at hread
  have hlatest : BlockTag.ofJson? BlockTag.latest.toJson = some .latest :=
    BlockTag.ofJson?_toJson trivial
  exact ⟨_, _, _, ⟨hsize, _, hread, validate_read id (by decide) _⟩, rfl, rfl, rfl, Nat.le_refl 1,
    CallRequest.ofJson?_sorted height, .given _ _ (by simp [BlockTag.toJson]) hlatest⟩

end Body

/-- One thing is said to a call that can be read, and the reply carries it and leaves the chain as
it is. The height is the whole word of the calldata, not cut down to sixty-four bits, and the block
tag has no part in the reply. -/
theorem called_run (config : ChainConfig) (es : List Chain.Event) :
    let c := (Chain.start config).run es
    (∀ r, ∃! said, HistoryAnswer c r said) ∧
    (∀ body id r tag, ContractCall body id r tag → ∀ said, HistoryAnswer c r said → ∀ ticket, ∃ v,
      respond c ticket body = (c, .answered v.render) ∧ HistoryReply v id said ∧
        ((∀ x, id ≠ .real x) → Json.parse v.render = some v)) ∧
    (∀ body body' id r tag tag', ContractCall body id r tag → ContractCall body' id r tag' →
      ∀ ticket ticket', respond c ticket body = respond c ticket' body') ∧
    (∀ calldata : Bytes, calldata.value < 256 ^ calldata.length) ∧
    (∀ height < 2 ^ 64, ∃ calldata,
      CallRequest.blockHash height = { target := some historyContract, data := some calldata } ∧
        calldata.length = 32 ∧ calldata.value = height ∧ historyHeight? calldata = some height) ∧
    ∀ m < 2 ^ 64, ∀ n < 2 ^ 64,
      (CallRequest.blockHash m).calldata = (CallRequest.blockHash n).calldata → m = n := by
  intro c
  refine ⟨fun r => ?_, fun body id r tag hcall said hanswer ticket => ?_, ?_, Bytes.value_lt, ?_,
    ?_⟩
  · obtain ⟨said, hanswer⟩ := exists_historyAnswer c r
    exact ⟨said, hanswer, fun said' hanswer' => hanswer'.unique hanswer⟩
  · obtain ⟨v, htext, hreply, hparse⟩ := hanswer.reply id
    refine ⟨v, ?_, hreply, fun hreal => hparse ?_⟩
    · rw [hcall.respond_eq, htext]
    · rw [← hcall.idOf_eq] at hreal ⊢
      exact readsBack_idOf body hreal
  · intro body body' id r tag tag' hcall hcall' ticket ticket'
    rw [hcall.respond_eq, hcall'.respond_eq]
  · intro height hheight
    have hvalue : (historyCalldata height).value = height := value_historyCalldata (by omega)
    exact ⟨historyCalldata height, rfl, length_historyCalldata height, hvalue,
      historyHeight?_historyCalldata height hheight⟩
  · intro m hm n hn hsame
    have hcalldata : historyCalldata m = historyCalldata n := Option.some.inj hsame
    calc
      m = (historyCalldata m).value := (value_historyCalldata (by omega)).symm
      _ = (historyCalldata n).value := by rw [hcalldata]
      _ = n := value_historyCalldata (by omega)

/-- A height that is one in its last sixty-four bits gets the sentinel, though there is a block 1. -/
theorem called_beyond :
    let c := (Chain.start {}).run [.create ⟨true, false, none⟩, .take, .apply]
    let height := 2 ^ 64 + 1
    let call := CallRequest.blockHash height
    let body := (Rpc.Request.new 1 "eth_call" (Query.blockHashAt height).params).frame.toUTF8
    c.blockNumber = 1 ∧ height % 2 ^ 64 = 1 ∧ c.blockHash 1 ≠ sentinelHash ∧
      ContractCall body (.nat 1) call (some .latest) ∧
      HistoryAnswer c call (.ok sentinelHash) ∧
      ∃ v : Json, respond c 0 body = (c, .answered v.render) ∧
        v.get? "result" = some (.string sentinelHash.hex) := by
  intro c height call body
  have hcall : ContractCall body (.nat 1) call (some .latest) :=
    contractCall_frame height (by decide) (by decide +kernel)
  have hvalue : (historyCalldata height).value = height := value_historyCalldata (by decide)
  have hanswer : HistoryAnswer c call (.ok sentinelHash) :=
    .beyond _ rfl rfl (length_historyCalldata height) (by omega)
  obtain ⟨-, hreplied, -⟩ := called_run {} [.create ⟨true, false, none⟩, .take, .apply]
  obtain ⟨v, hrespond, hreply, -⟩ := hreplied body _ call _ hcall _ hanswer 0
  exact ⟨by decide, by decide, by decide +kernel, hcall, hanswer, v, hrespond, hreply.hash⟩

end Node

end SealedChain
