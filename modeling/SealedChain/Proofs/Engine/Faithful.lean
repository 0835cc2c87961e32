import SealedChain.Proofs.Call.Post
import SealedChain.Proofs.Call.Transparency
import SealedChain.Proofs.Chain.Visible
import SealedChain.Proofs.Rpc.Size

/-!
# What replies tell an engine

The node answers a poll with a block only if the block is visible, and acknowledges a creation with
the hash of a block that it seals for it. Whatever else it responds, and to whatever frame, is
neither. A reply that can be trusted so when the node gives it can be trusted ever after.
-/
namespace SealedChain

def Rpc.Request.poll (id : Nat) (hash : Hash) : Rpc.Request :=
  .new id (Query.blockByHash hash).method (Query.blockByHash hash).params

def Rpc.Request.creation (id : Nat) (command : BlockCommand) : Rpc.Request :=
  .new id (EngineCommand.createBlock command).method (EngineCommand.createBlock command).params

/-- What a reply tells is so: a block that answers a poll is visible, and the acknowledgment of a
creation names a block. -/
structure Faithful (visible named : Hash → Prop) (request : Rpc.Request) (reply : Rpc.Reply) :
    Prop where
  found : ∀ hash record, request = .poll request.id hash →
    (Query.blockByHash hash).answer reply = .ok (some record) → visible hash
  acknowledged : ∀ command ack, request = .creation request.id command →
    Acknowledgment.ofReply Rpc.Method.createBlock.name reply = .ok ack →
    ∃ hash, ack.hash? = some hash ∧ named hash

theorem Faithful.mono {visible named visible' named' : Hash → Prop} {request : Rpc.Request}
    {reply : Rpc.Reply} (h : Faithful visible named request reply)
    (hv : ∀ hash, visible hash → visible' hash) (hn : ∀ hash, named hash → named' hash) :
    Faithful visible' named' request reply where
  found hash record hrequest hanswer := hv hash (h.found hash record hrequest hanswer)
  acknowledged command ack hrequest hack := by
    obtain ⟨hash, hhash, hnamed⟩ := h.acknowledged command ack hrequest hack
    exact ⟨hash, hhash, hn hash hnamed⟩

theorem Rpc.Request.poll_inj {id id' : Nat} {hash hash' : Hash} (h : poll id hash = poll id' hash') :
    hash = hash' := by
  have hparams : [Json.ofWord hash, .bool false] = [Json.ofWord hash', .bool false] :=
    congrArg Rpc.Request.params h
  have hword := congrArg (Json.word? 32) (List.cons.inj hparams).1
  rw [Json.word?_ofWord, Json.word?_ofWord] at hword
  exact Option.some.inj hword

theorem Rpc.Request.poll_ne_creation (id id' : Nat) (hash : Hash) (command : BlockCommand) :
    poll id hash ≠ creation id' command := by
  intro h
  have hmethod : Rpc.Method.getBlockByHash.name = Rpc.Method.createBlock.name :=
    congrArg Rpc.Request.method h
  revert hmethod
  decide

theorem Query.fits_blockByHash (hash : Hash) :
    Json.fitsItems (Query.blockByHash hash).params 125 = true := by
  simp [Query.blockByHash, Query.request, Json.fitsItems, Json.fits]

theorem EngineCommand.fits_createBlock (command : BlockCommand) :
    Json.fitsItems (EngineCommand.createBlock command).params 125 = true := by
  cases h : command.parent <;>
    simp [EngineCommand.createBlock, BlockCommand.params, Json.fitsItems, Json.fits, h]

theorem CreatedBlock.hash?_acknowledgment (created : CreatedBlock) :
    (Acknowledgment.mk created.toJson.sorted).hash? = some created.hash := by
  rw [Acknowledgment.hash?, created.get?_hash]
  exact Json.word?_ofWord created.hash

theorem Json.length_ofWord (w : Word 32) : (chars (ofWord w)).length ≤ 400 := by
  have hquoted := length_quoted_le w.hex
  have hhex : w.hex.length = 66 := by
    rw [Word.hex, Bytes.hex, String.length_ofList]
    simp [Hex.encode, Hex.digits, Hex.encodeByte, w.length_toBytes]
  rw [ofWord, chars]
  omega

namespace Node

section Sizes

variable {id : Nat} (hid : id < limit64)

include hid

theorem size_poll (hash : Hash) : (Rpc.Request.poll id hash).frame.toUTF8.size ≤ maxBodySize := by
  refine (Rpc.Request.size_frame_le hid _ _).trans ?_
  have hhash := Json.length_ofWord hash
  have hname : Rpc.Method.getBlockByHash.name.length ≤ 40 := by decide
  simp only [Query.blockByHash, Query.request, Json.itemChars, Json.chars, List.length_append,
    List.length_cons, List.length_nil, maxBodySize]
  omega

theorem size_creation (command : BlockCommand) :
    (Rpc.Request.creation id command).frame.toUTF8.size ≤ maxBodySize := by
  refine (Rpc.Request.size_frame_le hid _ _).trans ?_
  have hname : Rpc.Method.createBlock.name.length ≤ 40 := by decide
  have hflag : ∀ b : Bool, (Json.chars (.bool b)).length ≤ 5 := by decide
  have hempty := hflag command.createEmpty
  have hfinalize := hflag command.finalize
  have hnull : (Json.chars .null).length = 4 := rfl
  cases hparent : command.parent with
  | none =>
    simp only [EngineCommand.createBlock, BlockCommand.params, hparent, Json.itemChars,
      List.length_append, List.length_cons, maxBodySize]
    omega
  | some parent =>
    have hword := Json.length_ofWord parent
    simp only [EngineCommand.createBlock, BlockCommand.params, hparent, Json.itemChars,
      List.length_append, List.length_cons, maxBodySize]
    omega

variable {c : Chain} (ticket : Nat)

/-- A poll is answered with the block, or with none. -/
theorem accept_poll (hash : Hash) :
    accept c ticket ⟨"POST", "/", (Rpc.Request.poll id hash).frame.toUTF8⟩ =
      (c, .responded (.ofAnswer (answerText (.nat id)
        (.ok (recordOrNull (c.blockByHash? hash)))))) := by
  have hrespond := (respond_frame c ticket hid (Rpc.Method.name_ne_empty .getBlockByHash)
    (Query.fits_blockByHash hash) (size_poll hid hash)).trans
    (run_query rfl (query?_blockByHash id hash) ticket)
  rw [accept_post, show respond c ticket (Rpc.Request.poll id hash).frame.toUTF8 = _ from hrespond]
  rfl

theorem accept_creation (command : BlockCommand) :
    accept c ticket ⟨"POST", "/", (Rpc.Request.creation id command).frame.toUTF8⟩ =
      ((c.create command).1, .responded (.ofAnswer (answerText (.nat id)
        (chainResult (·.toJson.sorted) (c.create command).2)))) := by
  have hrespond := (respond_frame c ticket hid (Rpc.Method.name_ne_empty .createBlock)
    (EngineCommand.fits_createBlock command) (size_creation hid command)).trans
    (run_createBlock c ticket id command)
  rw [accept_post,
    show respond c ticket (Rpc.Request.creation id command).frame.toUTF8 = _ from hrespond]

end Sizes

theorem readsBack_created (outcome : Except ChainError CreatedBlock) (result : Json)
    (h : chainResult (·.toJson.sorted) outcome = .ok result) : result.ReadsBack := by
  cases outcome with
  | ok created =>
    obtain rfl := Except.ok.inj h
    exact ⟨created.fits_toJson, Json.sorted_sorted _⟩
  | error e => cases h

theorem ofReply_created (id : Nat) (method : String) (created : CreatedBlock) :
    Acknowledgment.ofReply method (replyOf id (chainResult (·.toJson.sorted) (.ok created))) =
      .ok ⟨created.toJson.sorted⟩ := by
  simp [chainResult, replyOf, Rpc.Reply.success, Acknowledgment.ofReply, Json.sorted_sorted,
    Json.isTruthy_of_get? created.get?_hash]

variable {visible named : Hash → Prop}

theorem faithful_poll (c : Chain) (id : Nat) (hash : Hash) :
    Faithful c.Visible named (.poll id hash)
      (replyOf id (.ok (recordOrNull (c.blockByHash? hash)))) where
  found hash' record hrequest hanswer := by
    obtain rfl := Rpc.Request.poll_inj hrequest
    cases hfound : c.blockByHash? hash with
    | some b =>
      rw [Chain.Visible, hfound]
      rfl
    | none =>
      rw [hfound] at hanswer
      cases hanswer
  acknowledged command ack hrequest _ :=
    absurd hrequest (Rpc.Request.poll_ne_creation id id hash command)

/-- The acknowledgment of a creation names the block that was sealed for it. -/
theorem faithful_creation (c : Chain) (id : Nat) (command : BlockCommand) :
    Faithful visible (fun hash => ∃ b ∈ c.queuedBetween (c.create command).1, b.hash = hash)
      (.creation id command)
      (replyOf id (chainResult (·.toJson.sorted) (c.create command).2)) where
  found hash record hrequest _ :=
    absurd hrequest.symm (Rpc.Request.poll_ne_creation id id hash command)
  acknowledged _ ack _ hack := by
    cases hcreate : (c.create command).2 with
    | error e =>
      rw [hcreate] at hack
      cases hack
    | ok created =>
      obtain ⟨b, hb, hhash⟩ := Chain.acknowledged_create hcreate
      rw [← (c.create_change command).queuedBetween] at hb
      rw [hcreate, ofReply_created] at hack
      obtain rfl := Except.ok.inj hack
      exact ⟨created.hash, created.hash?_acknowledgment, b, by simp [hb], hhash⟩

/-- What the node makes of the frame of a request: it responds with a faithful reply, or it has a
ticket for a request of which no reply tells anything. -/
inductive Taken (visible named : Hash → Prop) (request : Rpc.Request) :
    HttpOutcome → Prop
  | responded (response : HttpResponse) (reply : Rpc.Reply)
      (carries : Carries request.id response reply)
      (faithful : Faithful visible named request reply) :
      Taken visible named request (.responded response)
  | awaiting (faithful : ∀ reply, Faithful visible named request reply) :
      Taken visible named request (.awaiting (.nat request.id))

theorem Taken.mono {visible named visible' named' : Hash → Prop} {request : Rpc.Request}
    {outcome : HttpOutcome} (h : Taken visible named request outcome)
    (hv : ∀ hash, visible hash → visible' hash) (hn : ∀ hash, named hash → named' hash) :
    Taken visible' named' request outcome := by
  cases h with
  | responded response reply hcarries hfaithful =>
    exact .responded response reply hcarries (hfaithful.mono hv hn)
  | awaiting hfaithful => exact .awaiting fun reply => (hfaithful reply).mono hv hn

theorem accept_taken (c : Chain) (ticket : Nat) {id : Nat} (hid : id < limit64)
    {method : String} (hmethod : method ≠ "") (params : List Json) :
    let request := Rpc.Request.new id method params
    let accepted := accept c ticket ⟨"POST", "/", request.frame.toUTF8⟩
    Taken accepted.1.Visible (fun hash => ∃ b ∈ c.queuedBetween accepted.1, b.hash = hash)
      request accepted.2 := by
  intro request accepted
  have answered : ∀ {c' : Chain} {response : HttpResponse} {reply : Rpc.Reply},
      accepted = (c', .responded response) → Carries id response reply →
      Faithful c'.Visible (fun hash => ∃ b ∈ c.queuedBetween c', b.hash = hash) request reply →
      Taken accepted.1.Visible (fun hash => ∃ b ∈ c.queuedBetween accepted.1, b.hash = hash)
        request accepted.2 := by
    intro c' response reply haccepted hcarries hfaithful
    rw [haccepted]
    exact .responded response reply hcarries hfaithful
  by_cases hpoll : ∃ hash, request = .poll id hash
  · obtain ⟨hash, hrequest⟩ := hpoll
    obtain ⟨-, -, rfl, rfl⟩ := Rpc.Request.mk.inj hrequest
    refine answered (accept_poll hid ticket hash) (.answer _ ?_) (faithful_poll c id hash)
    rintro _ ⟨⟩
    exact readsBack_recordOrNull _
  by_cases hcreation : ∃ command, request = .creation id command
  · obtain ⟨command, hrequest⟩ := hcreation
    obtain ⟨-, -, rfl, rfl⟩ := Rpc.Request.mk.inj hrequest
    exact answered (accept_creation hid ticket command) (.answer _ (readsBack_created _))
      (faithful_creation c id command)
  have other : ∀ visible named reply, Faithful visible named request reply := by
    intro visible named reply
    exact ⟨fun hash _ h _ => absurd ⟨hash, h⟩ hpoll,
      fun command _ h _ => absurd ⟨command, h⟩ hcreation⟩
  have haccepted : accepted = _ :=
    accept_post c ticket "/" (Rpc.Request.new id method params).frame.toUTF8
  rcases respond_frame_cases c ticket hid hmethod params with ⟨code, message, hrespond⟩ | ⟨items, hran⟩
  · rw [hrespond] at haccepted
    exact answered haccepted (.unread code message) (other _ _ _)
  · generalize respond c ticket (Rpc.Request.new id method params).frame.toUTF8 = p
      at hran haccepted
    cases hran with
    | answered c' r _ _ hr => exact answered haccepted (.answer r hr) (other _ _ _)
    | awaiting hash =>
      rw [haccepted]
      exact .awaiting (other _ _)

end Node

end SealedChain
