import SealedChain.Client.Query
import SealedChain.Node.Http
import SealedChain.Proofs.Chain.Replay
import SealedChain.Proofs.Client.Fate
import SealedChain.Proofs.Node.Answer

/-!
# Calls posted to the node

A client that posts its frames to the node gets for each frame a response whose body, as an inbound
frame, is routed to the exchange that posted it and to no other. The node answers some frames
without an id: those that are too large or nested too deep for it to read. Such an answer gets the
id that is read from the posted frame itself. So no exchange is left without its reply.
-/
namespace SealedChain

namespace Http

theorem adopt?_of_id {k : String} (v : Json) (id : Json) {given : Json} (hgiven : given ≠ .null) :
    adopt? id (.ofMembers [("jsonrpc", .string Rpc.version), (k, v), ("id", given)]) = none := by
  have hfound : Json.lookup "id" (Json.insertAll []
      [("jsonrpc", .string Rpc.version), (k, v), ("id", given)]) = some given := by
    simp [Json.lookup_insertAll, Json.lookup]
  rw [Json.ofMembers_eq]
  simp only [adopt?, hfound]
  cases given with
  | null => exact absurd rfl hgiven
  | _ => rfl

theorem adopt?_null (id error : Json) :
    adopt? id (.ofMembers [("jsonrpc", .string Rpc.version), ("error", error), ("id", .null)]) =
      some (.ofMembers [("jsonrpc", .string Rpc.version), ("error", error), ("id", id)]) := by
  have hinsert : ∀ given, Json.insertAll []
      [("jsonrpc", .string Rpc.version), ("error", error), ("id", given)] =
        Json.insertMember "id" given
          (Json.insertAll [] [("jsonrpc", .string Rpc.version), ("error", error)]) := fun _ => rfl
  have hfound : Json.lookup "id" (Json.insertAll []
      [("jsonrpc", .string Rpc.version), ("error", error), ("id", .null)]) = some .null := by
    simp [Json.lookup_insertAll, Json.lookup]
  have herror : Json.lookup "error" (Json.insertAll []
      [("jsonrpc", .string Rpc.version), ("error", error), ("id", .null)]) = some error := by
    simp [Json.lookup_insertAll, Json.lookup]
  rw [Json.ofMembers_eq, Json.ofMembers_eq]
  simp only [adopt?, hfound, herror, Option.isSome_some, Bool.and_true, if_true]
  rw [hinsert, hinsert, Json.insertMember_insertMember]

variable {id : Nat}

theorem receive_answerText (hid : id < limit64) (frame : String)
    {r : Except Node.MethodFault Json} (hr : ∀ result, r = .ok result → result.ReadsBack) :
    receive frame (.response 200 (Node.answerText (.nat id) r)) =
      .ok (Node.answerText (.nat id) r) := by
  have hnot : ∀ k v, (requestId? frame).bind (adopt? ·
      (.ofMembers [("jsonrpc", .string Rpc.version), (k, v), ("id", .nat id)])) = none := by
    intro k v
    cases requestId? frame with
    | none => rfl
    | some posted => exact adopt?_of_id v posted (by simp [Json.nat])
  cases r with
  | ok result =>
    have hparse := Node.parse_answer "result" (hr result rfl) (Node.readsBack_nat hid)
    simp [receive, Node.answerText, Node.successText, hparse, hnot]
  | error fault =>
    have hparse := Node.parse_answer "error" (Node.readsBack_errorOf fault.code fault.message)
      (Node.readsBack_nat hid)
    simp only [Node.errorOf] at hparse
    simp [receive, Node.answerText, Node.errorText, hparse, hnot]

/-- An error without an id is inbound as if the node had answered under the id of the frame. -/
theorem receive_errorText (hid : id < limit64) (method : String) (params : List Json)
    (code : Rpc.ErrorCode) (message : String) :
    receive (Rpc.Request.new id method params).frame
        (.response 200 (Node.errorText .null code message)) =
      .ok (Node.errorText (.nat id) code message) := by
  have hparse := Node.parse_answer "error" (Node.readsBack_errorOf code message) Node.readsBack_null
  have hadopted := adopt?_null (.nat id) (Node.errorOf code message)
  simp only [Node.errorOf] at hparse hadopted
  simp [receive, Node.errorText, hparse, Rpc.Request.requestId?_frame hid, hadopted]

end Http

namespace Node

/-- What a request over HTTP is responded with: at once, or once the chain has answered its ticket in
what happens after it. -/
inductive Responds (c : Chain) (ticket : Nat) (r : HttpRequest) (es : List Chain.Event) :
    HttpResponse → Prop
  | atOnce (response : HttpResponse) (now : (accept c ticket r).2 = .responded response) :
      Responds c ticket r es response
  | afterwards (id : Json) (result : Except ChainError Unit)
      (awaiting : (accept c ticket r).2 = .awaiting id)
      (answered : ⟨ticket, result⟩ ∈ (accept c ticket r).1.answered es) :
      Responds c ticket r es (.ofAnswer (finalizedText id result))

/-- What the body of a response says to a call. -/
inductive Says (body method : String) : Except ClientError Json → Prop
  | result (v result : Json) (parsed : Json.parse body = some v)
      (found : v.get? "result" = some result) (noError : v.get? "error" = none) :
      Says body method (.ok result)
  | error (v : Json) (code : Rpc.ErrorCode) (message : String) (parsed : Json.parse body = some v)
      (found : v.get? "error" = some (errorOf code message)) :
      Says body method (.error (.protocol method (.new code message)))

theorem accept_post (c : Chain) (ticket : Nat) (path : String) (body : ByteArray) :
    accept c ticket ⟨"POST", path, body⟩ = ((respond c ticket body).1,
      match (respond c ticket body).2 with
      | .answered text => .responded (.ofAnswer text)
      | .awaiting id => .awaiting id) := by
  rw [accept, if_neg (by simp), if_neg (by simp)]
  rcases respond c ticket body with ⟨c', text | id⟩ <;> rfl

theorem accept_changed (c : Chain) (ticket : Nat) (r : HttpRequest) :
    (accept c ticket r).1 = c ∨ ∃ e, (accept c ticket r).1 = c.step e := by
  have hrespond := respond_changed c ticket r.body
  unfold accept
  split
  · exact .inl rfl
  · split
    · exact .inl rfl
    · rcases hp : respond c ticket r.body with ⟨c', _ | _⟩ <;> simpa [hp] using hrespond

theorem says_answerText {id : Nat} (hid : id < limit64) (method : String)
    {r : Except MethodFault Json} (hr : ∀ result, r = .ok result → result.ReadsBack) :
    Says (answerText (.nat id) r) method ((replyOf id r).outcome method) := by
  cases r with
  | ok result =>
    have hresult := hr result rfl
    simp only [replyOf, hresult.sorted]
    refine .result _ result (parse_answer "result" hresult (readsBack_nat hid)) ?_ ?_ <;>
      simp [Json.get?_ofMembers, Json.lookup]
  | error fault =>
    refine .error _ fault.code fault.message
      (parse_answer "error" (readsBack_errorOf fault.code fault.message) (readsBack_nat hid)) ?_
    simp [Json.get?_ofMembers, Json.lookup, errorOf]

theorem says_errorText (method : String) (code : Rpc.ErrorCode) (message : String) :
    Says (errorText .null code message) method (.error (.protocol method (.new code message))) := by
  refine .error _ code message
    (parse_answer "error" (readsBack_errorOf code message) readsBack_null) ?_
  simp [Json.get?_ofMembers, Json.lookup, errorOf]

/-- A response to the frame of a request, and the reply that it carries: an answer under its id, or
an error without an id. -/
inductive Carries (id : Nat) : HttpResponse → Rpc.Reply → Prop
  | answer (r : Except MethodFault Json) (readsBack : ∀ result, r = .ok result → result.ReadsBack) :
      Carries id (.ofAnswer (answerText (.nat id) r)) (replyOf id r)
  | unread (code : Rpc.ErrorCode) (message : String) :
      Carries id (.ofAnswer (errorText .null code message))
        (.failure (.nat id) (.new code message))

theorem Carries.finalized (id : Nat) (result : Except ChainError Unit) :
    ∃ reply, Carries id (.ofAnswer (finalizedText (.nat id) result)) reply := by
  refine ⟨_, .answer _ ?_⟩
  cases result with
  | ok =>
    rintro _ ⟨⟩
    exact ⟨rfl, by simp only [Json.sorted]⟩
  | error => rintro _ ⟨⟩

theorem Responds.carries {c : Chain} {ticket : Nat} {path : String} {es : List Chain.Event}
    {response : HttpResponse} {id : Nat} (hid : id < limit64) {method : String}
    (hmethod : method ≠ "") {params : List Json}
    (h : Responds c ticket ⟨"POST", path, (Rpc.Request.new id method params).frame.toUTF8⟩ es
      response) : ∃ reply, Carries id response reply := by
  have hcases := respond_frame_cases c ticket hid hmethod params
  cases h with
  | atOnce _ now =>
    rw [accept_post] at now
    rcases hcases with ⟨code, message, hrespond⟩ | ⟨items, hran⟩
    · rw [hrespond] at now
      obtain rfl := HttpOutcome.responded.inj now
      exact ⟨_, .unread code message⟩
    · generalize respond c ticket (Rpc.Request.new id method params).frame.toUTF8 = p at hran now
      cases hran with
      | answered c' r _ _ hr =>
        obtain rfl := HttpOutcome.responded.inj now
        exact ⟨_, .answer r hr⟩
      | awaiting => cases now
  | afterwards given result awaiting answered =>
    rw [accept_post] at awaiting
    rcases hcases with ⟨code, message, hrespond⟩ | ⟨items, hran⟩
    · rw [hrespond] at awaiting
      cases awaiting
    · generalize respond c ticket (Rpc.Request.new id method params).frame.toUTF8 = p
        at hran awaiting
      cases hran with
      | answered => cases awaiting
      | awaiting =>
        obtain rfl := HttpOutcome.awaiting.inj awaiting
        exact Carries.finalized id result

theorem Carries.says {id : Nat} (hid : id < limit64) {response : HttpResponse} {reply : Rpc.Reply}
    (h : Carries id response reply) (method : String) :
    Says response.body method (reply.outcome method) := by
  cases h with
  | answer r hr => exact says_answerText hid method hr
  | unread code message => exact says_errorText method code message

end Node

def Brings (frame : String) (id : Nat) (reply : Rpc.Reply) : Prop :=
  ∃ v, elementsOf frame = [v] ∧ Rpc.Reply.ofJson? v = some reply ∧ reply.correlationId = some id

theorem Node.Carries.receive {id : Nat} (hid : id < limit64) (method : String)
    (params : List Json) {response : HttpResponse} {reply : Rpc.Reply}
    (h : Carries id response reply) :
    ∃ inbound, Http.receive (Rpc.Request.new id method params).frame
        (.response response.status response.body) = .ok inbound ∧ Brings inbound id reply := by
  cases h with
  | answer r hr =>
    obtain ⟨v, htext, hv⟩ := elementsOf_answerText hid fun result h => (hr result h).fits
    refine ⟨_, Http.receive_answerText hid _ hr, v, htext, hv, ?_⟩
    cases r <;> exact unsigned?_nat hid
  | unread code message =>
    obtain ⟨v, htext, hv⟩ := elementsOf_errorText hid code message
    exact ⟨_, Http.receive_errorText hid method params code message, v, htext, hv,
      unsigned?_nat hid⟩

theorem Brings.routeFrame {frame : String} {id : Nat} {reply : Rpc.Reply}
    (h : Brings frame id reply) {c : Client} (hopen : c.closed = false)
    (hpending : id ∈ c.pending) : c.routeFrame frame = c.deliver id reply := by
  obtain ⟨v, htext, hv, hi⟩ := h
  rw [Client.routeFrame, htext]
  exact Client.element_deliver hopen hv hi hpending

theorem Node.accepting_post {c : Chain} (hlive : c.accepting = true) (ticket : Nat) (path : String)
    {id : Nat} (hid : id < limit64) {method : String} (hmethod : method ≠ "")
    (params : List Json) :
    let request : HttpRequest := ⟨"POST", path, (Rpc.Request.new id method params).frame.toUTF8⟩
    (accept c ticket request).1.accepting = true ∧
      ((∃ response, (accept c ticket request).2 = .responded response) ∨
        ∃ hash, (accept c ticket request) = (c.step (.finalize hash ticket), .awaiting (.nat id))) := by
  intro request
  simp only [request, accept_post]
  rcases respond_frame_cases c ticket hid hmethod params with ⟨code, message, hrespond⟩ | ⟨items, hran⟩
  · rw [hrespond]
    exact ⟨hlive, .inl ⟨_, rfl⟩⟩
  · generalize respond c ticket (Rpc.Request.new id method params).frame.toUTF8 = p at hran
    cases hran with
    | answered c' r _ hkept => exact ⟨hkept.trans hlive, .inl ⟨_, rfl⟩⟩
    | awaiting hash ha =>
      refine ⟨?_, .inr ⟨hash, rfl⟩⟩
      simp only [Chain.step, Chain.finalize?, Chain.send?_of_accepting ha]
      exact ha

/-- An open client posts an exchange to a node whose committer is there. The node responds, at the
latest once the committer has nothing before it, and what the response says ends this exchange and
no other. -/
theorem posted_run (config : ChainConfig) (ops : List Chain.Event) (calls : List Client.Event)
    (ticket : Nat) (path : String) (e : Exchange)
    (hlive : ((Chain.start config).run ops).accepting = true)
    (hopen : (Client.run {} calls).closed = false) (he : e ∈ (Client.run {} calls).exchanges)
    (hstage : e.stage = .sending ∨ e.stage = .waiting) (hslot : e.slot = .empty)
    (hmethod : e.method ≠ "") (hid : e.id < limit64) :
    let c := (Chain.start config).run ops
    let client := Client.run {} calls
    let request : Node.HttpRequest := ⟨"POST", path, e.frame.toUTF8⟩
    let c' := (Node.accept c ticket request).1
    (∃ turns : List Chain.Event, (∀ turn ∈ turns, turn = .take ∨ turn = .apply) ∧
      (c'.run turns).accepting = true ∧ (c'.run turns).Drained) ∧
    (∀ es, (c'.run es).accepting = true → (c'.run es).Drained →
      ∃ response, Node.Responds c ticket request es response) ∧
    ∀ es response, Node.Responds c ticket request es response →
      ∃ inbound reply,
        Http.receive e.frame (.response response.status response.body) = .ok inbound ∧
        client.routeFrame inbound = client.deliver e.id reply ∧
        (((client.routeFrame inbound).step (.sent e.id (.ok ()))).step (.receive e.id)).stage? e.id =
          some (.ended (.ok reply)) ∧
        Node.Says response.body e.method (reply.outcome e.method) := by
  intro c client request c'
  have hclient : Client.Coherent client := Client.coherent_run calls
  obtain ⟨_, _, -, hchain⟩ := Chain.consistent_run config ops
  obtain ⟨hlive', hposted⟩ := Node.accepting_post hlive ticket path hid hmethod e.params
  obtain ⟨steps, hsteps⟩ : ∃ steps, c' = c.run steps := by
    rcases Node.accept_changed c ticket request with hsame | ⟨step, hstep⟩
    · exact ⟨[], hsame⟩
    · exact ⟨[step], hstep⟩
  obtain ⟨_, _, -, hchain'⟩ := Chain.consistent_run config (ops ++ steps)
  rw [Chain.run_append] at hchain'
  rw [← show c' = ((Chain.start config).run ops).run steps from hsteps] at hchain'
  refine ⟨hchain'.drain hlive', fun es haccepting hdrained => ?_, fun es response hresponds => ?_⟩
  · rcases hposted with ⟨response, hresponse⟩ | ⟨hash, hqueued⟩
    · exact ⟨response, .atOnce response hresponse⟩
    · have hc' : c' = c.step (.finalize hash ticket) := congrArg Prod.fst hqueued
      rw [hc'] at haccepting hdrained
      obtain ⟨verdict, hanswer⟩ := hchain.answers_finalize hlive hash ticket haccepting hdrained
      rw [← hc'] at hanswer
      exact ⟨_, .afterwards (.nat e.id) verdict (congrArg Prod.snd hqueued) hanswer⟩
  · have hpending : e.id ∈ client.pending := by
      refine (hclient.mem_pending he).mpr ⟨?_, hslot⟩
      rcases hstage with hs | hs <;> rw [hs] <;> rfl
    obtain ⟨reply, hcarries⟩ := hresponds.carries hid hmethod
    obtain ⟨inbound, hreceive, hbrings⟩ := hcarries.receive hid e.method e.params
    have hrouted := hbrings.routeFrame hopen hpending
    refine ⟨inbound, reply, hreceive, hrouted, ?_, hcarries.says hid e.method⟩
    rw [hrouted]
    exact Client.stage?_delivered (hclient.find?_eq he) hstage reply

theorem posted_finalization :
    let client := Client.run {} [.start "engine_finalizeBlock" [.ofWord sentinelHash], .check 1]
    let frame := (Rpc.Request.new 1 "engine_finalizeBlock" [.ofWord sentinelHash]).frame
    ∃ turns response, Node.Responds (Chain.start {}) 0 ⟨"POST", "/", frame.toUTF8⟩ turns response ∧
      ∃ inbound reply, Http.receive frame (.response response.status response.body) = .ok inbound ∧
        client.routeFrame inbound = client.deliver 1 reply ∧
        Node.Says response.body "engine_finalizeBlock" (reply.outcome "engine_finalizeBlock") := by
  intro client frame
  obtain ⟨⟨turns, -, hlive, hdrained⟩, hresponds, hrouted⟩ := posted_run {} []
    [.start "engine_finalizeBlock" [.ofWord sentinelHash], .check 1] 0 "/"
    ⟨1, "engine_finalizeBlock", [.ofWord sentinelHash], .sending, .empty⟩ rfl rfl
    (List.mem_singleton.mpr rfl) (.inl rfl) rfl (by decide) (by decide)
  obtain ⟨response, hresponse⟩ := hresponds turns hlive hdrained
  obtain ⟨inbound, reply, hreceive, hroute, -, hsays⟩ := hrouted turns response hresponse
  exact ⟨turns, response, hresponse, inbound, reply, hreceive, hroute, hsays⟩

end SealedChain
