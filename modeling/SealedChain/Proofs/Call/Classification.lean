import SealedChain.Proofs.Client.Fate
import SealedChain.Proofs.Client.Routing
import SealedChain.Proofs.Rpc.Frame
import SealedChain.Session.Run

/-!
# Two readings of a reply

A call for the result of its method and a call that has to be acknowledged look at the reply to
their exchange in different ways. What each ends with can be told from the members of the reply, and
so can how they compare: an error fails both alike, and an acknowledgment is a result that is true.
-/
namespace SealedChain

def Call.send (method : String) (params : List Json) (timeout : Option Millis) : Call :=
  .query ((Query.send method params).map .value) timeout

def Call.acknowledge (method : String) (params : List Json) : Call :=
  .command ⟨method, params⟩ false

/-- What a call for the result of a method and one that has to be acknowledged end with, by the
members of the reply. -/
inductive Classified (method : String) (v : Json) (reply : Rpc.Reply) :
    Except ClientError CallAnswer → Except ClientError CallAnswer → Prop
  | failed (error : Json) (e : Rpc.ErrorObject) (found : v.memberAt "error" 3 = some error)
      (named : error ≠ .null) (read : Rpc.ErrorObject.ofJson? error = some e) :
      Classified method v reply (.error (.protocol method e)) (.error (.protocol method e))
  | acknowledged (r : Json)
      (noError : v.memberAt "error" 3 = none ∨ v.memberAt "error" 3 = some .null)
      (found : v.memberAt "result" 2 = some r) (truthy : r.isTruthy = true) :
      Classified method v reply (.ok (.value r)) (.ok (.acknowledged ⟨r⟩))
  | falsy (r : Json)
      (noError : v.memberAt "error" 3 = none ∨ v.memberAt "error" 3 = some .null)
      (found : v.memberAt "result" 2 = some r) (falsy : r.isTruthy = false) :
      Classified method v reply (.ok (.value r)) (.error (.engine reply))
  | neither (noError : v.memberAt "error" 3 = none ∨ v.memberAt "error" 3 = some .null)
      (noResult : v.memberAt "result" 2 = none) :
      Classified method v reply (.error (.malformedReply method reply)) (.error (.engine reply))

/-- The members of a reply decide what both calls end with. -/
theorem classified_ofJson? {v : Json} {reply : Rpc.Reply} (h : Rpc.Reply.ofJson? v = some reply)
    (method : String) (params : List Json) :
    Classified method v reply (((Query.send method params).map .value).answer reply)
      ((Acknowledgment.ofReply method reply).map .acknowledged) := by
  obtain ⟨version, id, result, error⟩ := reply
  obtain ⟨hresult, ⟨hnone, herror⟩ | ⟨error, e, hfound, hnull, hread, herror⟩⟩ :=
    Rpc.Reply.ofJson?_members h
  · obtain rfl := herror
    cases result with
    | none => exact .neither hnone hresult.symm
    | some r =>
      simp only [Acknowledgment.ofReply]
      cases htrue : r.isTruthy with
      | true => exact .acknowledged r hnone hresult.symm htrue
      | false => exact .falsy r hnone hresult.symm htrue
  · obtain rfl := herror
    exact .failed error e hfound hnull hread

namespace Classified

variable {method : String} {v : Json} {reply : Rpc.Reply}
  {sent acknowledged : Except ClientError CallAnswer}

theorem acknowledged_iff (h : Classified method v reply sent acknowledged) (r : Json) :
    acknowledged = .ok (.acknowledged ⟨r⟩) ↔ sent = .ok (.value r) ∧ r.isTruthy = true := by
  cases h with
  | failed | neither => simp
  | acknowledged r' _ _ htrue =>
    constructor
    · rintro ⟨⟩
      exact ⟨rfl, htrue⟩
    · rintro ⟨⟨⟩, -⟩
      rfl
  | falsy r' _ _ hfalse =>
    constructor
    · rintro ⟨⟩
    · rintro ⟨⟨⟩, htrue⟩
      rw [hfalse] at htrue
      cases htrue

theorem protocol_iff (h : Classified method v reply sent acknowledged) (m : String)
    (e : Rpc.ErrorObject) :
    acknowledged = .error (.protocol m e) ↔ sent = .error (.protocol m e) := by
  cases h <;> simp

end Classified

namespace Session

@[simp] theorem results_finish (s : Session) (n : Nat) (result : TaskResult) :
    (s.finish n result).results = s.results ++ [(n, result)] := by
  unfold finish
  split <;> rfl

variable {s : Session} {line : Line} {n : Nat} {x : Exchange} {reply : Rpc.Reply}
  {result : Except ClientError CallAnswer}

theorem results_concludeExchange {limit : Millis} {goal : Goal}
    (hx : line.client.find? x.id = some x) (hstage : x.stage = .ended (.ok reply))
    (honward : goal.onward line.config.settlement s.now x.method reply = .ended result) :
    (s.concludeExchange n line ⟨x.id, limit, goal⟩).results = s.results ++ [(n, .call result)] := by
  obtain ⟨id, method, params, stage, slot⟩ := x
  obtain rfl : stage = .ended (.ok reply) := hstage
  simp only [concludeExchange, hx, honward, goOnward, results_finish]
  rfl

theorem results_pollExchange {limit : Millis} {goal : Goal}
    (hx : line.client.find? x.id = some x) (hstage : x.stage = .waiting)
    (hslot : x.slot = .filled reply)
    (honward : goal.onward line.config.settlement s.now x.method reply = .ended result) :
    (s.pollExchange n line ⟨x.id, limit, goal⟩).results = s.results ++ [(n, .call result)] := by
  let ended : Exchange := { x with stage := .ended (.ok reply) }
  have hreceive : line.client.receive x.id = line.client.finish x.id (.ended (.ok reply)) := by
    obtain ⟨id, method, params, stage, slot⟩ := x
    obtain rfl : stage = .waiting := hstage
    obtain rfl : slot = .filled reply := hslot
    simp only [Client.receive, hx]
  have hended : (line.client.receive x.id).find? ended.id = some ended := by
    rw [hreceive]
    exact Client.find?_finish hx _
  -- an exchange that has ended does not run out of time
  have htime : (line.client.receive x.id).timeOut x.id limit = line.client.receive x.id := by
    have hfound : (line.client.receive x.id).find? x.id = some ended := hended
    simp only [Client.timeOut, hfound, ended]
  unfold pollExchange
  simp only [Client.step, htime, ite_self]
  exact results_concludeExchange (x := ended) hended rfl honward

/-- The session once a value has been routed to its client. -/
def routed (s : Session) (line : Line) (v : Json) : Session :=
  s.setLine { line with client := line.client.element v }

/-- A value is routed to the client of a session, and a task that makes a call looks for the reply to
its exchange: in its turn if it waits for the reply, else once its frame has been sent. -/
inductive Looked (s : Session) (line : Line) (v : Json) (n : Nat) (x : Exchange) (call : Call) :
    Session → Prop
  | waiting (limit : Millis) (goal : Goal)
      (errand : call.errand line.config = .exchange x.method x.params limit goal)
      (task : s.tasks[n]? = some (.call (.await ⟨x.id, limit, goal⟩)))
      (stage : x.stage = .waiting) : Looked s line v n x call ((s.routed line v).runTask n)
  | sending (limit : Millis) (goal : Goal)
      (errand : call.errand line.config = .exchange x.method x.params limit goal)
      (stage : x.stage = .sending) : Looked s line v n x call
        ((s.routed line v).afterSending n { line with client := line.client.element v }
          ⟨x.id, limit, goal⟩ (.ok ()))

theorem results_looked {v : Json} {call : Call} {s' : Session}
    (hx : line.client.find? x.id = some x) (hp : x.id ∈ line.client.pending)
    (hopen : line.client.closed = false) (hv : Client.RepliesTo v x.id reply)
    (honward : ∀ method params limit goal, call.errand line.config =
      .exchange method params limit goal →
      goal.onward line.config.settlement s.now method reply = .ended result)
    (h : Looked s line v n x call s') : s'.results = s.results ++ [(n, .call result)] := by
  let filled : Exchange := { x with slot := .filled reply }
  have hfilled : (line.client.element v).find? filled.id = some filled := by
    rw [Client.element_deliver hopen hv.1 hv.2 hp]
    exact Client.find?_modify hx fun _ => rfl
  cases h with
  | waiting limit goal herrand htask hstage =>
    have hturn : (s.routed line v).runTask n = (s.routed line v).pollExchange n
        { line with client := line.client.element v } ⟨x.id, limit, goal⟩ := by
      simp only [runTask, routed, setLine, htask, runErrand]
    rw [hturn]
    exact results_pollExchange (x := filled) hfilled hstage rfl (honward _ _ _ _ herrand)
  | sending limit goal herrand hstage =>
    have hsent : (line.client.element v).sent x.id (.ok ()) =
        (line.client.element v).modify x.id fun e => { e with stage := .waiting } := by
      simp only [Client.sent, Client.stage?_eq hfilled, filled, hstage]
    unfold afterSending
    simp only [Client.step, hsent]
    exact results_pollExchange (x := { filled with stage := .waiting })
      (Client.find?_stage hfilled .waiting) rfl rfl (honward _ _ _ _ herrand)

end Session

/-- Of one reply, a call for a result and a call that has to be acknowledged make the same error if
it has one that is not null; else the result decides for both, and without either both fail, each in
its own way. -/
theorem classified_reply {s : Session} {line : Line} {x : Exchange} {v : Json} {reply : Rpc.Reply}
    (hx : line.client.find? x.id = some x) (hp : x.id ∈ line.client.pending)
    (hopen : line.client.closed = false) (hv : Client.RepliesTo v x.id reply) :
    ∃ sent acknowledged, Classified x.method v reply sent acknowledged ∧
      (∀ n timeout s', s.Looked line v n x (.send x.method x.params timeout) s' →
        s'.results = s.results ++ [(n, .call sent)]) ∧
      (∀ n s', s.Looked line v n x (.acknowledge x.method x.params) s' →
        s'.results = s.results ++ [(n, .call acknowledged)]) ∧
      (∀ r, acknowledged = .ok (.acknowledged ⟨r⟩) ↔ sent = .ok (.value r) ∧ r.isTruthy = true) ∧
      ∀ m e, acknowledged = .error (.protocol m e) ↔ sent = .error (.protocol m e) := by
  have hclassified := classified_ofJson? hv.1 x.method x.params
  refine ⟨_, _, hclassified, fun n timeout s' hlooked => ?_, fun n s' hlooked => ?_,
    hclassified.acknowledged_iff, hclassified.protocol_iff⟩
  · refine Session.results_looked hx hp hopen hv (fun method params limit goal herrand => ?_) hlooked
    cases herrand
    rfl
  · refine Session.results_looked hx hp hopen hv (fun method params limit goal herrand => ?_) hlooked
    cases herrand
    simp only [Goal.onward]
    cases Acknowledgment.ofReply x.method reply <;> rfl

theorem classified_empty :
    let line : Line := {
      link := .peer true, config := {},
      client := Client.run {} [.start "m" [], .check 1, .sent 1 (.ok ())] }
    let x : Exchange := { id := 1, method := "m", params := [], stage := .waiting }
    let v : Json := .array [.string "2.0", .nat 1, .array [], .null]
    let reply : Rpc.Reply := .success (.nat 1) (.array [])
    let session := fun goal : Goal =>
      { chain := Chain.start {}, tasks := [.call (.await ⟨1, 30000, goal⟩)] : Session }
    line.client.find? x.id = some x ∧ x.id ∈ line.client.pending ∧ line.client.closed = false ∧
      Client.RepliesTo v x.id reply ∧
      (((session (.query ((Query.send "m" []).map .value))).routed line v).runTask 0).results =
        [(0, .call (.ok (.value (.array []))))] ∧
      (((session (.acknowledge false)).routed line v).runTask 0).results =
        [(0, .call (.error (.engine reply)))] := by
  intro line x v reply session
  have hx : line.client.find? x.id = some x := rfl
  have hp : x.id ∈ line.client.pending := by decide
  have hv : Client.RepliesTo v x.id reply := ⟨rfl, rfl⟩
  have hresult : v.memberAt "result" 2 = some (.array []) := rfl
  refine ⟨hx, hp, rfl, hv, ?_, ?_⟩
  · obtain ⟨sent, acknowledged, hclassified, hsent, -⟩ :=
      classified_reply (s := session (.query ((Query.send "m" []).map .value))) hx hp rfl hv
    rw [hsent 0 none _ (.waiting 30000 _ rfl rfl rfl)]
    cases hclassified with
    | failed error e hfound hnull => exact absurd (Option.some.inj hfound).symm hnull
    | acknowledged r _ hfound | falsy r _ hfound =>
      rw [hresult] at hfound
      obtain rfl := Option.some.inj hfound
      rfl
    | neither _ hnone => cases hnone
  · obtain ⟨sent, acknowledged, hclassified, -, hacknowledged, -⟩ :=
      classified_reply (s := session (.acknowledge false)) hx hp rfl hv
    rw [hacknowledged 0 _ (.waiting 30000 _ rfl rfl rfl)]
    cases hclassified with
    | failed error e hfound hnull => exact absurd (Option.some.inj hfound).symm hnull
    | acknowledged r _ hfound htrue =>
      rw [hresult] at hfound
      obtain rfl := Option.some.inj hfound
      cases htrue
    | falsy => rfl
    | neither _ hnone => cases hnone

end SealedChain
