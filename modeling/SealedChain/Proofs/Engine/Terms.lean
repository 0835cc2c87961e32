import SealedChain.Proofs.Engine.Deployment
import SealedChain.Proofs.Engine.Faithful

/-!
# What the answer of a call means

A call that settles and ends without an error says that the hash of its acknowledgment is visible; a
call that seals a block says that its acknowledgment names one. The terms of a call are what its
answer has to mean. They hold at every point of the call, of what it would end with from there, and
a faithful reply keeps them.
-/
namespace SealedChain

def Client.Requested (c : Client) (request : Rpc.Request) : Prop :=
  ∃ x ∈ c.exchanges, x.request = request

theorem Client.Change.requested {c c' : Client} {event : Client.Event}
    (h : Client.Change c event c') {request : Rpc.Request} (hr : c.Requested request) :
    c'.Requested request := by
  obtain ⟨x, hx, rfl⟩ := hr
  exact h.kept hx

theorem Client.Coherent.requested_inj {c : Client} (h : Client.Coherent c)
    {request request' : Rpc.Request} (hr : c.Requested request) (hr' : c.Requested request')
    (hid : request.id = request'.id) : request = request' := by
  obtain ⟨x, hx, rfl⟩ := hr
  obtain ⟨x', hx', rfl⟩ := hr'
  rw [h.eq_of_id hx hx' hid]

/-- Whether an engine waits until a block is visible. -/
def Settlement.awaits : Settlement → Bool
  | .awaitBlock .. => true
  | .fixedDelay _ => false

/-- Whether a call waits for the block of the acknowledgment that it tells of. -/
def Call.settles : Call → Bool
  | .settle _ => true
  | .command _ settles => settles
  | .query .. | .exchange .. => false

inductive Call.Tells : Call → CallAnswer → Acknowledgment → Prop
  | settle (ack : Acknowledgment) : Tells (.settle ack) .settled ack
  | command (c : EngineCommand) (settles : Bool) (ack : Acknowledgment) :
      Tells (.command c settles) (.acknowledged ack) ack

theorem Call.Tells.unique {call : Call} {answer : CallAnswer} {ack ack' : Acknowledgment}
    (h : call.Tells answer ack) (h' : call.Tells answer ack') : ack = ack' := by
  cases h <;> cases h' <;> rfl

/-- What the answer of a call is held to. -/
structure Terms where
  call : Call
  awaits : Bool
  visible : Hash → Prop
  named : Hash → Prop
  /-- The first id that its exchanges can have. -/
  first : Nat

namespace Terms

/-- The acknowledgment names a block, if the call seals one. -/
def Names (t : Terms) (ack : Acknowledgment) : Prop :=
  ∀ command settles, t.call = .command (.createBlock command) settles →
    ∃ hash, ack.hash? = some hash ∧ t.named hash

/-- The call may end with the answer. -/
structure Keeps (t : Terms) (answer : CallAnswer) : Prop where
  names : ∀ ack, t.call.Tells answer ack → t.Names ack
  shows : t.awaits = true → t.call.settles = true → ∀ ack hash, t.call.Tells answer ack →
    ack.hash? = some hash → t.visible hash

def Polls (t : Terms) (polling : Polling) : Prop :=
  ∃ ack, t.call.Tells polling.answer ack ∧ ack.hash? = some polling.hash ∧ t.Names ack

def Wakes (t : Terms) : Waking → Prop
  | .answer answer => t.Keeps answer
  | .poll polling => t.Polls polling

def GoesOn (t : Terms) : Onward → Prop
  | .ended (.ok answer) => t.Keeps answer
  | .ended (.error _) => True
  | .sleep _ waking => t.Wakes waking

inductive Asks (t : Terms) : String → List Json → Goal → Prop
  | query (q : Query CallAnswer) (timeout : Option Millis) (call : t.call = .query q timeout) :
      Asks t q.method q.params (.query q)
  | reply (method : String) (params : List Json) (call : t.call = .exchange method params) :
      Asks t method params .reply
  | acknowledge (c : EngineCommand) (settles : Bool) (call : t.call = .command c settles) :
      Asks t c.method c.params (.acknowledge settles)
  | poll (polling : Polling) (polls : t.Polls polling) :
      Asks t polling.query.method polling.query.params (.poll polling)

def Runs (t : Terms) (client : Client) : Errand → Prop
  | .exchange method params _ goal => t.Asks method params goal
  | .await exchange => ∃ request, client.Requested request ∧ request.id = exchange.id ∧
      t.first ≤ exchange.id ∧ t.Asks request.method request.params exchange.goal
  | .settle ack answer => t.call.Tells answer ack ∧ t.Names ack
  | .sleep waking => t.Wakes waking

def Stands (t : Terms) (client : Client) : Standing → Prop
  | .under errand => t.Runs client errand
  | .ended (.ok answer) => t.Keeps answer
  | .ended (.error _) => True

variable {t : Terms}

theorem keeps_of_not_tells {answer : CallAnswer} (h : ∀ ack, ¬ t.call.Tells answer ack) :
    t.Keeps answer where
  names ack htells := absurd htells (h ack)
  shows _ _ ack _ htells _ := absurd htells (h ack)

theorem runs_errand (client : Client) (config : ClientConfig) :
    t.Runs client (t.call.errand config) := by
  cases hcall : t.call with
  | query q timeout => exact .query q timeout hcall
  | exchange method params => exact .reply method params hcall
  | command c settles => exact .acknowledge c settles hcall
  | settle ack =>
    refine ⟨hcall ▸ .settle ack, fun command settles h => ?_⟩
    rw [hcall] at h
    cases h

theorem goesOn_settlement {settlement : Settlement} (hawaits : settlement.awaits = t.awaits)
    (now : Millis) {ack : Acknowledgment} {answer : CallAnswer} (htells : t.call.Tells answer ack)
    (hnames : t.Names ack) : t.GoesOn (settlement.onward now ack answer) := by
  have paused : (t.awaits = true → ack.hash? = none) → t.Keeps answer := by
    intro hnone
    refine ⟨fun ack' htells' => htells.unique htells' ▸ hnames, ?_⟩
    intro ha _ ack' hash htells' hhash
    obtain rfl := htells.unique htells'
    simp [hnone ha] at hhash
  have pausing : t.Keeps answer → ∀ delay : Millis,
      t.GoesOn (if delay = 0 then .ended (.ok answer) else .sleep delay (.answer answer)) := by
    intro hkeeps delay
    split <;> exact hkeeps
  unfold Settlement.onward
  cases settlement with
  | fixedDelay delay =>
    refine pausing (paused fun ha => ?_) delay
    rw [← hawaits] at ha
    cases ha
  | awaitBlock interval timeout =>
    cases hhash : ack.hash? with
    | none => exact pausing (paused fun _ => hhash) _
    | some hash => exact ⟨ack, htells, hhash, hnames⟩

theorem goesOn_polling {polling : Polling} (h : t.Polls polling) (now : Millis)
    {answer : Except ClientError (Option BlockRecord)}
    (hfound : ∀ record, answer = .ok (some record) → t.visible polling.hash) :
    t.GoesOn (polling.onward now answer) := by
  unfold Polling.onward
  match answer with
  | .error e => trivial
  | .ok none =>
    simp only [Except.map, Option.isSome_none, PollVerdict.of]
    split
    · rename_i heq
      split at heq <;> cases heq
    · trivial
    · trivial
    · exact h
  | .ok (some record) =>
    obtain ⟨ack, htells, hhash, hnames⟩ := h
    refine ⟨fun ack' htells' => htells.unique htells' ▸ hnames, ?_⟩
    intro _ _ ack' hash htells' hhash'
    obtain rfl := htells.unique htells'
    obtain rfl := Option.some.inj (hhash.symm.trans hhash')
    exact hfound record rfl

theorem goesOn_goal {settlement : Settlement} (hawaits : settlement.awaits = t.awaits)
    (now : Millis) {id : Nat} {method : String} {params : List Json} {goal : Goal}
    (hasks : t.Asks method params goal) {reply : Rpc.Reply}
    (hreply : Faithful t.visible t.named (.new id method params) reply) :
    t.GoesOn (goal.onward settlement now method reply) := by
  cases hasks with
  | query q timeout hcall =>
    rw [Goal.onward]
    cases q.answer reply with
    | error e => trivial
    | ok answer =>
      refine keeps_of_not_tells fun ack htells => ?_
      rw [hcall] at htells
      cases htells
  | reply method params hcall =>
    refine keeps_of_not_tells fun ack htells => ?_
    rw [hcall] at htells
    cases htells
  | acknowledge c settles hcall =>
    rw [Goal.onward]
    cases hack : Acknowledgment.ofReply c.method reply with
    | error e => trivial
    | ok ack =>
      have htells : t.call.Tells (.acknowledged ack) ack := hcall ▸ .command c settles ack
      have hnames : t.Names ack := by
        intro command settles' hcreation
        obtain ⟨rfl, -⟩ := Call.command.inj (hcall.symm.trans hcreation)
        exact hreply.acknowledged command ack rfl hack
      cases settles with
      | true => exact goesOn_settlement hawaits now htells hnames
      | false =>
        refine ⟨fun ack' htells' => htells.unique htells' ▸ hnames, fun _ hsettles => ?_⟩
        rw [hcall] at hsettles
        cases hsettles
  | poll polling hpolls =>
    exact goesOn_polling hpolls now fun record hanswer =>
      hreply.found polling.hash record rfl hanswer

theorem Stands.mono {client client' : Client} {standing : Standing} (h : t.Stands client standing)
    (hr : ∀ request, client.Requested request → client'.Requested request) :
    t.Stands client' standing := by
  match standing with
  | .under (.await exchange) =>
    obtain ⟨request, hrequest, hrest⟩ := h
    exact ⟨request, hr request hrequest, hrest⟩
  | .under (.exchange ..) | .under (.settle ..) | .under (.sleep _) => exact h
  | .ended (.ok _) | .ended (.error _) => exact h

theorem GoesOn.stands {onward : Onward} (h : t.GoesOn onward) (client : Client) :
    t.Stands client onward.standing := by
  match onward with
  | .ended (.ok _) | .ended (.error _) | .sleep _ _ => exact h

end Terms

end SealedChain
