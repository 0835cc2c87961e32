import SealedChain.Proofs.Client.Routing
import SealedChain.Proofs.Json.Echo
import SealedChain.Proofs.Node.Answer

/-!
# Errors adopted over HTTP

A response over HTTP that holds an error without an id is brought in under the id of the frame that
was posted, every other response as it is. The transport takes any member `error` for an error, a
reader of replies only one that is not null. Where the two agree, no call gets a result that the
response does not hold under the id of the call. An object without an id whose error is null is
brought in under the id of the call all the same, and if it has a result, the call gets it.
-/
namespace SealedChain

open Json.Reader (maxDepth)

namespace Client

theorem repliesTo_of_takes {es : List Event} {k : Nat} {w : Json} {e : Exchange}
    {reply : Rpc.Reply} (hk : es[k]? = some (.element w)) (htakes : (after es k).Takes w e.id)
    (he : e ∈ (run {} es).exchanges) (hended : e.stage = .ended (.ok reply)) :
    RepliesTo w e.id reply := by
  have hfilled := (coherent_run es).answered e he reply hended
  have hend : after es es.length = run {} es := by rw [after, List.take_length]
  rw [← hend] at he
  obtain ⟨j, v, hj, hv, hid, htakes'⟩ := filled_after es es.length (Nat.le_refl _) he hfilled
  rcases Nat.lt_trichotomy j k with hlt | rfl | hgt
  · exact absurd htakes (not_takes_later hj htakes' hlt)
  · obtain rfl : v = w := Event.element.inj (Option.some.inj (hj.symm.trans hk))
    exact ⟨hv, hid⟩
  · exact absurd htakes' (not_takes_later hk htakes hgt)

end Client

namespace Rpc.Reply

theorem payload_ofJson? {members : List (String × Json)} {error : Json} {reply : Reply}
    (herror : Json.lookup "error" members = some error) (hnull : error ≠ .null)
    (h : ofJson? (.object members) = some reply) : ∃ e, reply.payload = .error e := by
  have hmember : (Json.object members).memberAt "error" 3 = some error := herror
  obtain ⟨-, ⟨hnone, -⟩ | ⟨_, e, -, -, -, he⟩⟩ := ofJson?_members h
  · rw [hmember] at hnone
    rcases hnone with hnone | hnone
    · cases hnone
    · exact absurd (Option.some.inj hnone) hnull
  · exact ⟨e, by rw [payload, he]⟩

theorem of_payload_result {reply : Reply} {result : Json} (h : reply.payload = .result result) :
    reply.error = none ∧ reply.result = some result := by
  unfold payload at h
  split at h
  · cases h
  · rename_i found herror hfound
    exact ⟨herror, by rw [hfound, Payload.result.inj h]⟩
  · cases h

end Rpc.Reply

namespace Http

def Anonymous (v : Json) : Prop := ∀ id, v.get? "id" = some id → id = .null

def CarriesError (v : Json) : Prop := ∃ error, v.get? "error" = some error ∧ error ≠ .null

/-- A value without an id that has null as its error. -/
def NullError (v : Json) : Prop := Anonymous v ∧ v.get? "error" = some .null

def underId (id : Nat) (members : List (String × Json)) : String :=
  (Json.object (Json.insertMember "id" (.nat id) members)).render

/-- The inbound frame is the body, unless that is an error without an id: then the error is inbound
under the id of the request. -/
structure AdoptsErrors (id : Nat) (body : String) (v : Json) (inbound : String) : Prop where
  adopted : ∀ members, v = .object members → Anonymous v → CarriesError v →
    inbound = underId id members
  kept : ¬ (Anonymous v ∧ CarriesError v) → inbound = body

/-- Whatever happens to a client, a call to which a value of the inbound frame is delivered and that
ends with a result ends with a reply that the body holds under the id of the call. -/
def OwnResults (body inbound : String) : Prop :=
  ∀ (es : List Client.Event) (k : Nat) (w : Json), w ∈ elementsOf inbound →
    es[k]? = some (.element w) → ∀ e ∈ (Client.run {} es).exchanges,
    (Client.after es k).Takes w e.id → ∀ reply result, e.stage = .ended (.ok reply) →
    reply.payload = .result result → ∃ v ∈ elementsOf body, Client.RepliesTo v e.id reply

variable {id : Nat} {members : List (String × Json)} {v : Json} {body : String}

theorem anonymous_object : Anonymous (.object members) ↔
    Json.lookup "id" members = none ∨ Json.lookup "id" members = some .null := by
  simp only [Anonymous, Json.get?]
  cases Json.lookup "id" members <;> simp

theorem adopt?_anonymous (id : Json) (h : Anonymous (.object members)) :
    adopt? id (.object members) =
      (Json.lookup "error" members).map fun _ => .object (Json.insertMember "id" id members) := by
  rcases anonymous_object.mp h with hid | hid <;>
    cases herror : Json.lookup "error" members <;> simp [adopt?, hid, herror]

theorem adopt?_of_not (id : Json) (h : ¬ Anonymous v) : adopt? id v = none := by
  cases v with
  | object members =>
    rw [anonymous_object, not_or] at h
    cases hid : Json.lookup "id" members with
    | none => exact absurd hid h.1
    | some given =>
      cases given with
      | null => exact absurd hid h.2
      | _ => simp [adopt?, hid]
  | _ => rfl

theorem receive_cases (hid : id < limit64) (method : String) (params : List Json) {status : Nat}
    (hlow : 200 ≤ status) (hhigh : status < 300) (hparse : Json.parse body = some v) :
    (∃ members error, v = .object members ∧ Anonymous v ∧
      Json.lookup "error" members = some error ∧
      receive (Rpc.Request.new id method params).frame (.response status body) =
        .ok (underId id members)) ∨
    ((Anonymous v → v.get? "error" = none) ∧
      receive (Rpc.Request.new id method params).frame (.response status body) = .ok body) := by
  have hreceive : receive (Rpc.Request.new id method params).frame (.response status body) =
      .ok (((adopt? (.nat id) v).map Json.render).getD body) := by
    rw [receive, if_neg (by omega)]
    simp only [hparse, Rpc.Request.requestId?_frame hid, Option.bind_some]
    cases adopt? (.nat id) v <;> rfl
  rw [hreceive]
  by_cases hanonymous : Anonymous v
  · cases v with
    | object members =>
      rw [adopt?_anonymous _ hanonymous]
      cases herror : Json.lookup "error" members with
      | some error => exact .inl ⟨members, error, rfl, hanonymous, herror, rfl⟩
      | none => exact .inr ⟨fun _ => herror, rfl⟩
    | _ => exact .inr ⟨fun _ => rfl, rfl⟩
  · rw [adopt?_of_not _ hanonymous]
    exact .inr ⟨fun h => absurd h hanonymous, rfl⟩

theorem mem_elementsOf_underId (hid : id < limit64) (ho : Json.Ordered members) {w : Json}
    (hw : w ∈ elementsOf (underId id members)) :
    ∃ read, w = .object read ∧ Json.lookup "id" read = some (.nat id) ∧
      ∀ key ≠ "id", Option.Rel (Json.Echoes 126) (Json.lookup key members)
        (Json.lookup key read) := by
  unfold elementsOf at hw
  split at hw
  · cases hw
  · rename_i items hparse
    obtain ⟨_, hread, -⟩ := Json.parse_object_echo (ho.insertMember "id" _) hparse
    cases hread
  · rename_i v _ hparse
    obtain rfl := List.mem_singleton.mp hw
    obtain ⟨read, rfl, hecho⟩ := Json.parse_object_echo (ho.insertMember "id" _) hparse
    refine ⟨read, rfl, ?_, fun key hkey => ?_⟩
    · have hrel := hecho "id"
      rw [Json.lookup_insertMember, if_pos rfl] at hrel
      obtain ⟨found, hfound, hread⟩ := Json.Echoes.of_rel hrel
      rw [hfound, hread.read (Json.fits_nat hid 126)]
      rfl
    · have hrel := hecho key
      rwa [Json.lookup_insertMember, if_neg hkey] at hrel

theorem underId_ne (hid : id < limit64) (hparse : Json.parse body = some (.object members))
    (h : Anonymous (.object members)) : underId id members ≠ body := by
  rintro rfl
  have hw : .object members ∈ elementsOf (underId id members) := by simp [elementsOf, hparse]
  obtain ⟨read, hread, hfound, -⟩ := mem_elementsOf_underId hid (Json.ordered_of_parse hparse) hw
  have hnull := h (.nat id) (by rw [hread]; exact hfound)
  cases hnull

theorem ownResults_self (body : String) : OwnResults body body :=
  fun _ _ w hw hk _ he htakes _ _ hended _ =>
    ⟨w, hw, Client.repliesTo_of_takes hk htakes he hended⟩

theorem ownResults_underId (hid : id < limit64) (ho : Json.Ordered members)
    (h : CarriesError (.object members)) (body : String) : OwnResults body (underId id members) := by
  intro es k w hw hk e he htakes reply result hended hresult
  obtain ⟨error, herror, hnull⟩ := h
  obtain ⟨read, rfl, -, hecho⟩ := mem_elementsOf_underId hid ho hw
  have hrel := hecho "error" (by decide)
  rw [show Json.lookup "error" members = some error from herror] at hrel
  obtain ⟨found, hfound, hread⟩ := Json.Echoes.of_rel hrel
  obtain ⟨_, hpayload⟩ := Rpc.Reply.payload_ofJson? hfound (fun h => hnull (hread.null h))
    (Client.repliesTo_of_takes hk htakes he hended).1
  rw [hresult] at hpayload
  cases hpayload

/-- An object that is a reply with null as its error is a reply without an error under an id. -/
theorem elementsOf_underId (hid : id < limit64) (ho : Json.Ordered members)
    (herror : Json.lookup "error" members = some .null)
    (hfits : (Json.object members).fits maxDepth = true) {reply : Rpc.Reply}
    (h : Rpc.Reply.ofJson? (.object members) = some reply) :
    ∃ w, elementsOf (underId id members) = [w] ∧ Rpc.Reply.ofJson? w =
      some ⟨reply.version, .nat id, reply.result.map Json.sorted, none⟩ := by
  have hmembers : Json.fitsMembers members 126 = true := by rwa [maxDepth, Json.fits] at hfits
  have hparse := Json.parse_render (v := .object (Json.insertMember "id" (.nat id) members))
    (by rw [maxDepth, Json.fits]; exact Json.fitsMembers_insertMember (Json.fits_nat hid _) hmembers)
  obtain ⟨read, hread, -⟩ := Json.parse_object_echo (ho.insertMember "id" _) hparse
  have hvalues : elementsOf (underId id members) = [.object read] := by
    rw [elementsOf, underId, hparse, hread]
  obtain ⟨_, hsame, hidread, hecho⟩ :=
    mem_elementsOf_underId hid ho (w := .object read) (by simp [hvalues])
  obtain rfl := Json.object.inj hsame
  have hsorted : ∀ key ≠ "id", Json.lookup key read = (Json.lookup key members).map Json.sorted :=
    fun key hkey => Json.eq_map_sorted_of_rel (hecho key hkey) fun v hv =>
      Json.fits_of_lookup hmembers hv
  refine ⟨_, hvalues, ?_⟩
  have hversion : Json.optionalField? "jsonrpc" Json.string? read =
      Json.optionalField? "jsonrpc" Json.string? members := by
    rw [Json.optionalField?, Json.optionalField?, hsorted "jsonrpc" (by decide)]
    cases Json.lookup "jsonrpc" members with
    | none => rfl
    | some v => exact Json.optional?_string?_sorted v
  have hnone : ∀ members, Json.lookup "error" members = some .null →
      Json.optionalField? "error" Rpc.ErrorObject.ofJson? members = some none := by
    intro members h
    rw [Json.optionalField?, h]
    rfl
  have hnoneRead := hnone read (by rw [hsorted "error" (by decide), herror]; rfl)
  simp only [Rpc.Reply.ofJson?, Json.fields?, Option.bind_eq_bind, Option.bind_some,
    hversion, hnone members herror, hnoneRead, Option.bind_eq_some_iff] at h ⊢
  obtain ⟨version, hversion, h⟩ := h
  obtain rfl := Option.some.inj h
  exact ⟨version, hversion, by simp [hidread, hsorted "result"]⟩

theorem adoptsErrors_underId (hid : id < limit64) (hparse : Json.parse body = some (.object members))
    (hanonymous : Anonymous (.object members)) :
    AdoptsErrors id body (.object members) (underId id members) ↔ CarriesError (.object members) := by
  constructor
  · intro h
    by_contra hnot
    exact underId_ne hid hparse hanonymous (h.kept fun hboth => hnot hboth.2)
  · refine fun h => ⟨fun _ heq _ _ => ?_, fun hnot => absurd ⟨hanonymous, h⟩ hnot⟩
    rw [Json.object.inj heq]

theorem adoptsErrors_self (h : Anonymous v → v.get? "error" = none) : AdoptsErrors id body v body := by
  refine ⟨fun members _ hanonymous herror => ?_, fun _ => rfl⟩
  obtain ⟨error, herror, -⟩ := herror
  rw [h hanonymous] at herror
  cases herror

/-- Errors without an id are adopted and nothing else is, and no call gets a result that is not its
own, unless the body is an object without an id whose error is null. -/
theorem adopted_response (hid : id < limit64) (method : String) (params : List Json) {status : Nat}
    (hlow : 200 ≤ status) (hhigh : status < 300) (hparse : Json.parse body = some v) :
    ∃ inbound,
      receive (Rpc.Request.new id method params).frame (.response status body) = .ok inbound ∧
      (AdoptsErrors id body v inbound ↔ ¬ NullError v) ∧
      (¬ NullError v → OwnResults body inbound) ∧
      (NullError v → (∃ members, v = .object members ∧ inbound = underId id members) ∧
        ∀ reply result, v.fits maxDepth = true → Rpc.Reply.ofJson? v = some reply →
          reply.payload = .result result → ∃ w other, elementsOf inbound = [w] ∧
            Client.RepliesTo w id other ∧ other.payload = .result result.sorted) := by
  rcases receive_cases hid method params hlow hhigh hparse with
    ⟨members, error, rfl, hanonymous, herror, hreceive⟩ | ⟨hnone, hreceive⟩
  · have ho := Json.ordered_of_parse hparse
    have hcarries : CarriesError (.object members) ↔ ¬ NullError (.object members) := by
      simp [CarriesError, NullError, hanonymous, Json.get?, herror]
    refine ⟨_, hreceive, (adoptsErrors_underId hid hparse hanonymous).trans hcarries,
      fun h => ownResults_underId hid ho (hcarries.mpr h) body, fun hnull => ⟨⟨members, rfl, rfl⟩, ?_⟩⟩
    intro reply result hfits hreply hresult
    obtain ⟨w, hvalues, hw⟩ := elementsOf_underId hid ho hnull.2 hfits hreply
    refine ⟨w, _, hvalues, ⟨hw, Node.unsigned?_nat hid⟩, ?_⟩
    rw [(Rpc.Reply.of_payload_result hresult).2]
    rfl
  · have hnot : ¬ NullError v := fun h => by
      have herror := h.2
      rw [hnone h.1] at herror
      cases herror
    exact ⟨_, hreceive, iff_of_true (adoptsErrors_self hnone) hnot, fun _ => ownResults_self body,
      fun h => absurd h hnot⟩

theorem adopted_too_large :
    let body := Node.errorText .null .invalidRequest "Request too large"
    let v := Json.ofMembers [("jsonrpc", .string Rpc.version),
      ("error", Node.errorOf .invalidRequest "Request too large"), ("id", .null)]
    7 < limit64 ∧ Json.parse body = some v ∧ ¬ NullError v ∧ ∃ inbound,
      receive (Rpc.Request.new 7 "eth_chainId" []).frame (.response 200 body) = .ok inbound ∧
      AdoptsErrors 7 body v inbound ∧ OwnResults body inbound := by
  intro body v
  have hid : 7 < limit64 := by decide
  have hparse : Json.parse body = some v :=
    Node.parse_answer "error" (Node.readsBack_errorOf _ _) Node.readsBack_null
  have hnot : ¬ NullError v := fun h => by
    have herror := h.2
    rw [Json.get?_ofMembers] at herror
    cases herror
  obtain ⟨inbound, hreceive, hadopts, hown, -⟩ :=
    adopted_response hid "eth_chainId" [] (by decide : 200 ≤ 200) (by decide) hparse
  exact ⟨hid, hparse, hnot, inbound, hreceive, hadopts.mpr hnot, hown hnot⟩

theorem result_adopted :
    let body := "\x7b\"error\":null,\"id\":null,\"result\":true\x7d"
    let inbound := "\x7b\"error\":null,\"id\":1,\"result\":true\x7d"
    let v : Json := .object [("error", .null), ("id", .null), ("result", .bool true)]
    let c := Client.run {} [.start "m" [], .check 1, .sent 1 (.ok ())]
    Json.parse body = some v ∧ ¬ CarriesError v ∧ (∀ id reply, ¬ Client.RepliesTo v id reply) ∧
      receive (Rpc.Request.new 1 "m" []).frame (.response 200 body) = .ok inbound ∧
      inbound ≠ body ∧
      ((c.routeFrame inbound).receive 1).stage? 1 =
        some (.ended (.ok ⟨none, .nat 1, some (.bool true), none⟩)) := by
  intro body inbound v c
  have hbody : body = v.render := rfl
  have hparse : Json.parse body = some v := by
    rw [hbody, Json.parse_render (by decide), Json.sorted_canonical v (by decide)]
  have hinbound : inbound =
      (Json.object [("error", .null), ("id", .nat 1), ("result", .bool true)]).render := rfl
  have hvalues : elementsOf inbound =
      [.object [("error", .null), ("id", .nat 1), ("result", .bool true)]] := by
    rw [elementsOf, hinbound, Json.parse_render (by decide), Json.sorted_canonical _ (by decide)]
  refine ⟨hparse, fun h => ?_, fun id reply h => ?_, ?_, by decide, ?_⟩
  · obtain ⟨error, herror, hnull⟩ := h
    exact hnull (Option.some.inj herror).symm
  · have hid := Client.repliedId?_eq_some.mpr ⟨reply, h⟩
    simp [show Client.repliedId? v = none by decide] at hid
  · rcases receive_cases (by decide : 1 < limit64) "m" [] (by decide : 200 ≤ 200) (by decide) hparse
      with ⟨members, _, hv, -, -, hreceive⟩ | ⟨hnone, -⟩
    · rw [hreceive, ← Json.object.inj hv, hinbound]
      rfl
    · cases hnone (by simp [v, Anonymous, Json.get?, Json.lookup])
  · rw [Client.routeFrame, hvalues]
    rfl

end Http

end SealedChain
