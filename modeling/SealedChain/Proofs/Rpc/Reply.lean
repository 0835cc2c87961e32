import SealedChain.Proofs.Json.Canonical
import SealedChain.Proofs.Rpc.Frame

/-!
# Replies encoded and decoded

A reply is encoded as an object with what it has, and decoded from an object with its members in any
order or from an array by position. What is absent and what is null are kept apart in the result and
nowhere else. So a reply that is encoded and decoded again is the same, except that an error with
null for its data has none afterwards; and what a value is decoded as does not change any more.
-/
namespace SealedChain

open Json.Reader (maxDepth)

namespace Rpc

def ErrorObject.InRange (e : ErrorObject) : Prop :=
  -0x8000000000000000 ≤ e.code ∧ e.code < 0x8000000000000000

def Reply.InRange (r : Reply) : Prop := ∀ e, r.error = some e → e.InRange

/-- The objects that a reply holds have their members in order, as in every value that was read. -/
structure Reply.Canonical (r : Reply) : Prop where
  id : r.id.canonical = true
  result : ∀ v, r.result = some v → v.canonical = true
  data : ∀ e d, r.error = some e → e.data = some d → d.canonical = true

/-- The error with no data in place of null. -/
def ErrorObject.plain (e : ErrorObject) : ErrorObject :=
  if e.data = some .null then { e with data := none } else e

def Reply.plain (r : Reply) : Reply := { r with error := r.error.map ErrorObject.plain }

def Payload.plain : Payload → Payload
  | .error e => .error e.plain
  | p => p

namespace ErrorObject

variable {e : ErrorObject} {v : Json}

theorem plain_eq_self_iff : e.plain = e ↔ e.data ≠ some .null := by
  obtain ⟨code, message, data⟩ := e
  by_cases h : data = some .null <;> simp [plain, h]

theorem ofJson?_object {members : List (String × Json)} (h : e.InRange)
    (code : Json.lookup "code" members = some (.integer e.code))
    (message : Json.lookup "message" members = some (.string e.message))
    (data : Json.lookup "data" members = e.data) : ofJson? (.object members) = some e.plain := by
  have hcode : Json.signed? (.integer e.code) = some e.code := if_pos h
  obtain ⟨n, text, found⟩ := e
  simp only at code message data hcode
  simp only [ofJson?, Json.fields?, Json.required?, Json.optionalField?, code, message, data, hcode,
    Json.string?, Option.bind_eq_bind, Option.bind_some]
  cases found with
  | none => rfl
  | some d =>
    by_cases hnull : d = .null
    · subst hnull
      rfl
    · simp [Json.optional?_of_ne_null _ hnull, plain, hnull]

theorem lookup_members (e : ErrorObject) :
    Json.lookup "code" e.members = some (.integer e.code) ∧
    Json.lookup "message" e.members = some (.string e.message) ∧
    Json.lookup "data" e.members = e.data := by
  obtain ⟨code, message, data⟩ := e
  cases data <;> simp [members, Json.lookup]

theorem nodup_members (e : ErrorObject) : (e.members.map Prod.fst).Nodup := by
  obtain ⟨code, message, data⟩ := e
  cases data <;> simp [members]

theorem ofJson?_toJson (h : e.InRange) : ofJson? e.toJson = some e.plain :=
  ofJson?_object h e.lookup_members.1 e.lookup_members.2.1 e.lookup_members.2.2

theorem ofJson?_sorted (h : e.InRange) (hdata : ∀ d, e.data = some d → d.canonical = true) :
    ofJson? e.toJson.sorted = some e.plain := by
  obtain ⟨hcode, hmessage, hfound⟩ := e.lookup_members
  rw [toJson, Json.sorted_object]
  refine ofJson?_object h ?_ ?_ ?_ <;> rw [Json.lookup_sorted e.nodup_members]
  · simp only [hcode, Option.map_some, Json.sorted]
  · simp only [hmessage, Option.map_some, Json.sorted]
  · rw [hfound, Json.map_sorted_canonical hdata]

theorem of_ofJson? (h : ofJson? v = some e) :
    e.InRange ∧ e.data ≠ some .null ∧
      (v.canonical = true → ∀ d, e.data = some d → d.canonical = true) := by
  simp only [ofJson?, Option.bind_eq_bind, Option.bind_eq_some_iff] at h
  obtain ⟨members, hmembers, code, hcode, message, -, data, hdata, h⟩ := h
  obtain rfl := Option.some.inj h
  obtain ⟨n, -, hn⟩ := Option.bind_eq_some_iff.mp hcode
  refine ⟨Json.signed?_range hn, ?_⟩
  rcases Json.optionalField?_cases hdata with rfl | ⟨d, _, hfound, hnull, hd, rfl⟩
  · simp
  · obtain rfl := Option.some.inj hd
    refine ⟨fun hd => hnull (Option.some.inj hd), fun hv w hw => ?_⟩
    obtain rfl := Option.some.inj hw
    exact Json.canonical_of_fields hv hmembers _ (Json.mem_of_lookup hfound)

end ErrorObject

namespace Reply

variable {r : Reply} {v : Json}

theorem plain_eq_self_iff : r.plain = r ↔ ∀ e, r.error = some e → e.data ≠ some .null := by
  obtain ⟨version, id, result, error⟩ := r
  cases error with
  | none => simp [plain]
  | some e => simp [plain, ErrorObject.plain_eq_self_iff]

theorem payload_plain (r : Reply) : r.plain.payload = r.payload.plain := by
  obtain ⟨version, id, result, error⟩ := r
  cases error <;> cases result <;> rfl

theorem ofJson?_object {members : List (String × Json)} {written : ErrorObject → Json}
    (hwritten : ∀ e, r.error = some e →
      written e ≠ .null ∧ ErrorObject.ofJson? (written e) = some e.plain)
    (version : Json.lookup "jsonrpc" members = r.version.map .string)
    (id : Json.lookup "id" members = some r.id) (result : Json.lookup "result" members = r.result)
    (error : Json.lookup "error" members = r.error.map written) :
    ofJson? (.object members) = some r.plain := by
  have hversion : Json.optionalField? "jsonrpc" Json.string? members = some r.version := by
    rw [Json.optionalField?, version]
    cases r.version <;> rfl
  have herror : Json.optionalField? "error" ErrorObject.ofJson? members =
      some (r.error.map ErrorObject.plain) := by
    rw [Json.optionalField?, error]
    cases hfound : r.error with
    | none => rfl
    | some e =>
      obtain ⟨hnull, hread⟩ := hwritten e hfound
      simp only [Option.map_some]
      rw [Json.optional?_of_ne_null _ hnull, hread, Option.map_some]
  simp only [ofJson?, Json.fields?, hversion, herror, id, result, Option.bind_eq_bind,
    Option.bind_some, Option.getD_some]
  rfl

theorem lookup_members (r : Reply) :
    Json.lookup "jsonrpc" r.members = r.version.map .string ∧
    Json.lookup "id" r.members = some r.id ∧ Json.lookup "result" r.members = r.result ∧
    Json.lookup "error" r.members = r.error.map ErrorObject.toJson := by
  obtain ⟨version, id, result, error⟩ := r
  cases version <;> cases result <;> cases error <;> simp [members, Json.lookup]

theorem nodup_members (r : Reply) : (r.members.map Prod.fst).Nodup := by
  obtain ⟨version, id, result, error⟩ := r
  cases version <;> cases result <;> cases error <;> simp [members]

theorem ofJson?_toJson (h : r.InRange) : ofJson? r.toJson = some r.plain := by
  obtain ⟨hversion, hid, hresult, herror⟩ := r.lookup_members
  have hwritten : ∀ e, r.error = some e →
      e.toJson ≠ .null ∧ ErrorObject.ofJson? e.toJson = some e.plain :=
    fun e he => ⟨nofun, ErrorObject.ofJson?_toJson (h e he)⟩
  exact ofJson?_object hwritten hversion hid hresult herror

theorem ofJson?_sorted (h : r.InRange) (hc : r.Canonical) :
    ofJson? r.toJson.sorted = some r.plain := by
  obtain ⟨hversion, hid, hresult, herror⟩ := r.lookup_members
  have hwritten : ∀ e, r.error = some e → e.toJson.sorted ≠ .null ∧
      ErrorObject.ofJson? e.toJson.sorted = some e.plain := by
    intro e he
    refine ⟨?_, ErrorObject.ofJson?_sorted (h e he) fun d => hc.data e d he⟩
    rw [ErrorObject.toJson, Json.sorted_object]
    exact nofun
  rw [toJson, Json.sorted_object]
  refine ofJson?_object hwritten ?_ ?_ ?_ ?_ <;> rw [Json.lookup_sorted r.nodup_members]
  · rw [hversion]
    cases r.version with
    | none => rfl
    | some version => simp only [Option.map_some, Json.sorted]
  · rw [hid, Option.map_some, Json.sorted_canonical _ hc.id]
  · rw [hresult, Json.map_sorted_canonical hc.result]
  · rw [herror, Option.map_map]
    rfl

theorem of_ofJson? (h : ofJson? v = some r) :
    r.InRange ∧ r.plain = r ∧ (v.canonical = true → r.Canonical) := by
  simp only [ofJson?, Option.bind_eq_bind, Option.bind_eq_some_iff] at h
  obtain ⟨members, hmembers, version, -, error, herror, h⟩ := h
  obtain rfl := Option.some.inj h
  have hfound : ∀ e, error = some e → ∃ w, Json.lookup "error" members = some w ∧
      ErrorObject.ofJson? w = some e := by
    rintro e rfl
    rcases Json.optionalField?_cases herror with hnone | ⟨w, x, hfound, -, hread, hx⟩
    · cases hnone
    · obtain rfl := Option.some.inj hx
      exact ⟨w, hfound, hread⟩
  refine ⟨fun e he => ?_, plain_eq_self_iff.mpr fun e he => ?_, fun hv => ?_⟩
  · obtain ⟨w, -, hread⟩ := hfound e he
    exact (ErrorObject.of_ofJson? hread).1
  · obtain ⟨w, -, hread⟩ := hfound e he
    exact (ErrorObject.of_ofJson? hread).2.1
  · have hcanonical : ∀ key w, Json.lookup key members = some w → w.canonical = true :=
      fun key w hw => Json.canonical_of_fields hv hmembers _ (Json.mem_of_lookup hw)
    refine ⟨?_, hcanonical "result", fun e d he hd => ?_⟩
    · cases hid : Json.lookup "id" members with
      | none => rfl
      | some id => exact hcanonical "id" id hid
    · obtain ⟨w, hw, hread⟩ := hfound e he
      exact (ErrorObject.of_ofJson? hread).2.2 (hcanonical "error" w hw) d hd

/-- What comes of a reply that is encoded. -/
structure RoundTrips (r : Reply) : Prop where
  decoded : ofJson? r.toJson = some r.plain
  decodedSorted : r.Canonical → ofJson? r.toJson.sorted = some r.plain
  parsed : r.toJson.fits maxDepth = true → Json.parse r.frame = some r.toJson.sorted
  same : (∀ e, r.error = some e → e.data ≠ some .null) → r.plain = r
  nullData : ∀ e, r.error = some e → e.data = some .null →
    r.plain = { r with error := some { e with data := none } }
  written : r.toJson.get? "result" = r.result
  result : r.plain.result = r.result
  correlationId : r.plain.correlationId = r.correlationId
  payload : r.plain.payload = r.payload.plain

theorem roundTrips {r : Reply} (h : r.InRange) : r.RoundTrips where
  decoded := ofJson?_toJson h
  decodedSorted := ofJson?_sorted h
  parsed := Json.parse_render
  same := plain_eq_self_iff.mpr
  nullData := fun e he hnull => by
    rw [plain, he, Option.map_some, ErrorObject.plain, if_pos hnull]
  written := r.lookup_members.2.2.1
  result := rfl
  correlationId := rfl
  payload := payload_plain r

/-- A reply that is encoded and decoded again is the same, except that null for the data of its
error comes to no data. What a value is decoded as, object or array, is decoded again as it is. -/
theorem encoded_decoded :
    (∀ r : Reply, r.InRange → r.RoundTrips) ∧
    ∀ v r, ofJson? v = some r → ofJson? r.toJson = some r ∧
      (v.canonical = true → ofJson? r.toJson.sorted = some r) := by
  refine ⟨fun r => roundTrips, fun v r h => ?_⟩
  obtain ⟨hrange, hplain, hcanonical⟩ := of_ofJson? h
  refine ⟨?_, fun hv => ?_⟩
  · rw [ofJson?_toJson hrange, hplain]
  · rw [ofJson?_sorted hrange (hcanonical hv), hplain]

/-- An error with null for its data beside a result that is null, and a reply by position. -/
theorem encoded_decoded_null :
    let r : Reply := ⟨none, .nat 7, some .null, some ⟨-32000, "boom", some .null⟩⟩
    let v : Json := .array [.null, .string "a", .null]
    let other : Reply := ⟨none, .string "a", some .null, none⟩
    r.InRange ∧ r.Canonical ∧ r.toJson.fits maxDepth = true ∧
      (Json.parse r.frame).bind ofJson? =
        some ⟨none, .nat 7, some .null, some ⟨-32000, "boom", none⟩⟩ ∧
      v.canonical = true ∧ ofJson? v = some other ∧ ofJson? other.toJson.sorted = some other := by
  intro r v other
  have hrange : r.InRange := fun e he => Option.some.inj he ▸ ⟨by decide, by decide⟩
  have hcanonical : r.Canonical := by
    refine ⟨rfl, fun w hw => Option.some.inj hw ▸ rfl, fun e d he hd => ?_⟩
    obtain rfl := Option.some.inj he
    exact Option.some.inj hd ▸ rfl
  have hfits : r.toJson.fits maxDepth = true := by decide
  have hv : ofJson? v = some other := rfl
  have htrips := encoded_decoded.1 r hrange
  refine ⟨hrange, hcanonical, hfits, ?_, rfl, hv, (encoded_decoded.2 v other hv).2 rfl⟩
  rw [htrips.parsed hfits, Option.bind_some, htrips.decodedSorted hcanonical,
    htrips.nullData _ rfl rfl]

end Reply

end Rpc

end SealedChain
