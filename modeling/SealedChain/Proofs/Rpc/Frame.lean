import SealedChain.Client.Exchange
import SealedChain.Node.Dispatch
import SealedChain.Proofs.Json.Members
import SealedChain.Proofs.Rpc.Request

/-!
# Frames read by the other side

The node reads the frame of a request as an envelope with the method, the parameters and the id that
were written. The client reads the text of an answer as one reply under that id, with the result or
with the code and the wording of the fault.
-/
namespace SealedChain

open Json.Reader (maxDepth)

namespace Rpc.Request

theorem parse_frame {id : Nat} (hid : id < limit64) (method : String) {params : List Json}
    (hparams : Json.fitsItems params 125 = true) :
    Json.parse (new id method params).frame = some (read id method (Json.sortedItems params)) := by
  have hint : (-0x8000000000000000 : Int) ≤ id ∧ (id : Int) < limit64 := by omega
  rw [frame, Json.parse_render]
  · simp [toJson, members, new, read, Json.sorted, Json.sortedMembers, Json.nat]
  · simp [toJson, members, new, maxDepth, Json.fits, Json.fitsMembers, Json.nat, hint, hparams]

end Rpc.Request

namespace Rpc.Reply

variable {v : Json} {reply : Reply}

theorem ofJson?_members (h : ofJson? v = some reply) :
    reply.result = v.memberAt "result" 2 ∧
    ((v.memberAt "error" 3 = none ∨ v.memberAt "error" 3 = some .null) ∧ reply.error = none ∨
      ∃ error e, v.memberAt "error" 3 = some error ∧ error ≠ .null ∧
        ErrorObject.ofJson? error = some e ∧ reply.error = some e) := by
  simp only [ofJson?, Option.bind_eq_bind, Option.bind_eq_some_iff] at h
  obtain ⟨members, hmembers, version, -, found, hfound, h⟩ := h
  obtain rfl := Option.some.inj h
  have hn : ["jsonrpc", "id", "result", "error"].Nodup := by decide
  have herror : Json.lookup "error" members = v.memberAt "error" 3 :=
    Json.lookup_fields hn rfl hmembers
  rw [Json.optionalField?, herror] at hfound
  refine ⟨Json.lookup_fields hn rfl hmembers, ?_⟩
  cases hmember : v.memberAt "error" 3 with
  | none =>
    rw [hmember] at hfound
    obtain rfl := Option.some.inj hfound
    exact .inl ⟨.inl rfl, rfl⟩
  | some error =>
    rw [hmember] at hfound
    by_cases hnull : error = .null
    · subst hnull
      obtain rfl := Option.some.inj hfound
      exact .inl ⟨.inr rfl, rfl⟩
    · simp only [Json.optional?_of_ne_null _ hnull, Option.map_eq_some_iff] at hfound
      obtain ⟨e, he, rfl⟩ := hfound
      exact .inr ⟨error, e, rfl, hnull, he, rfl⟩

end Rpc.Reply

namespace Node

theorem parseBytes_toUTF8 (text : String) : Json.parseBytes text.toUTF8 = Json.parse text := by
  have hread : String.fromUTF8? text.toUTF8 = some text := by
    rw [String.toUTF8_eq_toByteArray, String.fromUTF8?, dif_pos text.isValidUTF8]
    rfl
  rw [Json.parseBytes, hread]

namespace Envelope

variable {α : Type} {e : Envelope} {index count : Nat} {v : Json} {read? : Json → Option α} {x : α}

theorem atMost_eq (h : e.args.length ≤ count) : asParams (e.atMost count) = .ok () := by
  rw [atMost, if_neg (Nat.not_lt.mpr h)]
  rfl

theorem param_eq (hv : e.args[index]? = some v) (hx : read? v = some x) :
    asParams (e.param index read?) = .ok x := by
  simp only [param, hv, hx, asParams]

theorem optionalParam_eq (hv : e.args[index]? = some v) (hnull : v ≠ .null)
    (hx : read? v = some x) : asParams (e.optionalParam index read?) = .ok (some x) := by
  cases v with
  | null => exact absurd rfl hnull
  | _ => simp only [optionalParam, hv, hx, asParams]

end Envelope

/-- The envelope that the node reads from a request. -/
def envelopeOf (id : Nat) (method : String) (params : List Json) : Envelope :=
  ⟨Rpc.version, method, some (Json.sortedItems params), .nat id⟩

theorem validate_read (id : Nat) {method : String} (hmethod : method ≠ "") (items : List Json) :
    Envelope.validate (Rpc.Request.read id method items) =
      .ok ⟨Rpc.version, method, some items, .nat id⟩ := by
  rw [Rpc.Request.read, Json.ofMembers_eq]
  simp [Envelope.validate, Json.lookup_insertAll, Json.lookup, Json.string?, hmethod,
    Envelope.isId, Json.isNumber, Json.nat, Envelope.paramsOf, Except.map]

/-- A frame of admissible length is answered by running its method. -/
theorem respond_frame (c : Chain) (ticket : Nat) {id : Nat} (hid : id < limit64) {method : String}
    (hmethod : method ≠ "") {params : List Json} (hparams : Json.fitsItems params 125 = true)
    (hsize : (Rpc.Request.new id method params).frame.toUTF8.size ≤ maxBodySize) :
    respond c ticket (Rpc.Request.new id method params).frame.toUTF8 =
      run c ticket (envelopeOf id method params) := by
  rw [respond, if_neg (Nat.not_lt.mpr hsize), parseBytes_toUTF8,
    Rpc.Request.parse_frame hid method hparams]
  simp only [validate_read id hmethod]
  rfl

theorem unsigned?_nat {id : Nat} (hid : id < limit64) : (Json.nat id).unsigned? = some id := by
  rw [Json.nat, Json.unsigned?, if_pos (by omega)]
  simp

/-- The reply that the client reads from an answer. -/
def replyOf (id : Nat) : Except MethodFault Json → Rpc.Reply
  | .ok result => .success (.nat id) result.sorted
  | .error fault => .failure (.nat id) (.new fault.code fault.message)

theorem elementsOf_render (members : List (String × Json))
    (h : Json.fitsMembers members 126 = true) :
    elementsOf (Json.ofMembers members).render = [Json.ofMembers (Json.sortedMembers members)] := by
  have hfits : (Json.ofMembers members).fits maxDepth = true := Json.fits_ofMembers h
  rw [elementsOf, Json.parse_render hfits, Json.sorted_ofMembers, Json.ofMembers_eq]

def errorOf (code : Rpc.ErrorCode) (message : String) : Json :=
  .ofMembers [("code", .integer code.code), ("message", .string message)]

theorem fits_errorOf (code : Rpc.ErrorCode) (message : String) :
    (errorOf code message).fits 126 = true := by
  have hcode : (Json.integer code.code).fits 125 = true := by
    cases code <;> simp [Rpc.ErrorCode.code, Json.fits, limit64]
  refine Json.fits_ofMembers ?_
  rw [Json.fitsMembers, hcode]
  simp [Json.fitsMembers, Json.fits]

theorem sorted_errorOf (code : Rpc.ErrorCode) (message : String) :
    (errorOf code message).sorted = errorOf code message := by
  simp [errorOf, Json.sorted_ofMembers, Json.sortedMembers, Json.sorted]

theorem optional?_errorOf (code : Rpc.ErrorCode) (message : String) :
    Json.optional? Rpc.ErrorObject.ofJson? (errorOf code message) =
      some (some (.new code message)) := by
  have hcode : Json.signed? (.integer code.code) = some code.code := by
    cases code <;> rfl
  rw [errorOf, Json.ofMembers_eq]
  simp [Json.optional?, Rpc.ErrorObject.ofJson?, Json.fields?, Json.required?,
    Json.optionalField?, Json.lookup_insertAll, Json.lookup, Json.string?, hcode,
    Rpc.ErrorObject.new]

theorem ofJson?_success (id result : Json) :
    Rpc.Reply.ofJson? (.ofMembers [("jsonrpc", .string Rpc.version), ("result", result),
      ("id", id)]) = some (.success id result) := by
  rw [Json.ofMembers_eq]
  simp [Rpc.Reply.ofJson?, Json.fields?, Json.optionalField?, Json.lookup_insertAll, Json.lookup,
    Json.optional?, Json.string?, Rpc.Reply.success]

theorem ofJson?_failure (id : Json) {error : Json} {e : Rpc.ErrorObject}
    (he : Json.optional? Rpc.ErrorObject.ofJson? error = some (some e)) :
    Rpc.Reply.ofJson? (.ofMembers [("jsonrpc", .string Rpc.version), ("error", error),
      ("id", id)]) = some (.failure id e) := by
  have hversion : Json.optional? Json.string? (.string Rpc.version) = some (some Rpc.version) := rfl
  rw [Json.ofMembers_eq]
  simp [Rpc.Reply.ofJson?, Json.fields?, Json.optionalField?, Json.lookup_insertAll, Json.lookup,
    hversion, he, Rpc.Reply.failure]

theorem elementsOf_errorText {id : Nat} (hid : id < limit64) (code : Rpc.ErrorCode)
    (message : String) : ∃ v, elementsOf (errorText (.nat id) code message) = [v] ∧
      Rpc.Reply.ofJson? v = some (.failure (.nat id) (.new code message)) := by
  refine ⟨_, elementsOf_render [("jsonrpc", .string Rpc.version),
    ("error", errorOf code message), ("id", .nat id)] ?_, ?_⟩
  · have hstring : (Json.string Rpc.version).fits 126 = true := by rw [Json.fits]
    simp only [Json.fitsMembers, hstring, fits_errorOf, Json.fits_nat hid _, Bool.and_true]
  · simp only [Json.sortedMembers, Json.sorted, Json.nat, sorted_errorOf]
    exact ofJson?_failure _ (optional?_errorOf code message)

theorem elementsOf_answerText {id : Nat} (hid : id < limit64) {r : Except MethodFault Json}
    (hr : ∀ result, r = .ok result → result.fits 126 = true) :
    ∃ v, elementsOf (answerText (.nat id) r) = [v] ∧ Rpc.Reply.ofJson? v = some (replyOf id r) := by
  cases r with
  | ok result =>
    have hstring : (Json.string Rpc.version).fits 126 = true := by rw [Json.fits]
    refine ⟨_, elementsOf_render _ ?_, ?_⟩
    · simp only [Json.fitsMembers, hstring, hr result rfl, Json.fits_nat hid _, Bool.and_true]
    · simp only [Json.sortedMembers, Json.sorted, Json.nat]
      exact ofJson?_success _ _
  | error fault => exact elementsOf_errorText hid fault.code fault.message

end Node

end SealedChain
