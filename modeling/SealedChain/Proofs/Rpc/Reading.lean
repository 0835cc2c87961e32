import SealedChain.Proofs.Json.Canonical
import SealedChain.Proofs.Rpc.Frame

/-!
# Requests read back

Every request that the client writes in the range of what a reader of values takes is read back by
the node: the same method, the same parameters in the same order and the same id. So no two such
requests have one text.
-/
namespace SealedChain

namespace Rpc.Request

open Node

/-- A request in the range of what the node reads. With the list and the object around them its
parameters nest as deep as the reader goes, and their objects are in the order of the keys, as in
every value that was read. -/
structure Readable (id : Nat) (method : String) (params : List Json) : Prop where
  id_lt : id < limit64
  method_ne : method ≠ ""
  fits : Json.fitsItems params 125 = true
  canonical : Json.canonicalItems params = true

variable {id id' : Nat} {method method' : String} {params params' : List Json}

theorem Readable.parse (h : Readable id method params) :
    Json.parse (new id method params).frame = some (read id method params) := by
  rw [parse_frame h.id_lt method h.fits, Json.sortedItems_canonical params h.canonical]

/-- The text of a request determines the request. -/
theorem Readable.injective (h : Readable id method params) (h' : Readable id' method' params')
    (hframe : (new id' method' params').frame = (new id method params).frame) :
    id' = id ∧ method' = method ∧ params' = params := by
  have hread : read id' method' params' = read id method params :=
    Option.some.inj (by rw [← h'.parse, ← h.parse, hframe])
  have henvelope := congrArg Envelope.validate hread
  rw [validate_read _ h'.method_ne, validate_read _ h.method_ne] at henvelope
  obtain ⟨hmethod, hparams, hid⟩ : method' = method ∧ params' = params ∧ (id' : Int) = id := by
    simpa [Json.nat] using henvelope
  exact ⟨Int.ofNat_inj.mp hid, hmethod, hparams⟩

theorem detectId_read (id : Nat) (method : String) (items : List Json) :
    Envelope.detectId (read id method items) = .nat id := by
  have hid : (read id method items).get? "id" = some (.nat id) := by
    rw [read, Json.get?_ofMembers]
    rfl
  rw [Envelope.detectId, hid]
  rfl

/-- The node reads the text of a request, and the bytes of that text, as a value that passes as an
envelope with the method, the parameters and the id of the request; the id is also the one that a
fault would be reported under. A different request has a different text. -/
theorem read_back (h : Readable id method params) :
    let frame := (new id method params).frame
    (∃ v e, Json.parse frame = some v ∧ Json.parseBytes frame.toUTF8 = some v ∧
      Envelope.validate v = .ok e ∧ e.method = method ∧ e.args = params ∧ e.id = .nat id ∧
      Envelope.detectId v = .nat id) ∧
    ∀ id' method' params', Readable id' method' params' →
      (id', method', params') ≠ (id, method, params) → (new id' method' params').frame ≠ frame := by
  intro frame
  refine ⟨⟨read id method params, _, h.parse, ?_, validate_read id h.method_ne params, rfl, rfl, rfl,
    detectId_read id method params⟩, fun id' method' params' h' hne hframe => hne ?_⟩
  · rw [parseBytes_toUTF8]
    exact h.parse
  · obtain ⟨rfl, rfl, rfl⟩ := h.injective h' hframe
    rfl

/-- A request under the greatest id, with a method that has to be escaped and nested parameters. -/
theorem read_back_nested :
    let params : List Json := [.integer (-0x8000000000000000), .string "\"\\\u0001é",
      .array [.object [("a", .nat 1), ("b", .array [.null, .bool true])]]]
    let method := "say \"\n\""
    Readable (limit64 - 1) method params ∧ ∃ v e,
      Json.parse (new (limit64 - 1) method params).frame = some v ∧
      Envelope.validate v = .ok e ∧ e.method = method ∧ e.args = params := by
  intro params method
  have h : Readable (limit64 - 1) method params :=
    ⟨by decide, by decide, by decide, by decide⟩
  obtain ⟨⟨v, e, hparse, -, hvalid, hmethod, hargs, -⟩, -⟩ := read_back h
  exact ⟨h, v, e, hparse, hvalid, hmethod, hargs⟩

end Rpc.Request

end SealedChain
