import SealedChain.Client.Call
import SealedChain.Proofs.Block.Codec
import SealedChain.Proofs.Json.Members

/-!
# Two readings of an acknowledgment

The result that acknowledges a command is read as a whole, as a created block, and for the hash that
it names. A block is read from an object by the names of its members or from an array by their
position, a hash only by its name. So the two readings agree on an object. An array is read as a
created block without a hash, and a client that waits for blocks to be visible does not ask for it.
-/
namespace SealedChain.Acknowledgment

variable {a : Acknowledgment} {c : CreatedBlock}

theorem created?_cases (h : a.created? = some c) :
    (∃ members v, a.result = .object members ∧ Json.lookup "hash" members = some v ∧
      v.word? 32 = some c.hash) ∨
    ∃ v aux, a.result = .array [v, aux] ∧ v.word? 32 = some c.hash := by
  simp only [created?, CreatedBlock.ofJson?, Json.required?, Option.bind_eq_bind,
    Option.bind_eq_some_iff] at h
  obtain ⟨members, hmembers, hash, ⟨v, hfound, hread⟩, aux, ⟨w, hother, -⟩, h⟩ := h
  obtain rfl := Option.some.inj h
  rcases Json.fields?_cases hmembers with hresult | ⟨items, hresult, hlength, rfl⟩
  · exact .inl ⟨members, v, hresult, hfound, hread⟩
  · rcases items with _ | ⟨first, _ | ⟨second, rest⟩⟩
    · cases hfound
    · cases hother
    · obtain rfl : first = v := Option.some.inj hfound
      simp only [List.length_cons, List.length_nil] at hlength
      obtain rfl : rest = [] := List.length_eq_zero_iff.mp (by omega)
      exact .inr ⟨first, second, hresult, hread⟩

theorem created?_of_array (c : CreatedBlock) :
    (mk (.array [.ofWord c.hash, c.aux.toJson.sorted])).created? = some c := by
  simp [created?, CreatedBlock.ofJson?, Json.fields?, Json.required?, Json.lookup,
    Json.word?_ofWord, ImportedAux.ofJson?_sorted]

theorem hash?_of_object {members : List (String × Json)} (h : a.result = .object members) :
    a.hash? = (Json.lookup "hash" members).bind (Json.word? 32) := by
  rw [hash?, h, Json.get?]

theorem hash?_of_array {items : List Json} (h : a.result = .array items) : a.hash? = none := by
  simp [hash?, h, Json.get?]

theorem isTruthy_of_created? (h : a.created? = some c) : a.result.isTruthy = true := by
  rcases created?_cases h with ⟨members, v, hresult, hfound, -⟩ | ⟨v, aux, hresult, -⟩
  · rw [hresult]
    cases members with
    | nil => cases hfound
    | cons m rest => rfl
  · rw [hresult]
    rfl

section Settling

variable {interval timeout now : Millis} {answer : CallAnswer}

theorem onward_of_hash {hash : Hash} (h : a.hash? = some hash) :
    (Settlement.awaitBlock interval timeout).onward now a answer =
      .sleep 0 (.poll { hash, interval, timeout, began := now, answer }) := by
  simp only [Settlement.onward, h]

theorem onward_of_no_hash (h : a.hash? = none) :
    (Settlement.awaitBlock interval timeout).onward now a answer =
      .sleep defaultSettlingDelay (.answer answer) := by
  simp only [Settlement.onward, h]
  rfl

end Settling

/-- A result that is a created block is true. If it is an object, its hash is that of the block, and
a client that awaits blocks asks for the block with this hash. Else it is an array by position and
has no hash, so that client waits for the default delay and never asks. -/
theorem created_views (h : a.created? = some c) :
    a.result.isTruthy = true ∧
    (a.hash? = some c.hash ↔ ∃ members, a.result = .object members) ∧
    (a.hash? = none ↔ ∃ v aux, a.result = .array [v, aux]) ∧
    ∀ (interval timeout now : Millis) (answer : CallAnswer),
      let onward := (Settlement.awaitBlock interval timeout).onward now a answer
      let polling : Polling := { hash := c.hash, interval, timeout, began := now, answer }
      polling.query = Query.blockByHash c.hash ∧
      ((∃ members, a.result = .object members) → onward = .sleep 0 (.poll polling)) ∧
      ((∃ v aux, a.result = .array [v, aux]) → onward = .sleep 500 (.answer answer)) := by
  have htrue := isTruthy_of_created? h
  rcases created?_cases h with ⟨members, v, hresult, hfound, hread⟩ | ⟨v, aux, hresult, -⟩
  · have hhash : a.hash? = some c.hash := by
      rw [hash?_of_object hresult, hfound, Option.bind_some, hread]
    refine ⟨htrue, iff_of_true hhash ⟨members, hresult⟩, by simp [hhash, hresult],
      fun interval timeout now answer => ⟨rfl, fun _ => onward_of_hash hhash, ?_⟩⟩
    rintro ⟨v, aux, harray⟩
    rw [hresult] at harray
    cases harray
  · have hhash := hash?_of_array hresult
    refine ⟨htrue, by simp [hhash, hresult], iff_of_true hhash ⟨v, aux, hresult⟩,
      fun interval timeout now answer => ⟨rfl, ?_, fun _ => onward_of_no_hash hhash⟩⟩
    rintro ⟨members, hobject⟩
    rw [hresult] at hobject
    cases hobject

theorem created_views_by_name :
    let c : CreatedBlock := ⟨Word.ofNat 32 7, { isNewBest := true }⟩
    let a : Acknowledgment := ⟨c.toJson.sorted⟩
    a.created? = some c ∧ a.hash? = some c.hash ∧
      (Settlement.awaitBlock 10 100).onward 0 a .settled =
        .sleep 0 (.poll ⟨c.hash, 10, 100, 0, .settled⟩) := by
  intro c a
  have hcreated : a.created? = some c := CreatedBlock.ofJson?_sorted c
  obtain ⟨-, hhash, -, honward⟩ := created_views hcreated
  have hobject : ∃ members, a.result = .object members := ⟨_, rfl⟩
  exact ⟨hcreated, hhash.mpr hobject, (honward 10 100 0 .settled).2.1 hobject⟩

/-- A block by position acknowledges a command and is read as created. It has no hash, and nothing
asks for it. -/
theorem created_without_hash :
    let c : CreatedBlock := ⟨Word.ofNat 32 7, { isNewBest := true }⟩
    let a : Acknowledgment := ⟨.array [.ofWord c.hash, c.aux.toJson.sorted]⟩
    ofReply "engine_createBlock" (.success (.nat 1) a.result) = .ok a ∧ a.created? = some c ∧
      a.hash? = none ∧
      (Settlement.awaitBlock 10 100).onward 0 a .settled = .sleep 500 (.answer .settled) := by
  intro c a
  have hcreated : a.created? = some c := created?_of_array c
  have hhash : a.hash? = none := hash?_of_array rfl
  exact ⟨rfl, hcreated, hhash, onward_of_no_hash hhash⟩

end SealedChain.Acknowledgment
