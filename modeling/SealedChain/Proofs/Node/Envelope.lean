import SealedChain.Proofs.Node.Reply

/-!
# Which values pass as requests

A value passes as an envelope exactly if it is an object with four members as they have to be: a
version, a method, an id and parameters, of which the last two may be missing. The envelope then
holds what the members hold. A value that does not pass is refused for the first member that is not
as it has to be, in this order, so only a value whose one fault are its parameters is refused for
them.
-/
namespace SealedChain.Node

namespace Envelope

/-- The members that an envelope is made of, in the order in which they are looked at. -/
inductive Part where
  | version
  | method
  | id
  | params
  deriving DecidableEq

/-- The members that are looked at before one. -/
def Part.before : Part → List Part
  | .version => []
  | .method => [.version]
  | .id => [.version, .method]
  | .params => [.version, .method, .id]

def Conforms (members : List (String × Json)) : Part → Prop
  | .version => Json.lookup "jsonrpc" members = some (.string "2.0")
  | .method => ∃ name, Json.lookup "method" members = some (.string name) ∧ name ≠ ""
  | .id => ∀ id, Json.lookup "id" members = some id →
      id = .null ∨ id.isNumber = true ∨ id.isString = true
  | .params => ∀ params, Json.lookup "params" members = some params →
      params = .null ∨ ∃ items, params = .array items

end Envelope

/-- The member that a fault is found in. -/
def EnvelopeFault.part? : EnvelopeFault → Option Envelope.Part
  | .notObject => none
  | .version | .otherVersion => some .version
  | .method | .emptyMethod => some .method
  | .id => some .id
  | .params => some .params

namespace Envelope

/-- What an object is checked to be: refused for the first member that does not conform, or an
envelope with what its members hold. -/
inductive Checked (members : List (String × Json)) : Except EnvelopeFault Envelope → Prop
  | refused (fault : EnvelopeFault) (part : Part) (named : fault.part? = some part)
      (offends : ¬ Conforms members part)
      (first : ∀ other ∈ part.before, Conforms members other) : Checked members (.error fault)
  | passed (e : Envelope) (conforms : ∀ part, Conforms members part) (version : e.version = "2.0")
      (method : Json.lookup "method" members = some (.string e.method))
      (args : e.args = ((Json.lookup "params" members).bind Json.array?).getD [])
      (id : e.id = (Json.lookup "id" members).getD .null) : Checked members (.ok e)

variable {members : List (String × Json)} {v : Json} {e : Envelope} {fault : EnvelopeFault}

theorem bind_string?_iff {found : Option Json} {s : String} :
    found.bind Json.string? = some s ↔ found = some (.string s) := by
  cases found with
  | none => simp
  | some v => cases v <;> simp [Json.string?]

theorem conforms_version_iff : Conforms members .version ↔
    (Json.lookup "jsonrpc" members).bind Json.string? = some Rpc.version :=
  bind_string?_iff.symm

theorem conforms_method_iff : Conforms members .method ↔
    ∃ name, (Json.lookup "method" members).bind Json.string? = some name ∧ name ≠ "" := by
  simp only [Conforms, bind_string?_iff]

theorem isId_iff {id : Json} :
    isId id = true ↔ id = .null ∨ id.isNumber = true ∨ id.isString = true := by
  simp only [isId, Bool.or_eq_true, beq_iff_eq]
  tauto

theorem conforms_id_iff : Conforms members .id ↔
    isId ((Json.lookup "id" members).getD .null) = true := by
  rw [isId_iff, Conforms]
  cases Json.lookup "id" members <;> simp

theorem paramsOf_cases (members : List (String × Json)) :
    (paramsOf (Json.lookup "params" members) = .error .params ∧ ¬ Conforms members .params) ∨
      ∃ params, paramsOf (Json.lookup "params" members) = .ok params ∧
        Conforms members .params ∧
        params.getD [] = ((Json.lookup "params" members).bind Json.array?).getD [] := by
  unfold Conforms
  cases hfound : Json.lookup "params" members with
  | none => exact .inr ⟨none, rfl, by simp, rfl⟩
  | some params =>
    cases params with
    | null => exact .inr ⟨none, rfl, by simp, rfl⟩
    | array items => exact .inr ⟨some items, rfl, by simp, rfl⟩
    | _ => exact .inl ⟨rfl, by simp⟩

theorem checked_validate (members : List (String × Json)) :
    Checked members (validate (.object members)) := by
  rw [validate]
  rcases hversion : (Json.lookup "jsonrpc" members).bind Json.string? with _ | version
  · exact .refused .version .version rfl (by simp [conforms_version_iff, hversion])
      (by simp [Part.before])
  by_cases hother : version ≠ Rpc.version
  · simp only [if_pos hother]
    exact .refused .otherVersion .version rfl (by simpa [conforms_version_iff, hversion])
      (by simp [Part.before])
  obtain rfl := not_not.mp hother
  have hversion := conforms_version_iff.mpr hversion
  simp only [if_neg hother]
  rcases hmethod : (Json.lookup "method" members).bind Json.string? with _ | method
  · exact .refused .method .method rfl (by simp [conforms_method_iff, hmethod])
      (by simp [Part.before, hversion])
  by_cases hempty : method = ""
  · simp only [if_pos hempty]
    exact .refused .emptyMethod .method rfl (by simp [conforms_method_iff, hmethod, hempty])
      (by simp [Part.before, hversion])
  have hfound := bind_string?_iff.mp hmethod
  have hmethod := conforms_method_iff.mpr ⟨method, hmethod, hempty⟩
  simp only [if_neg hempty]
  by_cases hid : Conforms members .id
  · simp only [conforms_id_iff.mp hid, Bool.not_true, Bool.false_eq_true, if_false]
    rcases paramsOf_cases members with ⟨hparams, hoffends⟩ | ⟨params, hparams, hconforms, hargs⟩
    · rw [hparams]
      exact .refused .params .params rfl hoffends (by simp [Part.before, hversion, hmethod, hid])
    · rw [hparams]
      refine .passed _ (fun part => ?_) rfl hfound hargs rfl
      cases part <;> assumption
  · simp only [Bool.eq_false_iff.mpr (mt conforms_id_iff.mpr hid), Bool.not_false, if_true]
    exact .refused .id .id rfl hid (by simp [Part.before, hversion, hmethod])

theorem validate_of_not_object (h : ∀ members, v ≠ .object members) :
    validate v = .error .notObject := by
  cases v with
  | object members => exact absurd rfl (h members)
  | _ => rfl

theorem passes_iff : (∃ e, validate v = .ok e) ↔
    ∃ members, v = .object members ∧ ∀ part, Conforms members part := by
  constructor
  · rintro ⟨e, he⟩
    obtain ⟨members, rfl, -⟩ := id_of_validate he
    have hchecked := checked_validate members
    rw [he] at hchecked
    cases hchecked with
    | passed _ conforms => exact ⟨members, rfl, conforms⟩
  · rintro ⟨members, rfl, hall⟩
    have hchecked := checked_validate members
    cases hvalid : validate (.object members) with
    | ok e => exact ⟨e, rfl⟩
    | error fault =>
      rw [hvalid] at hchecked
      cases hchecked with
      | refused _ part _ offends => exact absurd (hall part) offends

theorem holds_of_validate (h : validate v = .ok e) :
    e.version = "2.0" ∧ v.get? "method" = some (.string e.method) ∧
      e.args = ((v.get? "params").bind Json.array?).getD [] ∧
      e.id = (v.get? "id").getD .null := by
  obtain ⟨members, rfl, -⟩ := id_of_validate h
  have hchecked := checked_validate members
  rw [h] at hchecked
  cases hchecked with
  | passed _ _ version method args id => exact ⟨version, method, args, id⟩

theorem first_of_validate (h : validate (.object members) = .error fault) :
    ∃ part, fault.part? = some part ∧ ¬ Conforms members part ∧
      ∀ other ∈ part.before, Conforms members other := by
  have hchecked := checked_validate members
  rw [h] at hchecked
  cases hchecked with
  | refused _ part named offends first => exact ⟨part, named, offends, first⟩

theorem code_eq_invalidParams_iff : fault.code = .invalidParams ↔ fault.part? = some .params := by
  cases fault <;> simp [EnvelopeFault.code, EnvelopeFault.part?]

theorem code_cases (fault : EnvelopeFault) :
    fault.code = .invalidParams ∨ fault.code = .invalidRequest := by
  cases fault <;> simp [EnvelopeFault.code]

theorem mem_before_params {part : Part} : part ∈ Part.params.before ↔ part ≠ .params := by
  cases part <;> simp [Part.before]

/-- The parameters are what a value is refused for exactly if it would pass but for them. -/
theorem refused_for_params (h : validate v = .error fault) : fault.code = .invalidParams ↔
    ∃ members, v = .object members ∧ ∀ part, Conforms members part ↔ part ≠ .params := by
  rw [code_eq_invalidParams_iff]
  constructor
  · intro hnamed
    by_cases hobject : ∃ members, v = .object members
    · obtain ⟨members, rfl⟩ := hobject
      obtain ⟨part, hpart, hoffends, hfirst⟩ := first_of_validate h
      obtain rfl := Option.some.inj (hpart.symm.trans hnamed)
      refine ⟨members, rfl, fun other => ⟨fun hother heq => hoffends (heq ▸ hother), fun hne => ?_⟩⟩
      exact hfirst other (mem_before_params.mpr hne)
    · rw [validate_of_not_object (not_exists.mp hobject)] at h
      obtain rfl := Except.error.inj h
      cases hnamed
  · rintro ⟨members, rfl, hall⟩
    obtain ⟨part, hpart, hoffends, -⟩ := first_of_validate h
    rwa [not_not.mp fun hne => hoffends ((hall part).mpr hne)] at hpart

theorem detectId_of_usable {id : Json} (h : v.get? "id" = some id)
    (husable : id.isNumber = true ∨ id.isString = true) : detectId v = id := by
  rw [detectId, h]
  exact if_pos (by simpa using husable)

theorem detectId_of_unusable
    (h : ∀ id, v.get? "id" = some id → ¬ (id.isNumber = true ∨ id.isString = true)) :
    detectId v = .null := by
  rw [detectId]
  split
  · rename_i id hid
    exact if_neg (by simpa using h id hid)
  · rfl

/-- A value passes exactly if it is an object all of whose members conform, and its envelope holds
what they hold. It is refused for its parameters exactly if it would pass but for them, and as no
request in every other case. -/
theorem validated (v : Json) :
    ((∃ e, validate v = .ok e) ↔
      ∃ members, v = .object members ∧ ∀ part, Conforms members part) ∧
    (∀ e, validate v = .ok e → (e.version = "2.0" ∧ v.get? "method" = some (.string e.method) ∧
      e.args = ((v.get? "params").bind Json.array?).getD [] ∧
      e.id = (v.get? "id").getD .null) ∧ detectId v = e.id) ∧
    (∀ fault, validate v = .error fault →
      (fault.code = .invalidParams ↔ ∃ members, v = .object members ∧
        ∀ part, Conforms members part ↔ part ≠ .params) ∧
      (fault.code ≠ .invalidParams → fault.code = .invalidRequest) ∧
      ∀ members, v = .object members → ∃ part, fault.part? = some part ∧
        ¬ Conforms members part ∧ ∀ other ∈ part.before, Conforms members other) ∧
    (∀ id, v.get? "id" = some id → id.isNumber = true ∨ id.isString = true → detectId v = id) ∧
    ((∀ id, v.get? "id" = some id → ¬ (id.isNumber = true ∨ id.isString = true)) →
      detectId v = .null) := by
  refine ⟨passes_iff, fun e he => ⟨holds_of_validate he, detectId_of_validate he⟩,
    fun fault hfault => ⟨refused_for_params hfault, (code_cases fault).resolve_left, ?_⟩,
    fun id => detectId_of_usable, detectId_of_unusable⟩
  rintro members rfl
  exact first_of_validate hfault

theorem validated_two_faults :
    let members := fun id params =>
      [("id", id), ("jsonrpc", .string "2.0"), ("method", .string "m"), ("params", params)]
    let request := fun id params => Json.object (members id params)
    let passing := request (.string "a") .null
    let e : Envelope := ⟨"2.0", "m", none, .string "a"⟩
    (validate passing = .ok e ∧ e.args = [] ∧ detectId passing = e.id) ∧
    (validate (request (.nat 7) (.object [])) = .error .params ∧
      (∃ found, request (.nat 7) (.object []) = .object found ∧
        ∀ part, Conforms found part ↔ part ≠ .params) ∧
      detectId (request (.nat 7) (.object [])) = .nat 7) ∧
    (validate (request (.array []) (.object [])) = .error .id ∧
      EnvelopeFault.id.code = .invalidRequest ∧
      detectId (request (.array []) (.object [])) = .null) := by
  intro members request passing e
  obtain ⟨-, hholds, -⟩ := validated passing
  obtain ⟨-, -, hparams, hid, -⟩ := validated (request (.nat 7) (.object []))
  obtain ⟨-, -, hboth, -, hnull⟩ := validated (request (.array []) (.object []))
  have hpassing : validate passing = .ok e := rfl
  have hone : validate (request (.nat 7) (.object [])) = .error .params := rfl
  have htwo : validate (request (.array []) (.object [])) = .error .id := rfl
  obtain ⟨⟨-, -, hargs, -⟩, hdetected⟩ := hholds e hpassing
  refine ⟨⟨hpassing, hargs, hdetected⟩, ⟨hone, (hparams _ hone).1.mp rfl, hid _ rfl (.inl rfl)⟩,
    htwo, (hboth _ htwo).2.1 (by decide), hnull fun id hfound => ?_⟩
  obtain rfl := Option.some.inj hfound
  decide

end Envelope

end SealedChain.Node
