import SealedChain.Proofs.Block.Codec
import SealedChain.Proofs.Chain.Run
import SealedChain.Proofs.Node.Demand
import SealedChain.Proofs.Rpc.Frame

/-!
# What the node answers

Whatever a request asks, a method that gives a result gives one that reads back as it is, and the
answer is under the id of the request. To the frame of a client's request the node answers so, or
with an error without an id when the frame is too large or nested too deep to be read, or its answer
comes with that to a ticket. Nothing but the chain's own operations changes the chain.
-/
namespace SealedChain

/-- The value is what a reader of its text finds. -/
structure Json.ReadsBack (v : Json) : Prop where
  fits : v.fits 126 = true
  sorted : v.sorted = v

namespace Node

theorem readsBack_string (s : String) : (Json.string s).ReadsBack :=
  ⟨by rw [Json.fits], by simp only [Json.sorted]⟩

theorem readsBack_nat {id : Nat} (hid : id < limit64) : (Json.nat id).ReadsBack :=
  ⟨Json.fits_nat hid _, by simp only [Json.nat, Json.sorted]⟩

theorem readsBack_null : Json.null.ReadsBack := ⟨rfl, by simp only [Json.sorted]⟩

theorem readsBack_errorOf (code : Rpc.ErrorCode) (message : String) :
    (errorOf code message).ReadsBack :=
  ⟨fits_errorOf code message, sorted_errorOf code message⟩

theorem parse_answer (k : String) {v id : Json} (hv : v.ReadsBack) (hid : id.ReadsBack) :
    Json.parse (Json.ofMembers [("jsonrpc", .string Rpc.version), (k, v), ("id", id)]).render =
      some (.ofMembers [("jsonrpc", .string Rpc.version), (k, v), ("id", id)]) := by
  have hfits : Json.fitsMembers [("jsonrpc", .string Rpc.version), (k, v), ("id", id)] 126 =
      true := by
    simp only [Json.fitsMembers, Json.fits, hv.fits, hid.fits, Bool.and_true]
  have hparse := Json.parse_render (Json.fits_ofMembers hfits)
  simp only [Json.sorted_ofMembers, Json.sortedMembers, Json.sorted, hv.sorted, hid.sorted] at hparse
  exact hparse

theorem fits_recordOrNull (record : Option BlockRecord) :
    (recordOrNull record).fits 126 = true := by
  cases record with
  | none => simp [recordOrNull, Json.fits]
  | some b =>
    refine Json.fits_sorted _ ?_
    simp [BlockRecord.toJson, BlockRecord.members, Json.fits, Json.fitsMembers,
      Json.fitsItems_ofWord]

theorem readsBack_recordOrNull (record : Option BlockRecord) : (recordOrNull record).ReadsBack where
  fits := fits_recordOrNull record
  sorted := by
    cases record with
    | none => simp only [recordOrNull, Json.sorted]
    | some b => exact Json.sorted_sorted b.toJson

theorem readsBack_answer {c : Chain} {q : Question} {result : Json}
    (h : q.answer c = .ok result) : result.ReadsBack := by
  cases q with
  | height | chainId | version =>
    obtain rfl := Except.ok.inj h
    exact readsBack_string _
  | byTag | byHash =>
    obtain rfl := Except.ok.inj h
    exact readsBack_recordOrNull _
  | call r =>
    rw [Question.answer] at h
    split at h
    · cases h
    · split at h
      · cases h
      · obtain rfl := Except.ok.inj h
        exact readsBack_string _

/-- The code of an answer that is an error. -/
def faultCode : Except MethodFault Json → Option Int
  | .ok _ => none
  | .error fault => some fault.code.code

theorem historyHeight?_eq_none {calldata : Bytes} :
    historyHeight? calldata = none ↔ calldata.length ≠ 32 := by
  unfold historyHeight? Word.ofBytes?
  split <;> simp_all

theorem code?_question (c : Chain) (verdict : Except ChainError Unit) (q : Question) :
    (Demand.question q).code? c verdict = faultCode (q.answer c) := by
  cases q with
  | call r =>
    simp only [Demand.code?, Question.answer]
    split
    · rfl
    · cases hcalldata : r.calldata with
      | none => rfl
      | some calldata =>
        have hword : historyHeight? calldata = none ↔ calldata.length ≠ 32 := historyHeight?_eq_none
        cases hheight : historyHeight? calldata with
        | none =>
          have hlength : ¬ calldata.length = 32 := hword.mp hheight
          simp [hheight, hlength, faultCode, MethodFault.code, Rpc.ErrorCode.code]
        | some height =>
          have hlength : calldata.length = 32 := by
            by_contra hne
            simp [hword.mpr hne] at hheight
          simp [hheight, hlength, faultCode]
  | _ => rfl

/-- What serving a demand comes to: an answer under the id of the request, or a queued
finalization. -/
inductive Served (c : Chain) (ticket : Nat) (id : Json) (d : Demand) : Chain × Outcome → Prop
  | answered (c' : Chain) (r : Except MethodFault Json)
      (changed : c' = c ∨ ∃ e, c' = c.step e) (kept : c'.accepting = c.accepting)
      (readsBack : ∀ result, r = .ok result → result.ReadsBack)
      (code : c.accepting = true → ∀ verdict, d.code? c verdict = faultCode r) :
      Served c ticket id d (c', .answered (answerText id r))
  | awaiting (hash : Hash) (finalizes : d = .finalize hash) (accepting : c.accepting = true) :
      Served c ticket id d (c.step (.finalize hash ticket), .awaiting id)

theorem serve_served (c : Chain) (ticket : Nat) (id : Json) (d : Demand) :
    Served c ticket id d (serve c ticket id d) := by
  cases d with
  | create command =>
    refine .answered _ _ (.inr ⟨.create command, rfl⟩) (c.accepting_create command) ?_ ?_
    · intro result hr
      split at hr
      · obtain rfl := Except.ok.inj hr
        rename_i created _
        exact ⟨created.fits_toJson, Json.sorted_sorted _⟩
      · cases hr
    · intro _ verdict
      rw [Demand.code?]
      cases (c.create command).2 <;> rfl
  | submit raw =>
    refine .answered _ _ (.inr ⟨.submit raw, rfl⟩) (c.accepting_submit raw) ?_ ?_
    · intro result hr
      split at hr
      · obtain rfl := Except.ok.inj hr
        exact readsBack_string _
      · cases hr
    · intro _ verdict
      rw [Demand.code?]
      cases (c.submit raw).2 <;> rfl
  | finalize hash =>
    cases ha : c.accepting with
    | false =>
      simp only [serve, Chain.finalize?, Chain.send?_of_stopped ha]
      exact .answered c _ (.inl rfl) rfl (by rintro _ ⟨⟩) (by simp [ha])
    | true =>
      have hawaiting : Served c ticket id (.finalize hash) _ := .awaiting hash rfl ha
      simpa only [Chain.step, serve, Chain.finalize?, Chain.send?_of_accepting ha,
        Option.getD_some] using hawaiting
  | question q =>
    exact .answered c _ (.inl rfl) rfl (fun _ => readsBack_answer)
      fun _ verdict => code?_question c verdict q

/-- What running a request comes to: an answer under its id, or a queued finalization. -/
inductive Ran (c : Chain) (ticket : Nat) (e : Envelope) : Chain × Outcome → Prop
  | answered (c' : Chain) (r : Except MethodFault Json)
      (changed : c' = c ∨ ∃ e, c' = c.step e) (kept : c'.accepting = c.accepting)
      (readsBack : ∀ result, r = .ok result → result.ReadsBack) :
      Ran c ticket e (c', .answered (answerText e.id r))
  | awaiting (hash : Hash) (accepting : c.accepting = true) :
      Ran c ticket e (c.step (.finalize hash ticket), .awaiting e.id)

theorem run_ran (c : Chain) (ticket : Nat) (e : Envelope) : Ran c ticket e (run c ticket e) := by
  have refused : ∀ fault, Ran c ticket e (c, .answered (answerText e.id (.error fault))) :=
    fun fault => .answered c _ (.inl rfl) rfl (by rintro _ ⟨⟩)
  rw [run_eq]
  split
  · exact refused _
  · split
    · exact refused _
    · rename_i d _
      have hserved := serve_served c ticket e.id d
      generalize serve c ticket e.id d = p at hserved
      cases hserved with
      | answered c' r hchanged hkept hreadsBack => exact .answered c' r hchanged hkept hreadsBack
      | awaiting hash _ ha => exact .awaiting hash ha

theorem Ran.changed {c : Chain} {ticket : Nat} {e : Envelope} {p : Chain × Outcome}
    (h : Ran c ticket e p) : p.1 = c ∨ ∃ e, p.1 = c.step e := by
  cases h with
  | answered c' r hchanged => exact hchanged
  | awaiting hash _ => exact .inr ⟨.finalize hash ticket, rfl⟩

theorem respond_changed (c : Chain) (ticket : Nat) (body : ByteArray) :
    (respond c ticket body).1 = c ∨ ∃ e, (respond c ticket body).1 = c.step e := by
  unfold respond
  split
  · exact .inl rfl
  · split
    · exact .inl rfl
    · split
      · exact .inl rfl
      · exact (run_ran c ticket _).changed

theorem respond_frame_cases (c : Chain) (ticket : Nat) {id : Nat} (hid : id < limit64)
    {method : String} (hmethod : method ≠ "") (params : List Json) :
    let body := (Rpc.Request.new id method params).frame.toUTF8
    (∃ code message, respond c ticket body = (c, .answered (errorText .null code message))) ∨
      ∃ items, Ran c ticket ⟨Rpc.version, method, some items, .nat id⟩ (respond c ticket body) := by
  intro body
  unfold respond
  split
  · exact .inl ⟨_, _, rfl⟩
  · rw [parseBytes_toUTF8]
    rcases Rpc.Request.parse_frame_cases hid method params with hparse | ⟨items, hparse⟩
    · rw [hparse]
      exact .inl ⟨_, _, rfl⟩
    · rw [hparse]
      simp only [validate_read id hmethod]
      exact .inr ⟨items, run_ran c ticket _⟩

end Node

end SealedChain
