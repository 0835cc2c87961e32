import SealedChain.Proofs.Chain.Replay
import SealedChain.Proofs.Json.Passage
import SealedChain.Proofs.Json.Range
import SealedChain.Proofs.Node.Answer

/-!
# The reply to a body

Every body is replied to with one object. It is under the id that the body has of its own, on success
and on every failure, and under null only if the body has none. Whether it is an error is settled in
one order: what is wrong with the body, then with its method, then with its parameters, and only for
what passes all of that by the chain.
-/
namespace SealedChain.Node

/-- The body is an object with this id, which is a number or a string. -/
structure OwnId (body : ByteArray) (id : Json) : Prop where
  small : body.size ≤ maxBodySize
  found : ∃ members, Json.parseBytes body = some (.object members) ∧
    Json.lookup "id" members = some id
  usable : id.isNumber = true ∨ id.isString = true

structure Holds (body : ByteArray) (e : Envelope) : Prop where
  small : body.size ≤ maxBodySize
  valid : ∃ v, Json.parseBytes body = some v ∧ Envelope.validate v = .ok e

/-- What a body demands, or the code with which it is refused before the chain is asked. -/
inductive Reads (body : ByteArray) : Except Int Demand → Prop
  | tooLarge (large : maxBodySize < body.size) : Reads body (.error (-32600))
  | unread (small : body.size ≤ maxBodySize) (unread : Json.parseBytes body = none) :
      Reads body (.error (-32700))
  | faulty (v : Json) (fault : EnvelopeFault) (small : body.size ≤ maxBodySize)
      (read : Json.parseBytes body = some v) (invalid : Envelope.validate v = .error fault) :
      Reads body (.error fault.code.code)
  | unknown (e : Envelope) (holds : Holds body e) (unknown : ∀ m : Rpc.Method, m.name ≠ e.method) :
      Reads body (.error (-32601))
  | misused (e : Envelope) (m : Rpc.Method) (holds : Holds body e) (known : m.name = e.method)
      (misused : ∀ d, ¬ Asks m e.args d) : Reads body (.error (-32602))
  | demands (e : Envelope) (m : Rpc.Method) (d : Demand) (holds : Holds body e)
      (known : m.name = e.method) (asks : Asks m e.args d) : Reads body (.ok d)

structure Replies (v id : Json) (code : Option Int) : Prop where
  version : v.get? "jsonrpc" = some (.string "2.0")
  id : v.get? "id" = some id
  result : (v.get? "result").isSome = code.isNone
  error : ∃ message, v.get? "error" = code.map fun code =>
    .ofMembers [("code", .integer code), ("message", .string message)]

/-- The text is one value from its first character to its last. -/
def OneValue (text : String) : Prop :=
  ∀ fuel, text.toList.length < fuel → Json.Reader.skip fuel .value [] text.toList = some []

/-- The id and the code that a reply to a body has to have. The verdict is what a finalization comes
to. -/
structure Fitting (c : Chain) (body : ByteArray) (verdict : Except ChainError Unit) (id : Json)
    (code : Option Int) : Prop where
  own : ∀ own, OwnId body own → id = own
  anonymous : (∀ own, ¬ OwnId body own) → id = .null
  refused : ∀ k, Reads body (.error k) → code = some k
  served : ∀ d, Reads body (.ok d) → code = d.code? c verdict

/-- The text that a body is answered with: at once, or once the chain has answered its ticket in what
happens after it. -/
inductive Gives (c : Chain) (ticket : Nat) (body : ByteArray) (es : List Chain.Event)
    (verdict : Except ChainError Unit) : String → Prop
  | atOnce (text : String) (now : (respond c ticket body).2 = .answered text) :
      Gives c ticket body es verdict text
  | afterwards (id : Json) (awaiting : (respond c ticket body).2 = .awaiting id)
      (answered : ⟨ticket, verdict⟩ ∈ (respond c ticket body).1.answered es) :
      Gives c ticket body es verdict (finalizedText id verdict)

/-! ### The id -/

def idOf (body : ByteArray) : Json :=
  if maxBodySize < body.size then .null
  else match Json.parseBytes body with
    | none => .null
    | some v => Envelope.detectId v

theorem idOf_of_parsed {body : ByteArray} {v : Json} (hsmall : body.size ≤ maxBodySize)
    (hparse : Json.parseBytes body = some v) : idOf body = Envelope.detectId v := by
  rw [idOf, if_neg (Nat.not_lt.mpr hsmall), hparse]

theorem OwnId.idOf_eq {body : ByteArray} {id : Json} (h : OwnId body id) : idOf body = id := by
  obtain ⟨members, hparse, hfound⟩ := h.found
  rw [idOf_of_parsed h.small hparse, Envelope.detectId, Json.get?, hfound]
  exact if_pos (by simpa using h.usable)

theorem ownId_idOf (body : ByteArray) : OwnId body (idOf body) ∨ idOf body = .null := by
  unfold idOf
  split
  · exact .inr rfl
  · rename_i hsize
    cases hparse : Json.parseBytes body with
    | none => exact .inr rfl
    | some v =>
      simp only [Envelope.detectId]
      split
      · rename_i id hid
        split
        · rename_i husable
          cases v with
          | object members =>
            exact .inl ⟨Nat.not_lt.mp hsize, ⟨members, hparse, hid⟩, by simpa using husable⟩
          | _ => cases hid
        · exact .inr rfl
      · exact .inr rfl

theorem id_of_validate {v : Json} {e : Envelope} (h : Envelope.validate v = .ok e) :
    ∃ members, v = .object members ∧ e.id = (Json.lookup "id" members).getD .null ∧
      Envelope.isId e.id = true := by
  unfold Envelope.validate at h
  split at h
  · rename_i members
    split at h
    · cases h
    · split at h
      · cases h
      · split at h
        · cases h
        · split at h
          · cases h
          · dsimp only at h
            split at h
            · cases h
            · rename_i hid
              obtain ⟨params, -, rfl⟩ := map_eq_ok.mp h
              exact ⟨members, rfl, rfl, by simpa using hid⟩
  · cases h

theorem detectId_of_validate {v : Json} {e : Envelope} (h : Envelope.validate v = .ok e) :
    Envelope.detectId v = e.id := by
  obtain ⟨members, rfl, hid, hisId⟩ := id_of_validate h
  rw [Envelope.detectId, Json.get?]
  cases hfound : Json.lookup "id" members with
  | none => rw [hid, hfound, Option.getD_none]
  | some id =>
    rw [hfound, Option.getD_some] at hid
    subst hid
    by_cases husable : (e.id.isNumber || e.id.isString) = true
    · exact if_pos husable
    · rw [Envelope.isId] at hisId
      simp only [husable, Bool.false_or, beq_iff_eq] at hisId
      rw [hisId]
      rfl

theorem readsBack_of_inRange {id : Json} (husable : id.isNumber = true ∨ id.isString = true)
    (hrange : id.InRange) (hreal : ∀ x, id ≠ .real x) : id.ReadsBack := by
  cases id with
  | integer i =>
    refine ⟨?_, by simp only [Json.sorted]⟩
    rw [Json.fits]
    exact decide_eq_true (hrange i rfl)
  | real x => exact absurd rfl (hreal x)
  | string s => exact readsBack_string s
  | null | bool | array | object => simp [Json.isNumber, Json.isString] at husable

/-- The id that is answered under is read as it was sent, unless it is a double. -/
theorem readsBack_idOf (body : ByteArray) (hreal : ∀ x, idOf body ≠ .real x) :
    (idOf body).ReadsBack := by
  rcases ownId_idOf body with hown | hnull
  · obtain ⟨members, hparse, hfound⟩ := hown.found
    unfold Json.parseBytes at hparse
    split at hparse
    · exact readsBack_of_inRange hown.usable (Json.inRange_lookup hparse hfound) hreal
    · cases hparse
  · rw [hnull]
    exact readsBack_null

/-! ### The checks -/

def reading (body : ByteArray) : Except (Rpc.ErrorCode × String) Demand :=
  if maxBodySize < body.size then .error (.invalidRequest, "Request too large")
  else match Json.parseBytes body with
    | none => .error (.parseError, "Parse error")
    | some v => match Envelope.validate v with
      | .error fault => .error (fault.code, fault.code.wording fault.message)
      | .ok e => match Rpc.Method.ofName? e.method with
        | none => .error (.methodNotFound, MethodFault.unknownMethod.message)
        | some m => (demandOf e m).mapError fun fault => (fault.code, fault.message)

theorem reading_of_holds {body : ByteArray} {e : Envelope} (h : Holds body e) :
    reading body = match Rpc.Method.ofName? e.method with
      | none => .error (.methodNotFound, MethodFault.unknownMethod.message)
      | some m => (demandOf e m).mapError fun fault => (fault.code, fault.message) := by
  obtain ⟨v, hparse, hvalid⟩ := h.valid
  rw [reading, if_neg (Nat.not_lt.mpr h.small), hparse]
  simp only [hvalid]

theorem ofName?_eq_none {name : String} :
    Rpc.Method.ofName? name = none ↔ ∀ m : Rpc.Method, m.name ≠ name := by
  constructor
  · rintro h m rfl
    rw [Rpc.Method.ofName?_name] at h
    cases h
  · intro h
    cases hm : Rpc.Method.ofName? name with
    | none => rfl
    | some m => exact absurd (Rpc.Method.name_of_ofName? hm) (h m)

theorem ofName?_of_name {m : Rpc.Method} {name : String} (h : m.name = name) :
    Rpc.Method.ofName? name = some m := by
  rw [← h, Rpc.Method.ofName?_name]

theorem Reads.reading_eq {body : ByteArray} {r : Except Int Demand} (h : Reads body r) :
    (reading body).mapError (fun refusal => refusal.1.code) = r := by
  cases h with
  | tooLarge large =>
    rw [reading, if_pos large]
    rfl
  | unread small unread =>
    rw [reading, if_neg (Nat.not_lt.mpr small), unread]
    rfl
  | faulty v fault small read invalid =>
    rw [reading, if_neg (Nat.not_lt.mpr small), read]
    simp only [invalid]
    rfl
  | unknown e holds unknown =>
    rw [reading_of_holds holds, ofName?_eq_none.mpr unknown]
    rfl
  | misused e m holds known misused =>
    rw [reading_of_holds holds, ofName?_of_name known]
    cases hdemand : demandOf e m with
    | error fault =>
      simp only [hdemand, Except.mapError, code_of_demandOf hdemand]
      rfl
    | ok d => exact absurd (demandOf_iff.mp hdemand) (misused d)
  | demands e m d holds known asks =>
    rw [reading_of_holds holds, ofName?_of_name known]
    simp only [demandOf_iff.mpr asks, Except.mapError]

theorem reads_of_holds {body : ByteArray} {e : Envelope} (h : Holds body e) :
    Reads body ((reading body).mapError fun refusal => refusal.1.code) := by
  rw [reading_of_holds h]
  cases hname : Rpc.Method.ofName? e.method with
  | none => exact .unknown e h (ofName?_eq_none.mp hname)
  | some m =>
    have hknown : m.name = e.method := Rpc.Method.name_of_ofName? hname
    cases hdemand : demandOf e m with
    | error fault =>
      simp only [hdemand, Except.mapError, code_of_demandOf hdemand]
      refine .misused e m h hknown fun d hasks => ?_
      rw [demandOf_iff.mpr hasks] at hdemand
      cases hdemand
    | ok d =>
      simp only [hdemand, Except.mapError]
      exact .demands e m d h hknown (demandOf_iff.mp hdemand)

theorem reads_reading (body : ByteArray) :
    Reads body ((reading body).mapError fun refusal => refusal.1.code) := by
  by_cases hsize : maxBodySize < body.size
  · rw [reading, if_pos hsize]
    exact .tooLarge hsize
  · have hsmall : body.size ≤ maxBodySize := Nat.not_lt.mp hsize
    cases hparse : Json.parseBytes body with
    | none =>
      rw [reading, if_neg hsize, hparse]
      exact .unread hsmall hparse
    | some v =>
      cases hvalid : Envelope.validate v with
      | error fault =>
        rw [reading, if_neg hsize, hparse]
        simp only [hvalid]
        exact .faulty v fault hsmall hparse hvalid
      | ok e => exact reads_of_holds ⟨hsmall, v, hparse, hvalid⟩

theorem reads_iff {body : ByteArray} {r : Except Int Demand} :
    Reads body r ↔ (reading body).mapError (fun refusal => refusal.1.code) = r :=
  ⟨Reads.reading_eq, fun h => h ▸ reads_reading body⟩

theorem respond_eq (c : Chain) (ticket : Nat) (body : ByteArray) :
    respond c ticket body = match reading body with
      | .error (code, message) => (c, .answered (errorText (idOf body) code message))
      | .ok d => serve c ticket (idOf body) d := by
  unfold respond reading
  split
  · rename_i hsize
    rw [idOf, if_pos hsize]
  · rename_i hsize
    cases hparse : Json.parseBytes body with
    | none =>
      rw [idOf, if_neg hsize, hparse]
    | some v =>
      have hid := idOf_of_parsed (Nat.not_lt.mp hsize) hparse
      cases hvalid : Envelope.validate v with
      | error fault => simp only [hvalid, hid]
      | ok e =>
        rw [detectId_of_validate hvalid] at hid
        simp only [hvalid, run_eq, hid]
        cases Rpc.Method.ofName? e.method with
        | none => rfl
        | some m =>
          simp only
          cases demandOf e m <;> rfl

/-! ### The text -/

inductive Text (id : Json) : Option Int → String → Prop
  | success (result : Json) (readsBack : result.ReadsBack) : Text id none (successText id result)
  | failure (code : Rpc.ErrorCode) (message : String) :
      Text id (some code.code) (errorText id code message)

theorem oneValue_render (v : Json) : OneValue v.render := by
  intro fuel hfuel
  simp only [Json.render, String.toList_ofList] at hfuel ⊢
  simpa only [List.append_nil] using Json.Reader.skip_eq v Json.Reader.stops_nil hfuel

theorem text_answerText (id : Json) {r : Except MethodFault Json}
    (hr : ∀ result, r = .ok result → result.ReadsBack) : Text id (faultCode r) (answerText id r) := by
  cases r with
  | ok result => exact .success result (hr result rfl)
  | error fault => exact .failure fault.code fault.message

theorem text_finalizedText (id : Json) (verdict : Except ChainError Unit) :
    Text id (chainCode verdict) (finalizedText id verdict) := by
  cases verdict with
  | ok => exact .success (.bool true) ⟨rfl, by simp only [Json.sorted]⟩
  | error e => exact .failure e.code e.message

theorem replies_success (id : Json) {result : Json} (hresult : result.ReadsBack) :
    ∃ v, successText id result = v.render ∧ Replies v id none ∧ v.get? "result" = some result ∧
      (id.ReadsBack → Json.parse v.render = some v) := by
  refine ⟨_, rfl, ⟨?_, ?_, ?_, "", ?_⟩, ?_, parse_answer "result" hresult⟩ <;>
    simp [Json.get?_ofMembers, Json.lookup, Rpc.version]

theorem replies_failure (id : Json) (code : Rpc.ErrorCode) (message : String) :
    ∃ v, errorText id code message = v.render ∧ Replies v id (some code.code) ∧
      v.get? "result" = none ∧ (id.ReadsBack → Json.parse v.render = some v) := by
  refine ⟨_, rfl, ⟨?_, ?_, ?_, message, ?_⟩, ?_,
    parse_answer "error" (readsBack_errorOf code message)⟩ <;>
    simp [Json.get?_ofMembers, Json.lookup, Rpc.version]

theorem Text.replies {id : Json} {code : Option Int} {text : String} (h : Text id code text) :
    ∃ v, text = v.render ∧ Replies v id code ∧ (id.ReadsBack → Json.parse text = some v) := by
  cases h with
  | success result hresult =>
    obtain ⟨v, htext, hreplies, -, hparse⟩ := replies_success id hresult
    exact ⟨v, htext, hreplies, htext ▸ hparse⟩
  | failure code message =>
    obtain ⟨v, htext, hreplies, -, hparse⟩ := replies_failure id code message
    exact ⟨v, htext, hreplies, htext ▸ hparse⟩

variable {c : Chain} {ticket : Nat} {body : ByteArray} {es : List Chain.Event}
  {verdict : Except ChainError Unit}

theorem Gives.refused {text message : String} {code : Rpc.ErrorCode}
    (hreading : reading body = .error (code, message)) (h : Gives c ticket body es verdict text) :
    text = errorText (idOf body) code message := by
  have hrespond := respond_eq c ticket body
  rw [hreading] at hrespond
  cases h with
  | atOnce _ now =>
    rw [hrespond] at now
    exact (Outcome.answered.inj now).symm
  | afterwards id awaiting =>
    rw [hrespond] at awaiting
    cases awaiting

theorem Gives.served {text : String} {d : Demand} (hlive : c.accepting = true)
    (hreading : reading body = .ok d) (h : Gives c ticket body es verdict text) :
    Text (idOf body) (d.code? c verdict) text := by
  have hserved := serve_served c ticket (idOf body) d
  have hrespond := respond_eq c ticket body
  rw [hreading] at hrespond
  rw [← show respond c ticket body = serve c ticket (idOf body) d from hrespond] at hserved
  cases h with
  | atOnce _ now =>
    generalize respond c ticket body = p at hserved now
    cases hserved with
    | answered c' r _ _ hr hcode =>
      obtain rfl := Outcome.answered.inj now
      rw [hcode hlive verdict]
      exact text_answerText _ hr
    | awaiting => cases now
  | afterwards id awaiting =>
    generalize respond c ticket body = p at hserved awaiting
    cases hserved with
    | answered => cases awaiting
    | awaiting hash hd =>
      obtain rfl := Outcome.awaiting.inj awaiting
      rw [hd]
      exact text_finalizedText _ verdict

theorem Gives.fitting {text : String} (hlive : c.accepting = true)
    (h : Gives c ticket body es verdict text) :
    ∃ code, Text (idOf body) code text ∧ Fitting c body verdict (idOf body) code := by
  have hown : ∀ own, OwnId body own → idOf body = own := fun own hown => hown.idOf_eq
  have hanonymous : (∀ own, ¬ OwnId body own) → idOf body = .null :=
    fun hnone => (ownId_idOf body).resolve_left (hnone _)
  cases hreading : reading body with
  | error refusal =>
    obtain ⟨code, message⟩ := refusal
    obtain rfl := h.refused hreading
    refine ⟨some code.code, .failure code message, hown, hanonymous, fun k hreads => ?_,
      fun d hreads => ?_⟩
    · rw [reads_iff, hreading] at hreads
      exact congrArg some (Except.error.inj hreads)
    · rw [reads_iff, hreading] at hreads
      cases hreads
  | ok d =>
    refine ⟨d.code? c verdict, h.served hlive hreading, hown, hanonymous, fun k hreads => ?_,
      fun d' hreads => ?_⟩
    · rw [reads_iff, hreading] at hreads
      cases hreads
    · rw [reads_iff, hreading] at hreads
      rw [Except.ok.inj hreads]

theorem accepting_respond (c : Chain) (ticket : Nat) (body : ByteArray) :
    (respond c ticket body).1.accepting = c.accepting := by
  rw [respond_eq]
  cases reading body with
  | error refusal => rfl
  | ok d =>
    have hserved := serve_served c ticket (idOf body) d
    simp only
    generalize serve c ticket (idOf body) d = p at hserved
    cases hserved with
    | answered c' r _ hkept => exact hkept
    | awaiting hash _ ha =>
      simp only [Chain.step, Chain.finalize?, Chain.send?_of_accepting ha, Option.getD_some]

theorem respond_cases (c : Chain) (ticket : Nat) (body : ByteArray) :
    (∃ text, (respond c ticket body).2 = .answered text) ∨ c.accepting = true ∧
      ∃ hash id, respond c ticket body = (c.step (.finalize hash ticket), .awaiting id) := by
  rw [respond_eq]
  cases reading body with
  | error refusal => exact .inl ⟨_, rfl⟩
  | ok d =>
    have hserved := serve_served c ticket (idOf body) d
    simp only
    generalize serve c ticket (idOf body) d = p at hserved
    cases hserved with
    | answered c' r => exact .inl ⟨_, rfl⟩
    | awaiting hash _ ha => exact .inr ⟨ha, hash, _, rfl⟩

theorem gives_of_drained {config : ChainConfig} {done rest : List SealedBlock}
    (h : Chain.Consistent config c done rest)
    (hlive : ((respond c ticket body).1.run es).accepting = true)
    (hdrained : ((respond c ticket body).1.run es).Drained) :
    ∃ verdict text, Gives c ticket body es verdict text := by
  rcases respond_cases c ticket body with ⟨text, htext⟩ | ⟨ha, hash, id, hqueued⟩
  · exact ⟨.ok (), text, .atOnce text htext⟩
  · have hchain : (respond c ticket body).1 = c.step (.finalize hash ticket) :=
      congrArg Prod.fst hqueued
    rw [hchain] at hlive hdrained
    obtain ⟨verdict, hanswer⟩ := h.answers_finalize ha hash ticket hlive hdrained
    rw [← hchain] at hanswer
    exact ⟨verdict, _, .afterwards id (congrArg Prod.snd hqueued) hanswer⟩

/-- Whatever bytes are sent to a node whose committer is there, they are answered, at the latest
once the committer has nothing before it, with one object under their id that has the code of the
first check that they fail, or of the chain's refusal, or a result. -/
theorem replied_run (config : ChainConfig) (before : List Chain.Event) (ticket : Nat)
    (body : ByteArray) (hlive : ((Chain.start config).run before).accepting = true) :
    let c := (Chain.start config).run before
    let c' := (respond c ticket body).1
    (∃! r, Reads body r) ∧
    (∀ k, Reads body (.error k) → c' = c) ∧
    (∃ turns : List Chain.Event, (∀ turn ∈ turns, turn = .take ∨ turn = .apply) ∧
      (c'.run turns).accepting = true ∧ (c'.run turns).Drained) ∧
    (∀ es, (c'.run es).accepting = true → (c'.run es).Drained →
      ∃ verdict text, Gives c ticket body es verdict text) ∧
    ∀ es verdict text, Gives c ticket body es verdict text →
      OneValue text ∧ ∃ v id code, text = v.render ∧ Replies v id code ∧
        ((∀ x, id ≠ .real x) → Json.parse text = some v) ∧
        (∀ x, id = .real x → ∃ n, Json.Reader.numeral (Json.chars id) = some (n, []) ∧
          n.negative = x.negative ∧ ∀ y, Binary64.Rounds n.magnitude y ↔ y = x.code) ∧
        Fitting c body verdict id code := by
  intro c c'
  obtain ⟨done, rest, -, hchain⟩ := Chain.consistent_run config before
  refine ⟨⟨_, reads_reading body, fun r hreads => hreads.reading_eq.symm⟩, fun k hreads => ?_, ?_,
    fun es => gives_of_drained hchain, fun es verdict text hgives => ?_⟩
  · rw [reads_iff] at hreads
    simp only [c', respond_eq]
    cases hreading : reading body with
    | error refusal => rfl
    | ok d => rw [hreading] at hreads; cases hreads
  · obtain ⟨_, _, hchain'⟩ : ∃ done rest, Chain.Consistent config c' done rest := by
      rcases respond_changed c ticket body with hsame | ⟨e, hstep⟩
      · simp only [c', hsame]
        exact ⟨done, rest, hchain⟩
      · obtain ⟨done', rest', -, h'⟩ := hchain.change (Chain.step_change c e)
        simp only [c', hstep]
        exact ⟨done ++ done', rest', h'⟩
    exact hchain'.drain ((accepting_respond c ticket body).trans hlive)
  · obtain ⟨code, htext, hfitting⟩ := hgives.fitting hlive
    obtain ⟨v, rfl, hreplies, hparse⟩ := htext.replies
    refine ⟨oneValue_render v, v, idOf body, code, rfl, hreplies,
      fun hreal => hparse (readsBack_idOf body hreal), fun x hx => ?_, hfitting⟩
    have hdigits := Json.Reader.numeral_realChars x Json.Reader.stops_nil
    rw [List.append_nil] at hdigits
    rwa [hx, Json.chars]

/-- A finalization is replied to under its id, with the code of the verdict on it. -/
theorem replied_finalization :
    let body := (Rpc.Request.new 1 "engine_finalizeBlock" [.ofWord sentinelHash]).frame.toUTF8
    ∃ turns verdict text v, Gives (Chain.start {}) 0 body turns verdict text ∧ text = v.render ∧
      Replies v (.nat 1) (chainCode verdict) := by
  intro body
  have hread : Json.parseBytes body =
      some (Rpc.Request.read 1 "engine_finalizeBlock" [.ofWord sentinelHash]) := by
    rw [parseBytes_toUTF8, Rpc.Request.parse_frame (by decide) _ rfl]
    simp only [Json.sortedItems, Json.sorted_ofWord]
  have hsmall : body.size ≤ maxBodySize := by decide +kernel
  have hfound : (Rpc.Request.read 1 "engine_finalizeBlock" [.ofWord sentinelHash]).get? "id" =
      some (.nat 1) := Json.get?_ofMembers "id" _
  have hown : OwnId body (.nat 1) := ⟨hsmall, ⟨_, hread, hfound⟩, .inl rfl⟩
  have hreads : Reads body (.ok (.finalize sentinelHash)) :=
    .demands _ .finalizeBlock _ ⟨hsmall, _, hread, validate_read 1 (by decide) _⟩ rfl
      (.finalizeBlock _ _ [] (Nat.zero_le 1) (Json.word?_ofWord sentinelHash))
  obtain ⟨-, -, ⟨turns, -, hlive, hdrained⟩, hgives, hfits⟩ := replied_run {} [] 0 body rfl
  obtain ⟨verdict, text, hgiven⟩ := hgives turns hlive hdrained
  obtain ⟨-, v, id, code, htext, hreplies, -, -, hfitting⟩ := hfits turns verdict text hgiven
  obtain rfl := hfitting.own _ hown
  obtain rfl := hfitting.served _ hreads
  exact ⟨turns, verdict, text, v, hgiven, htext, hreplies⟩

end SealedChain.Node
