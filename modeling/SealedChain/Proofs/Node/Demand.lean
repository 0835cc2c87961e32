import Mathlib.Data.List.Induction
import SealedChain.Node.Dispatch

/-!
# What a request demands

A method takes its parameters by position. `Asks` says which lists of parameters demand something,
and what; with any other list the request fails with one code, before the chain is looked at. What
is demanded is then served by the chain alone.
-/
namespace SealedChain.Node

inductive Question where
  | height
  | chainId
  | version
  | byTag (tag : BlockTag)
  | byHash (hash : Hash)
  | call (call : CallRequest)

inductive Demand where
  | create (command : BlockCommand)
  | finalize (hash : Hash)
  | submit (raw : Bytes)
  | question (q : Question)

inductive Optional {α : Type} (read? : Json → Option α) : Option Json → Option α → Prop
  | missing : Optional read? none none
  | null : Optional read? (some .null) none
  | given (v : Json) (x : α) (named : v ≠ .null) (read : read? v = some x) :
      Optional read? (some v) (some x)

/-- The parameters with which a method demands something. -/
inductive Asks : Rpc.Method → List Json → Demand → Prop
  | createBlock (createEmpty finalize : Bool) (rest : List Json) (parent : Option Hash)
      (atMost : rest.length ≤ 1) (optional : Optional (Json.word? 32) rest.head? parent) :
      Asks .createBlock (.bool createEmpty :: .bool finalize :: rest)
        (.create ⟨createEmpty, finalize, parent⟩)
  | finalizeBlock (v : Json) (hash : Hash) (rest : List Json) (atMost : rest.length ≤ 1)
      (read : v.word? 32 = some hash) : Asks .finalizeBlock (v :: rest) (.finalize hash)
  | sendRawTransaction (v : Json) (raw : Bytes) (read : v.bytes? = some raw) :
      Asks .sendRawTransaction [v] (.submit raw)
  | blockNumber : Asks .blockNumber [] (.question .height)
  | chainId : Asks .chainId [] (.question .chainId)
  | netVersion : Asks .netVersion [] (.question .version)
  | getBlockByNumber (v : Json) (tag : BlockTag) (rest : List Json) (full : Option Bool)
      (atMost : rest.length ≤ 1) (read : BlockTag.ofJson? v = some tag)
      (optional : Optional Json.bool? rest.head? full) :
      Asks .getBlockByNumber (v :: rest) (.question (.byTag tag))
  | getBlockByHash (v : Json) (hash : Hash) (rest : List Json) (full : Option Bool)
      (atMost : rest.length ≤ 1) (read : v.word? 32 = some hash)
      (optional : Optional Json.bool? rest.head? full) :
      Asks .getBlockByHash (v :: rest) (.question (.byHash hash))
  | call (v : Json) (call : CallRequest) (rest : List Json) (tag : Option BlockTag)
      (atMost : rest.length ≤ 1) (read : CallRequest.ofJson? v = some call)
      (optional : Optional BlockTag.ofJson? rest.head? tag) :
      Asks .call (v :: rest) (.question (.call call))

def demandOf (e : Envelope) : Rpc.Method → Except MethodFault Demand
  | .createBlock => (commandOf e).map .create
  | .finalizeBlock => (finalizedOf e).map .finalize
  | .sendRawTransaction => (transactionOf e).map .submit
  | .blockNumber => (asParams (e.atMost 0)).map fun _ => .question .height
  | .chainId => (asParams (e.atMost 0)).map fun _ => .question .chainId
  | .netVersion => (asParams (e.atMost 0)).map fun _ => .question .version
  | .getBlockByNumber => do
    asParams (e.atMost 2)
    let tag ← asParams (e.param 0 BlockTag.ofJson?)
    let _ ← asParams (e.optionalParam 1 Json.bool?)
    return .question (.byTag tag)
  | .getBlockByHash => do
    asParams (e.atMost 2)
    let hash ← asParams (e.param 0 (Json.word? 32))
    let _ ← asParams (e.optionalParam 1 Json.bool?)
    return .question (.byHash hash)
  | .call => do
    asParams (e.atMost 2)
    let call ← asParams (e.param 0 CallRequest.ofJson?)
    let _ ← asParams (e.optionalParam 1 BlockTag.ofJson?)
    return .question (.call call)

/-- What the chain has to say to a question. -/
def Question.answer (c : Chain) : Question → Except MethodFault Json
  | .height => .ok (.ofQuantity c.blockNumber)
  | .chainId => .ok (.ofQuantity c.config.chainId)
  | .version => .ok (.string (String.ofList (Digits.decimal c.config.chainId)))
  | .byTag tag => .ok (recordOrNull (c.blockByNumber? tag))
  | .byHash hash => .ok (recordOrNull (c.blockByHash? hash))
  | .call r =>
    if r.target ≠ some historyContract then .error .foreignTarget
    else match r.calldata.bind historyHeight? with
      | none => .error .calldata
      | some n => .ok (.ofBytes (if n < limit64 then c.blockHash n else sentinelHash).toBytes)

/-- What becomes of a demand of a request with an id. -/
def serve (c : Chain) (ticket : Nat) (id : Json) : Demand → Chain × Outcome
  | .create command =>
    ((c.create command).1, .answered (answerText id (match (c.create command).2 with
      | .ok created => .ok created.toJson.sorted
      | .error error => .error (.chain error))))
  | .submit raw =>
    ((c.submit raw).1, .answered (answerText id (match (c.submit raw).2 with
      | .ok hash => .ok (.ofWord hash)
      | .error error => .error (.chain error))))
  | .finalize hash =>
    match c.finalize? hash ticket with
    | some c => (c, .awaiting id)
    | none => (c, .answered (answerText id (.error (.chain .stopped))))
  | .question q => (c, .answered (answerText id (q.answer c)))

def chainCode {α : Type} : Except ChainError α → Option Int
  | .ok _ => none
  | .error e => some e.code.code

/-- The code with which a demand fails on a chain, if it does. The verdict is what the ticket of a
finalization is answered with. -/
def Demand.code? (c : Chain) (verdict : Except ChainError Unit) : Demand → Option Int
  | .create command => chainCode (c.create command).2
  | .submit raw => chainCode (c.submit raw).2
  | .finalize _ => chainCode verdict
  | .question (.call r) =>
    if r.target ≠ some historyContract then some (-32000)
    else if r.calldata.map List.length = some 32 then none
    else some (-32602)
  | .question _ => none

/-! ### Parameters -/

theorem bind_eq_ok {ε α β : Type} {x : Except ε α} {f : α → Except ε β} {b : β} :
    (x >>= f) = .ok b ↔ ∃ a, x = .ok a ∧ f a = .ok b := by
  cases x <;> simp [bind, Except.bind]

theorem map_eq_ok {ε α β : Type} {x : Except ε α} {f : α → β} {b : β} :
    x.map f = .ok b ↔ ∃ a, x = .ok a ∧ f a = b := by
  cases x <;> simp [Except.map]

theorem asParams_eq_ok {α : Type} {x : Except ParamFault α} {a : α} :
    asParams x = .ok a ↔ x = .ok a := by
  cases x <;> simp [asParams]

section Parameters

variable {α β : Type} {e : Envelope} {read? : Json → Option α} {opt? : Json → Option β}

theorem atMost_ok_iff {count : Nat} {u : Unit} :
    e.atMost count = .ok u ↔ e.args.length ≤ count := by
  unfold Envelope.atMost
  split <;> simp <;> omega

theorem param_ok_iff {index : Nat} {x : α} :
    e.param index read? = .ok x ↔ ∃ v, e.args[index]? = some v ∧ read? v = some x := by
  unfold Envelope.param
  cases e.args[index]? with
  | none => simp
  | some v => cases hv : read? v <;> simp [hv]

@[simp] theorem optional_none {y : Option β} : Optional opt? none y ↔ y = none :=
  ⟨by rintro ⟨⟩; rfl, by rintro rfl; exact .missing⟩

@[simp] theorem optional_null {y : Option β} : Optional opt? (some .null) y ↔ y = none := by
  constructor
  · intro h
    cases h with
    | null => rfl
    | given _ _ hnull => exact absurd rfl hnull
  · rintro rfl
    exact .null

theorem optional_some {v : Json} (hnull : v ≠ .null) {y : Option β} :
    Optional opt? (some v) y ↔ ∃ x, opt? v = some x ∧ y = some x := by
  constructor
  · intro h
    cases h with
    | null => exact absurd rfl hnull
    | given _ x _ hx => exact ⟨x, hx, rfl⟩
  · rintro ⟨x, hx, rfl⟩
    exact .given v x hnull hx

theorem optionalParam_ok_iff {index : Nat} {y : Option β} :
    e.optionalParam index opt? = .ok y ↔ Optional opt? e.args[index]? y := by
  unfold Envelope.optionalParam
  generalize e.args[index]? = p
  split
  · simp [eq_comm]
  · simp [eq_comm]
  · rename_i v hnull
    rw [optional_some hnull]
    cases opt? v <;> simp [eq_comm]

theorem parentOf_ok_iff {p : Option Json} {parent : Option Hash} :
    BlockCommand.parentOf p = .ok parent ↔ Optional (Json.word? 32) p parent := by
  unfold BlockCommand.parentOf
  split
  · simp [eq_comm]
  · simp [eq_comm]
  · rename_i v hnull
    rw [optional_some hnull]
    cases v.word? 32 <;> simp [eq_comm]

theorem bool?_iff {v : Json} {b : Bool} : v.bool? = some b ↔ v = .bool b := by
  cases v <;> simp [Json.bool?]

theorem ofParams_ok_iff {args : List Json} {command : BlockCommand} :
    BlockCommand.ofParams args = .ok command ↔
      ∃ rest, args = .bool command.createEmpty :: .bool command.finalize :: rest ∧
        rest.length ≤ 1 ∧ Optional (Json.word? 32) rest.head? command.parent := by
  constructor
  · intro h
    unfold BlockCommand.ofParams at h
    split at h
    · rename_i first second rest
      split at h
      · cases h
      · rename_i hcount
        split at h
        · cases h
        · rename_i createEmpty hfirst
          split at h
          · cases h
          · rename_i finalize hsecond
            obtain ⟨parent, hparent, rfl⟩ := map_eq_ok.mp h
            exact ⟨rest, by rw [bool?_iff.mp hfirst, bool?_iff.mp hsecond], Nat.not_lt.mp hcount,
              parentOf_ok_iff.mp hparent⟩
    · cases h
  · rintro ⟨rest, rfl, hcount, hparent⟩
    rw [BlockCommand.ofParams, if_neg (Nat.not_lt.mpr hcount), parentOf_ok_iff.mpr hparent]
    rfl

theorem single_ok_iff (count : Nat) {x : α} :
    (do
      asParams (e.atMost (count + 1))
      asParams (e.param 0 read?)) = .ok x ↔
    ∃ v rest, e.args = v :: rest ∧ rest.length ≤ count ∧ read? v = some x := by
  simp only [bind_eq_ok, asParams_eq_ok, atMost_ok_iff, param_ok_iff, exists_const]
  cases e.args <;> simp

theorem pair_ok_iff {f : α → Demand} {d : Demand} :
    (do
      asParams (e.atMost 2)
      let x ← asParams (e.param 0 read?)
      let _ ← asParams (e.optionalParam 1 opt?)
      return f x) = .ok d ↔
    ∃ v rest x y, e.args = v :: rest ∧ rest.length ≤ 1 ∧ read? v = some x ∧
      Optional opt? rest.head? y ∧ f x = d := by
  simp only [bind_eq_ok, asParams_eq_ok, atMost_ok_iff, param_ok_iff, optionalParam_ok_iff,
    exists_const, pure, Except.pure, Except.ok.injEq]
  cases e.args with
  | nil => simp
  | cons v rest => simp [List.head?_eq_getElem?, and_assoc]

theorem commandOf_ok_iff {command : BlockCommand} : commandOf e = .ok command ↔
    ∃ rest, e.args = .bool command.createEmpty :: .bool command.finalize :: rest ∧
      rest.length ≤ 1 ∧ Optional (Json.word? 32) rest.head? command.parent := by
  rw [← ofParams_ok_iff, commandOf]
  cases BlockCommand.ofParams e.args <;> simp

theorem finalizedOf_ok_iff {hash : Hash} : finalizedOf e = .ok hash ↔
    ∃ v rest, e.args = v :: rest ∧ rest.length ≤ 1 ∧ v.word? 32 = some hash :=
  single_ok_iff 1

theorem transactionOf_ok_iff {raw : Bytes} : transactionOf e = .ok raw ↔
    ∃ v, e.args = [v] ∧ v.bytes? = some raw := by
  rw [transactionOf, single_ok_iff 0]
  simp

end Parameters

theorem error_of_bind {ε α β : Type} {x : Except ε α} {f : α → Except ε β} {fault : ε}
    (h : (x >>= f) = .error fault) : x = .error fault ∨ ∃ a, x = .ok a ∧ f a = .error fault := by
  cases x with
  | error e => exact .inl (congrArg Except.error (Except.error.inj h))
  | ok a => exact .inr ⟨a, rfl, h⟩

theorem code_of_asParams {α : Type} {x : Except ParamFault α} {fault : MethodFault}
    (h : asParams x = .error fault) : fault.code = .invalidParams := by
  cases x with
  | error cause => cases h; rfl
  | ok a => cases h

theorem code_of_map {α β : Type} {x : Except MethodFault α} {f : α → β} {fault : MethodFault}
    (hx : ∀ fault, x = .error fault → fault.code = .invalidParams) (h : x.map f = .error fault) :
    fault.code = .invalidParams := by
  cases x with
  | error e => cases h; exact hx _ rfl
  | ok a => cases h

theorem code_of_bind {α β : Type} {x : Except ParamFault α} {f : α → Except MethodFault β}
    {fault : MethodFault} (hf : ∀ a fault, f a = .error fault → fault.code = .invalidParams)
    (h : (asParams x >>= f) = .error fault) : fault.code = .invalidParams := by
  rcases error_of_bind h with hx | ⟨a, -, ha⟩
  · exact code_of_asParams hx
  · exact hf a fault ha

/-- What is wrong with the parameters is answered with one code. -/
theorem code_of_demandOf {e : Envelope} {m : Rpc.Method} {fault : MethodFault}
    (h : demandOf e m = .error fault) : fault.code = .invalidParams := by
  cases m with
  | createBlock =>
    refine code_of_map (fun fault h => ?_) h
    unfold commandOf at h
    split at h
    · cases h
    · cases h; rfl
  | finalizeBlock | sendRawTransaction =>
    exact code_of_map (fun fault h => code_of_bind (fun _ _ => code_of_asParams) h) h
  | blockNumber | chainId | netVersion => exact code_of_map (fun fault => code_of_asParams) h
  | getBlockByNumber | getBlockByHash | call =>
    refine code_of_bind (fun _ _ h => ?_) h
    refine code_of_bind (fun _ _ h => ?_) h
    exact code_of_bind (fun _ _ h => by cases h) h

theorem demandOf_iff {e : Envelope} {m : Rpc.Method} {d : Demand} :
    demandOf e m = .ok d ↔ Asks m e.args d := by
  cases m with
  | createBlock =>
    rw [demandOf, map_eq_ok]
    simp only [commandOf_ok_iff]
    constructor
    · rintro ⟨command, ⟨rest, hargs, hcount, hparent⟩, rfl⟩
      rw [hargs]
      exact .createBlock command.createEmpty command.finalize rest command.parent hcount hparent
    · intro h
      generalize e.args = args at h
      cases h with
      | createBlock createEmpty finalize rest parent hcount hparent =>
        exact ⟨⟨createEmpty, finalize, parent⟩, ⟨rest, rfl, hcount, hparent⟩, rfl⟩
  | finalizeBlock =>
    rw [demandOf, map_eq_ok]
    simp only [finalizedOf_ok_iff]
    constructor
    · rintro ⟨hash, ⟨v, rest, hargs, hcount, hv⟩, rfl⟩
      rw [hargs]
      exact .finalizeBlock v hash rest hcount hv
    · intro h
      generalize e.args = args at h
      cases h with
      | finalizeBlock v hash rest hcount hv => exact ⟨hash, ⟨v, rest, rfl, hcount, hv⟩, rfl⟩
  | sendRawTransaction =>
    rw [demandOf, map_eq_ok]
    simp only [transactionOf_ok_iff]
    constructor
    · rintro ⟨raw, ⟨v, hargs, hv⟩, rfl⟩
      rw [hargs]
      exact .sendRawTransaction v raw hv
    · intro h
      generalize e.args = args at h
      cases h with
      | sendRawTransaction v raw hv => exact ⟨raw, ⟨v, rfl, hv⟩, rfl⟩
  | blockNumber | chainId | netVersion =>
    simp only [demandOf, map_eq_ok, asParams_eq_ok, atMost_ok_iff, Nat.le_zero_eq,
      List.length_eq_zero_iff, exists_const]
    generalize e.args = args
    constructor
    · rintro ⟨rfl, rfl⟩
      constructor
    · intro h
      cases h
      exact ⟨rfl, rfl⟩
  | getBlockByNumber =>
    rw [demandOf, pair_ok_iff]
    constructor
    · rintro ⟨v, rest, tag, full, hargs, hcount, hv, hfull, rfl⟩
      rw [hargs]
      exact .getBlockByNumber v tag rest full hcount hv hfull
    · intro h
      generalize e.args = args at h
      cases h with
      | getBlockByNumber v tag rest full hcount hv hfull =>
        exact ⟨v, rest, tag, full, rfl, hcount, hv, hfull, rfl⟩
  | getBlockByHash =>
    rw [demandOf, pair_ok_iff]
    constructor
    · rintro ⟨v, rest, hash, full, hargs, hcount, hv, hfull, rfl⟩
      rw [hargs]
      exact .getBlockByHash v hash rest full hcount hv hfull
    · intro h
      generalize e.args = args at h
      cases h with
      | getBlockByHash v hash rest full hcount hv hfull =>
        exact ⟨v, rest, hash, full, rfl, hcount, hv, hfull, rfl⟩
  | call =>
    rw [demandOf, pair_ok_iff]
    constructor
    · rintro ⟨v, rest, call, tag, hargs, hcount, hv, htag, rfl⟩
      rw [hargs]
      exact .call v call rest tag hcount hv htag
    · intro h
      generalize e.args = args at h
      cases h with
      | call v call rest tag hcount hv htag =>
        exact ⟨v, rest, call, tag, rfl, hcount, hv, htag, rfl⟩

theorem run_eq (c : Chain) (ticket : Nat) (e : Envelope) :
    run c ticket e = match Rpc.Method.ofName? e.method with
      | none => (c, .answered (answerText e.id (.error .unknownMethod)))
      | some m => match demandOf e m with
        | .error fault => (c, .answered (answerText e.id (.error fault)))
        | .ok d => serve c ticket e.id d := by
  unfold run
  cases Rpc.Method.ofName? e.method with
  | none => rfl
  | some m =>
    cases m with
    | createBlock =>
      simp only [demandOf]
      cases commandOf e with
      | error fault => rfl
      | ok command =>
        simp only [Except.map, serve]
        rcases c.create command with ⟨c', _ | _⟩ <;> rfl
    | sendRawTransaction =>
      simp only [demandOf]
      cases transactionOf e with
      | error fault => rfl
      | ok raw =>
        simp only [Except.map, serve]
        rcases c.submit raw with ⟨c', _ | _⟩ <;> rfl
    | finalizeBlock =>
      simp only [demandOf]
      cases finalizedOf e with
      | error fault => rfl
      | ok hash => rfl
    | blockNumber | chainId | netVersion =>
      simp only [query?, demandOf]
      cases asParams (e.atMost 0) <;> rfl
    | getBlockByNumber | getBlockByHash =>
      simp only [query?, demandOf]
      cases asParams (e.atMost 2) with
      | error fault => rfl
      | ok =>
        simp only [bind, Except.bind]
        split
        · rfl
        · split <;> rfl
    | call =>
      simp only [query?, demandOf]
      cases asParams (e.atMost 2) with
      | error fault => rfl
      | ok =>
        simp only [bind, Except.bind]
        split
        · rfl
        · split
          · rfl
          · rfl

end SealedChain.Node
