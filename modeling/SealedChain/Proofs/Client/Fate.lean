import SealedChain.Proofs.Client.Pending

/-!
# What becomes of an exchange

`Change` says what an event does to a client. Here is what it does to a single exchange, and from it
what ended an exchange that has ended: a reply, a failed send, the end of its time, its caller's
going away, a look that found the client closed, or the clearing of the table.
-/
namespace SealedChain

def Slot.stage : Slot → Stage
  | .empty => .waiting
  | .filled reply => .ended (.ok reply)
  | .abandoned => .ended (.error .closed)

def Exchange.request (e : Exchange) : Rpc.Request := .new e.id e.method e.params

namespace Client

/-- An event of a client ends an exchange, and this is how. -/
inductive Ends (c : Client) (e : Exchange) : Event → Stage → Prop
  | refused (stage : e.stage = .registered) (closed : c.closed = true) :
      Ends c e (.check e.id) (.ended (.error .closed))
  | unsent (cause : TransportError) (stage : e.stage = .sending) :
      Ends c e (.sent e.id (.error cause)) (.ended (.error cause))
  | answered (reply : Rpc.Reply) (stage : e.stage = .waiting) (slot : e.slot = .filled reply) :
      Ends c e (.receive e.id) (.ended (.ok reply))
  | dropped (stage : e.stage = .waiting) (slot : e.slot = .abandoned) :
      Ends c e (.receive e.id) (.ended (.error .closed))
  | timedOut (limit : Millis) (stage : e.stage = .sending ∨ e.stage = .waiting ∧ e.slot = .empty) :
      Ends c e (.timeOut e.id limit) (.ended (.error (.timeout limit)))
  | cancelled (live : e.stage.isLive = true) : Ends c e (.cancel e.id) .cancelled

/-- What an event of a client makes of an exchange. -/
inductive Fate (c : Client) (e : Exchange) : Event → Exchange → Prop
  | kept (event : Event) : Fate c e event e
  | passed (stage : e.stage = .registered) (opened : c.closed = false) :
      Fate c e (.check e.id) { e with stage := .sending }
  | carried (stage : e.stage = .sending) :
      Fate c e (.sent e.id (.ok ())) { e with stage := .waiting }
  | ended (event : Event) (stage : Stage) (ends : Ends c e event stage) :
      Fate c e event { e with stage }
  | delivered (v : Json) (reply : Rpc.Reply) (pending : e.id ∈ c.pending)
      (opened : c.closed = false) : Fate c e (.element v) { e with slot := .filled reply }
  | cleared (pending : e.id ∈ c.pending) (closed : c.closed = true) :
      Fate c e .clear { e with slot := .abandoned }

theorem Ends.live {c : Client} {e : Exchange} {event : Event} {stage : Stage}
    (h : Ends c e event stage) : e.stage.isLive = true ∧ stage.isLive = false := by
  cases h with
  | refused hs => simp [hs, Stage.isLive]
  | unsent cause hs => simp [hs, Stage.isLive]
  | answered reply hs => simp [hs, Stage.isLive]
  | dropped hs => simp [hs, Stage.isLive]
  | timedOut limit hs => rcases hs with hs | ⟨hs, -⟩ <;> simp [hs, Stage.isLive]
  | cancelled hs => exact ⟨hs, rfl⟩

theorem Fate.request_eq {c : Client} {e x : Exchange} {event : Event} (h : Fate c e event x) :
    x.request = e.request := by
  cases h <;> rfl

theorem Fate.id_eq {c : Client} {e x : Exchange} {event : Event} (h : Fate c e event x) :
    x.id = e.id := congrArg Rpc.Request.id h.request_eq

variable {c : Client}

theorem mem_modify {id : Nat} {f : Exchange → Exchange} {x : Exchange}
    (hx : x ∈ (c.modify id f).exchanges) :
    x ∈ c.exchanges ∨ ∃ e ∈ c.exchanges, e.id = id ∧ x = f e := by
  obtain ⟨e, he, rfl⟩ := List.mem_map.mp hx
  split
  · rename_i hid
    exact .inr ⟨e, he, hid, rfl⟩
  · exact .inl he

theorem Coherent.fate (h : Coherent c) {event : Event} {x : Exchange}
    (hx : x ∈ (c.step event).exchanges) :
    (x.id = c.nextId ∧ x.stage = .registered ∧ x.slot = .empty ∧ x.method ≠ "") ∨
      ∃ e ∈ c.exchanges, Fate c e event x := by
  have kept : x ∈ c.exchanges → ∃ e ∈ c.exchanges, Fate c e event x := fun hx => ⟨x, hx, .kept _⟩
  -- the exchange that an event is about is the only one with its id
  have moved : ∀ {e : Exchange} (stage : Stage), c.find? e.id = some e →
      x ∈ (c.modify e.id fun e => { e with stage }).exchanges →
      Fate c e event { e with stage } → ∃ e ∈ c.exchanges, Fate c e event x := by
    intro e stage hf hx hfate
    rcases mem_modify hx with hx | ⟨e', he', hid, rfl⟩
    · exact kept hx
    · rw [h.eq_of_id he' (List.mem_of_find?_eq_some hf) hid]
      exact ⟨e, List.mem_of_find?_eq_some hf, hfate⟩
  cases event with
  | start method params =>
    simp only [step] at hx
    split at hx
    · exact .inr (kept hx)
    · rename_i hmethod
      rcases List.mem_cons.mp hx with rfl | hx
      · exact .inl ⟨rfl, rfl, rfl, hmethod⟩
      · exact .inr (kept hx)
  | check id =>
    refine .inr ?_
    simp only [step, check] at hx
    split at hx
    · rename_i hs
      obtain ⟨e, rfl, hs, hf⟩ := stage?_eq_some hs
      split at hx
      · rename_i hclosed
        exact moved _ hf hx (.ended _ _ (.refused hs hclosed))
      · rename_i hopen
        exact moved _ hf hx (.passed hs (by simpa using hopen))
    · exact kept hx
  | sent id result =>
    refine .inr ?_
    simp only [step, sent] at hx
    split at hx
    · rename_i hs
      obtain ⟨e, rfl, hs, hf⟩ := stage?_eq_some hs
      exact moved _ hf hx (.carried hs)
    · rename_i cause hs
      obtain ⟨e, rfl, hs, hf⟩ := stage?_eq_some hs
      exact moved _ hf hx (.ended _ _ (.unsent cause hs))
    · exact kept hx
  | receive id =>
    refine .inr ?_
    simp only [step, receive] at hx
    split at hx
    · rename_i reply hf
      obtain rfl := find?_id hf
      exact moved _ hf hx (.ended _ _ (.answered reply rfl rfl))
    · rename_i hf
      obtain rfl := find?_id hf
      exact moved _ hf hx (.ended _ _ (.dropped rfl rfl))
    · exact kept hx
  | timeOut id limit =>
    refine .inr ?_
    simp only [step, timeOut] at hx
    split at hx
    · rename_i hf
      obtain rfl := find?_id hf
      exact moved _ hf hx (.ended _ _ (.timedOut limit (.inl rfl)))
    · rename_i hf
      obtain rfl := find?_id hf
      exact moved _ hf hx (.ended _ _ (.timedOut limit (.inr ⟨rfl, rfl⟩)))
    · exact kept hx
  | cancel id =>
    refine .inr ?_
    simp only [step, cancel] at hx
    split at hx
    all_goals first
      | exact kept hx
      | rename_i hs
        obtain ⟨e, rfl, hs, hf⟩ := stage?_eq_some hs
        exact moved _ hf hx (.ended _ _ (.cancelled (by rw [hs]; rfl)))
  | element v =>
    refine .inr ?_
    rcases c.element_cases v with hv | ⟨reply, id, -, -, hp, hopen, hv⟩
    · exact kept (hv ▸ hx)
    · simp only [step, hv] at hx
      rcases mem_modify hx with hx | ⟨e, he, rfl, rfl⟩
      · exact kept hx
      · exact ⟨e, he, .delivered v reply hp hopen⟩
  | close => exact .inr (kept hx)
  | clear =>
    refine .inr ?_
    simp only [step, clear] at hx
    split at hx
    · rename_i hclosed
      obtain ⟨e, he, rfl⟩ := List.mem_map.mp hx
      split
      · rename_i hp
        exact ⟨e, he, .cleared hp hclosed⟩
      · exact ⟨e, he, .kept _⟩
    · exact kept hx

theorem Change.kept {event : Event} {c' : Client} (h : Change c event c') {e : Exchange}
    (he : e ∈ c.exchanges) : ∃ x ∈ c'.exchanges, x.request = e.request := by
  cases h with
  | same | closed => exact ⟨e, he, rfl⟩
  | registered method params => exact ⟨e, List.mem_cons_of_mem _ he, rfl⟩
  | advanced | finished | delivered | cleared =>
    refine ⟨_, List.mem_map.mpr ⟨e, he, rfl⟩, ?_⟩
    split <;> rfl

theorem method_ne_empty_run (es : List Event) {x : Exchange} (hx : x ∈ (run {} es).exchanges) :
    x.method ≠ "" := by
  induction es using List.reverseRecOn generalizing x with
  | nil => simp at hx
  | append_singleton es event ih =>
    rw [run_concat] at hx
    rcases (coherent_run es).fate hx with ⟨-, -, -, hmethod⟩ | ⟨e, he, hfate⟩
    · exact hmethod
    · have hsame : x.method = e.method := congrArg Rpc.Request.method hfate.request_eq
      exact hsame ▸ ih he

def EndedIn (es : List Event) (x : Exchange) : Prop :=
  ∃ before event rest e, es = before ++ event :: rest ∧ e ∈ (run {} before).exchanges ∧
    e.id = x.id ∧ Ends (run {} before) e event x.stage

theorem EndedIn.concat {es : List Event} {x : Exchange} (h : EndedIn es x) (event : Event) :
    EndedIn (es ++ [event]) x := by
  obtain ⟨before, event', rest, e, rfl, he, hid, hends⟩ := h
  exact ⟨before, event', rest ++ [event], e, by simp, he, hid, hends⟩

theorem endedIn_run (es : List Event) {x : Exchange} (hx : x ∈ (run {} es).exchanges)
    (hover : x.stage.isLive = false) : EndedIn es x := by
  induction es using List.reverseRecOn generalizing x with
  | nil => simp at hx
  | append_singleton es event ih =>
    have hc := coherent_run es
    rw [run_concat] at hx
    rcases hc.fate hx with ⟨-, hs, -⟩ | ⟨e, he, hfate⟩
    · simp [hs, Stage.isLive] at hover
    · cases hfate with
      | kept => exact (ih he hover).concat event
      | passed | carried => simp [Stage.isLive] at hover
      | ended _ stage hends => exact ⟨es, event, [], e, rfl, he, rfl, hends⟩
      | delivered _ _ hp | cleared hp =>
        obtain ⟨hlive, -⟩ := (hc.mem_pending he).mp hp
        simp [hlive] at hover

/-! ### Exchanges by their ids -/

theorem Coherent.find?_eq (hc : Coherent c) {e : Exchange} (he : e ∈ c.exchanges) :
    c.find? e.id = some e := by
  cases hf : c.find? e.id with
  | none => simpa using List.find?_eq_none.mp hf e he
  | some e' => rw [hc.eq_of_id (List.mem_of_find?_eq_some hf) he (find?_id hf)]

theorem find?_modify {id : Nat} {e : Exchange} (hf : c.find? id = some e) {f : Exchange → Exchange}
    (hid : ∀ x, (f x).id = x.id) : (c.modify id f).find? id = some (f e) := by
  obtain rfl := find?_id hf
  unfold find? modify at *
  simp only [List.find?_map]
  have hsame : ((fun x : Exchange => x.id == e.id) ∘ fun x => if x.id = e.id then f x else x) =
      fun x => x.id == e.id := by
    funext x
    simp only [Function.comp]
    split
    · rw [hid]
    · rfl
  rw [hsame, hf]
  simp

theorem find?_stage {id : Nat} {e : Exchange} (hf : c.find? id = some e) (stage : Stage) :
    (c.modify id fun e => { e with stage }).find? id = some { e with stage } :=
  find?_modify hf (fun _ => rfl)

theorem find?_finish {id : Nat} {e : Exchange} (hf : c.find? id = some e) (stage : Stage) :
    (c.finish id stage).find? id = some { e with stage } := find?_stage hf stage

theorem stage?_eq {id : Nat} {e : Exchange} (hf : c.find? id = some e) :
    c.stage? id = some e.stage := by
  rw [stage?, hf]
  rfl

theorem stage?_receive {id : Nat} {e : Exchange} (hf : c.find? id = some e)
    (hs : e.stage = .waiting) : (c.receive id).stage? id = some e.slot.stage := by
  obtain ⟨_, _, _, stage, slot⟩ := e
  obtain rfl : stage = .waiting := hs
  cases slot with
  | empty => simp [receive, hf, stage?, Slot.stage]
  | filled reply =>
    have hreceive : c.receive id = c.finish id (.ended (.ok reply)) := by simp [receive, hf]
    rw [hreceive]
    exact stage?_eq (find?_finish hf _)
  | abandoned =>
    have hreceive : c.receive id = c.finish id (.ended (.error .closed)) := by simp [receive, hf]
    rw [hreceive]
    exact stage?_eq (find?_finish hf _)

/-- An exchange that has sent its frame ends with the reply that is delivered to it. -/
theorem stage?_delivered {e : Exchange} (hf : c.find? e.id = some e)
    (hstage : e.stage = .sending ∨ e.stage = .waiting) (reply : Rpc.Reply) :
    (((c.deliver e.id reply).step (.sent e.id (.ok ()))).step (.receive e.id)).stage? e.id =
      some (.ended (.ok reply)) := by
  have hfilled : (c.deliver e.id reply).find? e.id = some { e with slot := .filled reply } :=
    find?_modify hf (fun _ => rfl)
  have hs := stage?_eq hfilled
  rcases hstage with hstage | hstage
  · have hsent : (c.deliver e.id reply).step (.sent e.id (.ok ())) =
        (c.deliver e.id reply).modify e.id fun e => { e with stage := .waiting } := by
      simp [step, sent, hs, hstage]
    rw [hsent]
    exact stage?_receive (find?_stage hfilled .waiting) rfl
  · have hsent : (c.deliver e.id reply).step (.sent e.id (.ok ())) = c.deliver e.id reply := by
      simp [step, sent, hs, hstage]
    rw [hsent]
    exact stage?_receive hfilled hstage

end Client

end SealedChain
