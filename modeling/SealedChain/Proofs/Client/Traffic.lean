import SealedChain.Client.Transport.Socket
import SealedChain.Proofs.Client.Ending

/-!
# The tasks around a socket

A reader takes the events of a socket one after the other and forwards the frames that they carry to
the inbound stream, from which the loop that dispatches takes them. When the reader leaves its loop,
it marks the transport closed and then drops its end of the stream. A writer takes frames until it
sees the mark. An exchange looks for the mark first and hands its frame over then, and the mark may
come in between. All of them go on at their own pace. The client stays alive here, and no write
fails, so that only the reader marks the transport.
-/
namespace SealedChain

/-- Whether an event is a step of an exchange in which the transport has no part. -/
def Client.Event.isLocal : Client.Event → Bool
  | .start .. | .check _ | .receive _ | .timeOut .. | .cancel _ => true
  | .sent .. | .element _ | .close | .clear => false

theorem Client.Event.isCall_of_isLocal {event : Client.Event} (h : event.isLocal = true) :
    event.isCall = true := by
  cases event with
  | sent | element | close | clear => cases h
  | _ => rfl

namespace Socket

/-- What the reader does with an event: the frame that it forwards, and whether it goes on reading.
If nothing takes frames any more, it forwards none and stops. -/
def Event.forward (receiving : Bool) : Event → Option String × Bool
  | .text frame => (if receiving then some frame else none, receiving)
  | .binary bytes =>
    match String.fromUTF8? bytes with
    | some frame => (if receiving then some frame else none, receiving)
    | none => (none, true)
  | .control => (none, true)
  | .close | .failure | .ended => (none, false)

structure Traffic where
  dispatcher : Dispatcher := {}
  past : List Event := []
  coming : List Event := []
  reading : Bool := true
  shutdown : Bool := false
  writing : Bool := true
  /-- The exchanges that looked for the mark and found none. -/
  passed : List Nat := []

namespace Traffic

def client (t : Traffic) : Client := t.dispatcher.client

def forwarded (t : Traffic) : List String := t.dispatcher.arrived

def act (t : Traffic) (event : Client.Event) : Traffic :=
  { t with dispatcher := t.dispatcher.perform event }

def take (t : Traffic) (event : Event) : Traffic :=
  let (frame?, goesOn) := event.forward !t.dispatcher.finished
  { t with
    past := t.past ++ [event]
    reading := goesOn
    dispatcher := frame?.elim t.dispatcher fun frame => t.dispatcher.step (.arrive frame) }

def read (t : Traffic) : Traffic :=
  if t.reading then
    match t.coming with
    | [] => t
    | event :: coming => { t.take event with coming }
  else if t.shutdown then { t with dispatcher := t.dispatcher.step .hangUp }
  else { t with shutdown := true }

/-- An exchange that has to send its frame looks for the mark, once. -/
def look (t : Traffic) (id : Nat) : Traffic :=
  match t.client.stage? id with
  | some .sending =>
    if id ∈ t.passed then t
    else if t.shutdown then t.act (.sent id (.error .closed))
    else { t with passed := id :: t.passed }
  | _ => t

def hand (t : Traffic) (id : Nat) : Traffic :=
  if id ∈ t.passed then t.act (.sent id (if t.writing then .ok () else .error .closed)) else t

/-- An exchange does not wait before it has sent its frame, so its time is not up earlier. -/
def holdsBack (t : Traffic) : Client.Event → Bool
  | .timeOut id _ =>
    match t.client.stage? id with
    | some .sending => true
    | _ => false
  | _ => false

inductive Step where
  | occur (event : Event)
  | read
  | halt
  | quit
  | look (id : Nat)
  | hand (id : Nat)
  | call (event : Client.Event) (own : event.isLocal = true)
  | next

def Step.event? : Step → Option Event
  | .occur event => some event
  | _ => none

def Step.isRead : Step → Bool
  | .read => true
  | _ => false

def Step.isNext : Step → Bool
  | .next => true
  | _ => false

def step (t : Traffic) : Step → Traffic
  | .occur event => { t with coming := t.coming ++ [event] }
  | .read => t.read
  | .halt => if t.shutdown then { t with reading := false } else t
  | .quit => if t.shutdown then { t with writing := false } else t
  | .look id => t.look id
  | .hand id => t.hand id
  | .call event _ => if t.holdsBack event then t else t.act event
  | .next => { t with dispatcher := t.dispatcher.next }

def run (t : Traffic) (ss : List Step) : Traffic := ss.foldl step t

theorem run_append (t : Traffic) (ss us : List Step) : t.run (ss ++ us) = (t.run ss).run us :=
  List.foldl_append

theorem run_concat (t : Traffic) (ss : List Step) (s : Step) :
    t.run (ss ++ [s]) = (t.run ss).step s := by
  rw [run_append]
  rfl

end Traffic

/-! ### Events -/

theorem Event.frame?_eq_none {event : Event} (h : event.isLast = true) : event.frame? = none := by
  cases event with
  | text | binary | control => cases h
  | close | failure | ended => rfl

theorem Event.forward_true (event : Event) :
    event.forward true = (event.frame?, !event.isLast) := by
  cases event with
  | binary bytes =>
    simp only [forward, frame?, isLast]
    cases String.fromUTF8? bytes <;> rfl
  | _ => rfl

theorem isClosed_append (events rest : List Event) :
    isClosed (events ++ rest) = (isClosed events || isClosed rest) :=
  List.any_append

theorem frames_append (events rest : List Event) :
    frames (events ++ rest) = frames events ++ if isClosed events then [] else frames rest := by
  induction events with
  | nil => rfl
  | cons event events ih =>
    have hclosed : isClosed (event :: events) = (event.isLast || isClosed events) := List.any_cons
    rw [List.cons_append, frames, frames, ih, hclosed]
    cases event.isLast with
    | true => rfl
    | false => simp

theorem frames_singleton (event : Event) : frames [event] = event.frame?.toList := by
  unfold frames
  split
  · rename_i hlast
    rw [Event.frame?_eq_none hlast]
    rfl
  · exact List.append_nil _

namespace Traffic

/-! ### What a step can do -/

/-- What steps around a socket do to a client: a send fails because the transport is closed, and no
time is up while a frame is sent. -/
def Permits (t : Traffic) : Client.Event → Prop
  | .sent _ (.error cause) => cause = .closed
  | .timeOut id _ => t.client.stage? id ≠ some .sending
  | .start .. | .check _ | .sent _ (.ok ()) | .receive _ | .cancel _ | .element _ | .close
  | .clear => True

/-- Nothing happens on the reader's side. -/
structure Aside (t u : Traffic) : Prop where
  past : u.past = t.past
  coming : u.coming = t.coming
  reading : u.reading = t.reading
  shutdown : u.shutdown = t.shutdown
  forwarded : u.forwarded = t.forwarded
  ended : u.dispatcher.ended = t.dispatcher.ended
  writing : u.writing = false → t.writing = false ∨ t.shutdown = true

inductive Reads (t : Traffic) : Traffic → Prop
  | idle (reading : t.reading = true) (empty : t.coming = []) : Reads t t
  | took (event : Event) (rest : List Event) (reading : t.reading = true)
      (found : t.coming = event :: rest) :
      Reads t { t with
        past := t.past ++ [event]
        coming := rest
        reading := !event.isLast
        dispatcher := { t.dispatcher with
          arrived := t.dispatcher.arrived ++ event.frame?.toList
          inbox := t.dispatcher.inbox ++ event.frame?.toList } }
  | marked (stopped : t.reading = false) (unmarked : t.shutdown = false) :
      Reads t { t with shutdown := true }
  | hungUp (stopped : t.reading = false) (marked : t.shutdown = true) :
      Reads t { t with dispatcher := { t.dispatcher with ended := true } }

structure Sound (t : Traffic) : Prop where
  orderly : Dispatcher.Orderly t.dispatcher
  forwarded : t.forwarded = frames t.past
  reading : t.reading = !isClosed t.past
  shutdown : t.shutdown = true → t.reading = false
  ended : t.dispatcher.ended = true → t.shutdown = true
  writing : t.writing = false → t.shutdown = true

theorem sound_start : Sound {} where
  orderly := Dispatcher.orderly_start
  forwarded := rfl
  reading := rfl
  shutdown := by simp
  ended := by simp
  writing := by simp

variable {t : Traffic}

theorem dispatcher_step (t : Traffic) (s : Step) :
    (t.step s).dispatcher = t.dispatcher ∨
      ∃ e, (t.step s).dispatcher = t.dispatcher.step e ∧
        ∀ event own, e = .call event own → t.Permits event := by
  cases s with
  | occur => exact .inl rfl
  | halt | quit =>
    refine .inl ?_
    simp only [step]
    split <;> rfl
  | read =>
    simp only [step, read, take]
    split
    · split
      · exact .inl rfl
      · rename_i event _ _
        cases (event.forward !t.dispatcher.finished).1 with
        | none => exact .inl rfl
        | some frame => exact .inr ⟨.arrive frame, rfl, by rintro _ _ ⟨⟩⟩
    · split
      · exact .inr ⟨.hangUp, rfl, by rintro _ _ ⟨⟩⟩
      · exact .inl rfl
  | look id =>
    simp only [step, look]
    split
    · split
      · exact .inl rfl
      · split
        · exact .inr ⟨.call (.sent id (.error .closed)) rfl, rfl, by rintro _ _ ⟨⟩; rfl⟩
        · exact .inl rfl
    · exact .inl rfl
  | hand id =>
    simp only [step, hand]
    split
    · refine .inr ⟨.call (.sent id _) rfl, rfl, ?_⟩
      rintro _ _ ⟨⟩
      cases t.writing <;> trivial
    · exact .inl rfl
  | call event own =>
    simp only [step]
    split
    · exact .inl rfl
    · rename_i hheld
      refine .inr ⟨.call event (Client.Event.isCall_of_isLocal own), rfl, ?_⟩
      rintro _ _ ⟨⟩
      cases event with
      | timeOut id limit =>
        intro hs
        simp [holdsBack, hs] at hheld
      | sent | element | close | clear => cases own
      | start | check | receive | cancel => trivial
  | next => exact .inr ⟨.next, rfl, by rintro _ _ ⟨⟩⟩

theorem history_step (t : Traffic) (s : Step) :
    (t.step s).dispatcher.history = t.dispatcher.history ∨
      ∃ event, (t.step s).dispatcher.history = t.dispatcher.history ++ [event] ∧
        t.Permits event := by
  rcases dispatcher_step t s with hsame | ⟨e, hstep, hpermits⟩
  · exact .inl (by rw [hsame])
  · rw [hstep]
    cases e with
    | call event own => exact .inr ⟨event, rfl, hpermits event own rfl⟩
    | arrive frame =>
      refine .inl ?_
      simp only [Dispatcher.step]
      split <;> rfl
    | hangUp => exact .inl rfl
    | next =>
      simp only [Dispatcher.step, Dispatcher.next]
      repeat' split
      all_goals first
        | exact .inl rfl
        | exact .inr ⟨_, rfl, trivial⟩

theorem aside_next (t : Traffic) : Aside t (t.step .next) := by
  have hnext : t.dispatcher.next.arrived = t.dispatcher.arrived ∧
      t.dispatcher.next.ended = t.dispatcher.ended := by
    unfold Dispatcher.next
    repeat' split
    all_goals exact ⟨rfl, rfl⟩
  exact ⟨rfl, rfl, rfl, rfl, hnext.1, hnext.2, .inl⟩

namespace Sound

theorem ended_of_finished (h : Sound t) (hf : t.dispatcher.finished = true) :
    t.dispatcher.ended = true :=
  (h.orderly.drained (h.orderly.shut hf).closed).1

theorem unmarked_of_reading (h : Sound t) (hr : t.reading = true) : t.shutdown = false := by
  by_contra hmarked
  simp [h.shutdown (by simpa using hmarked)] at hr

theorem ended_of_reading (h : Sound t) (hr : t.reading = true) : t.dispatcher.ended = false := by
  by_contra hended
  have hmarked := h.ended (by simpa using hended)
  simp [h.unmarked_of_reading hr] at hmarked

theorem finished_of_reading (h : Sound t) (hr : t.reading = true) :
    t.dispatcher.finished = false := by
  by_contra hf
  have hended := h.ended_of_finished (by simpa using hf)
  simp [h.ended_of_reading hr] at hended

/-- While the reader is in its loop, the inbound stream takes every frame. -/
theorem take_eq (h : Sound t) (hr : t.reading = true) (event : Event) :
    t.take event = { t with
      past := t.past ++ [event]
      reading := !event.isLast
      dispatcher := { t.dispatcher with
        arrived := t.dispatcher.arrived ++ event.frame?.toList
        inbox := t.dispatcher.inbox ++ event.frame?.toList } } := by
  rw [take, h.finished_of_reading hr, Bool.not_false, Event.forward_true]
  cases event.frame? with
  | none => simp
  | some frame => simp [Dispatcher.step, h.ended_of_reading hr]

theorem reads (h : Sound t) : Reads t t.read := by
  unfold read
  split
  · rename_i hr
    split
    · rename_i hcoming
      exact .idle hr hcoming
    · rename_i event rest hcoming
      rw [h.take_eq hr]
      exact .took event rest hr hcoming
  · rename_i hr
    split
    · rename_i hmarked
      exact .hungUp (by simpa using hr) hmarked
    · rename_i hmarked
      exact .marked (by simpa using hr) (by simpa using hmarked)

theorem step_cases (h : Sound t) (s : Step) :
    (∃ event, s = .occur event ∧ t.step s = { t with coming := t.coming ++ [event] }) ∨
    (s = .read ∧ Reads t (t.step s)) ∨
    (s.event? = none ∧ s.isRead = false ∧ Aside t (t.step s)) := by
  cases s with
  | occur event => exact .inl ⟨event, rfl, rfl⟩
  | read => exact .inr (.inl ⟨rfl, h.reads⟩)
  | halt =>
    refine .inr (.inr ⟨rfl, rfl, ?_⟩)
    simp only [Traffic.step]
    split
    · rename_i hmarked
      exact ⟨rfl, rfl, (h.shutdown hmarked).symm, rfl, rfl, rfl, .inl⟩
    · exact ⟨rfl, rfl, rfl, rfl, rfl, rfl, .inl⟩
  | quit =>
    refine .inr (.inr ⟨rfl, rfl, ?_⟩)
    simp only [Traffic.step]
    split
    · rename_i hmarked
      exact ⟨rfl, rfl, rfl, rfl, rfl, rfl, fun _ => .inr hmarked⟩
    · exact ⟨rfl, rfl, rfl, rfl, rfl, rfl, .inl⟩
  | next => exact .inr (.inr ⟨rfl, rfl, aside_next t⟩)
  | look | hand | call =>
    refine .inr (.inr ⟨rfl, rfl, ?_⟩)
    simp only [Traffic.step, Traffic.look, Traffic.hand]
    repeat' split
    all_goals exact ⟨rfl, rfl, rfl, rfl, rfl, rfl, .inl⟩

theorem isClosed_past (h : Sound t) (hr : t.reading = true) : isClosed t.past = false := by
  simpa [hr] using h.reading.symm

theorem of_reads (h : Sound t) {u : Traffic} (hreads : Reads t u)
    (horderly : Dispatcher.Orderly u.dispatcher) : Sound u := by
  cases hreads with
  | idle => exact h
  | took event rest hr =>
    have hopen := h.isClosed_past hr
    exact {
      orderly := horderly
      forwarded := by
        have hforwarded : t.dispatcher.arrived = frames t.past := h.forwarded
        simp only [Traffic.forwarded]
        rw [frames_append, hopen, if_neg (by simp), frames_singleton, hforwarded]
      reading := by
        rw [isClosed_append, hopen]
        simp [isClosed]
      shutdown := fun hmarked => absurd (h.shutdown hmarked) (by simp [hr])
      ended := h.ended
      writing := h.writing }
  | marked hstopped hunmarked =>
    exact { h with
      shutdown := fun _ => hstopped
      ended := fun _ => rfl
      writing := fun _ => rfl }
  | hungUp hstopped hmarked =>
    exact { h with
      orderly := horderly
      ended := fun _ => hmarked }

theorem of_aside (h : Sound t) {u : Traffic} (haside : Aside t u)
    (horderly : Dispatcher.Orderly u.dispatcher) : Sound u where
  orderly := horderly
  forwarded := by rw [haside.forwarded, haside.past, h.forwarded]
  reading := by rw [haside.reading, haside.past, h.reading]
  shutdown := by rw [haside.shutdown, haside.reading]; exact h.shutdown
  ended := by rw [haside.ended, haside.shutdown]; exact h.ended
  writing := fun hw => by
    rw [haside.shutdown]
    exact (haside.writing hw).elim h.writing id

theorem step (h : Sound t) (s : Step) : Sound (t.step s) := by
  have horderly : Dispatcher.Orderly (t.step s).dispatcher := by
    rcases dispatcher_step t s with hsame | ⟨e, hstep, -⟩
    · rw [hsame]
      exact h.orderly
    · rw [hstep]
      exact h.orderly.step e
  rcases h.step_cases s with ⟨event, -, hstep⟩ | ⟨-, hreads⟩ | ⟨-, -, haside⟩
  · rw [hstep]
    exact { h with }
  · exact h.of_reads hreads horderly
  · exact h.of_aside haside horderly

theorem run (h : Sound t) (ss : List Step) : Sound (t.run ss) := by
  induction ss generalizing t with
  | nil => exact h
  | cons s ss ih => exact ih (h.step s)

end Sound

end Traffic

end Socket

end SealedChain
