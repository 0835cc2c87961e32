import SealedChain.Proofs.Client.Traffic

/-!
# The end of a socket

What has happened at a socket is taken by its reader in order, up to the first event after which
nothing is read. From there the reader marks the transport, the inbound stream ends and the loop
that dispatches comes to its end, each as soon as its task has gone on often enough. How often that
is at most is counted down; what other tasks do in between adds nothing to it.
-/
namespace SealedChain

namespace Socket.Traffic

variable {t : Traffic}

/-! ### The reader to its end -/

/-- The reader has left its loop, marked the transport and dropped its end of the stream, each only
after the one before, and nothing of that is taken back. -/
theorem ceased_step (h : Sound t) (s : Step) :
    (t.reading = false → (t.step s).reading = false ∧ (t.step s).forwarded = t.forwarded) ∧
    (t.shutdown = true → (t.step s).shutdown = true) ∧
    (t.dispatcher.ended = true → (t.step s).dispatcher.ended = true) := by
  rcases h.step_cases s with ⟨event, -, hstep⟩ | ⟨-, hreads⟩ | ⟨-, -, haside⟩
  · rw [hstep]
    exact ⟨fun hr => ⟨hr, rfl⟩, id, id⟩
  · generalize t.step s = u at hreads
    cases hreads with
    | idle => exact ⟨fun hr => ⟨hr, rfl⟩, id, id⟩
    | took _ _ hr => exact ⟨fun hstopped => absurd hr (by simp [hstopped]), id, id⟩
    | marked => exact ⟨fun hr => ⟨hr, rfl⟩, fun _ => rfl, id⟩
    | hungUp => exact ⟨fun hr => ⟨hr, rfl⟩, id, fun _ => rfl⟩
  · rw [haside.reading, haside.shutdown, haside.ended]
    exact ⟨fun hr => ⟨hr, haside.forwarded⟩, id, id⟩

theorem ceased_run (h : Sound t) (ss : List Step) :
    (t.reading = false → (t.run ss).reading = false ∧ (t.run ss).forwarded = t.forwarded) ∧
    (t.shutdown = true → (t.run ss).shutdown = true) ∧
    (t.dispatcher.ended = true → (t.run ss).dispatcher.ended = true) := by
  induction ss generalizing t with
  | nil => exact ⟨fun hr => ⟨hr, rfl⟩, id, id⟩
  | cons s ss ih =>
    obtain ⟨hreading, hshutdown, hended⟩ := ceased_step h s
    obtain ⟨ihreading, ihshutdown, ihended⟩ := ih (h.step s)
    refine ⟨fun hr => ?_, fun hmarked => ihshutdown (hshutdown hmarked),
      fun hover => ihended (hended hover)⟩
    obtain ⟨hr', hsame⟩ := hreading hr
    exact ⟨(ihreading hr').1, (ihreading hr').2.trans hsame⟩

theorem past_append_coming_step (h : Sound t) (s : Step) :
    (t.step s).past ++ (t.step s).coming = t.past ++ t.coming ++ s.event?.toList := by
  rcases h.step_cases s with ⟨event, rfl, hstep⟩ | ⟨rfl, hreads⟩ | ⟨hnone, -, haside⟩
  · rw [hstep]
    simp [Step.event?]
  · generalize t.step .read = u at hreads
    cases hreads with
    | took event rest _ hcoming => simp [hcoming, Step.event?]
    | idle | marked | hungUp => simp [Step.event?]
  · simp [haside.past, haside.coming, hnone]

theorem past_append_coming_run (h : Sound t) (ss : List Step) :
    (t.run ss).past ++ (t.run ss).coming = t.past ++ t.coming ++ ss.filterMap Step.event? := by
  induction ss generalizing t with
  | nil => simp [run]
  | cons s ss ih =>
    have hrest := ih (h.step s)
    rw [past_append_coming_step h s] at hrest
    change ((t.step s).run ss).past ++ ((t.step s).run ss).coming = _
    rw [hrest]
    cases hs : s.event? <;> simp [hs]

/-- How often the reader has to go on until it has dropped its end of the stream. -/
def readsLeft (t : Traffic) : Nat :=
  if t.reading then t.coming.findIdx Event.isLast + 3
  else if t.shutdown then if t.dispatcher.ended then 0 else 1
  else 2

theorem ended_of_readsLeft (h : t.readsLeft = 0) : t.dispatcher.ended = true := by
  unfold readsLeft at h
  repeat' split at h
  all_goals first
    | assumption
    | omega

/-- When the socket has come to its end, the reader gets nearer to its own whenever it goes on. -/
theorem readsLeft_step (h : Sound t) (hlast : isClosed (t.past ++ t.coming) = true) (s : Step) :
    (t.step s).readsLeft ≤ t.readsLeft - if s.isRead then 1 else 0 := by
  rw [isClosed_append] at hlast
  have hahead : t.reading = true → isClosed t.coming = true := fun hr => by
    simpa [h.isClosed_past hr] using hlast
  rcases h.step_cases s with ⟨event, rfl, hstep⟩ | ⟨rfl, hreads⟩ | ⟨-, hread, haside⟩
  · rw [hstep]
    unfold readsLeft
    cases hr : t.reading with
    | false => simp [Step.isRead]
    | true =>
      have hmem : ∃ x ∈ t.coming, x.isLast = true := List.any_eq_true.mp (hahead hr)
      simp [Step.isRead, List.findIdx_append, hmem]
  · generalize t.step .read = u at hreads
    unfold readsLeft
    cases hreads with
    | idle hr hempty =>
      have hclosed := hahead hr
      simp [hempty, isClosed] at hclosed
    | took event rest hr hcoming =>
      have hunmarked := h.unmarked_of_reading hr
      cases hevent : event.isLast with
      | true => simp [hr, hcoming, hunmarked, Step.isRead]
      | false => simp [hr, hcoming, hevent, Step.isRead, List.findIdx_cons]
    | marked hstopped hunmarked =>
      simp only [hstopped, hunmarked, Step.isRead, Bool.false_eq_true, if_false, if_true]
      split <;> omega
    | hungUp hstopped hmarked => simp [hstopped, hmarked]
  · rw [hread]
    simp [readsLeft, haside.reading, haside.coming, haside.shutdown, haside.ended]

theorem readsLeft_run (h : Sound t) (hlast : isClosed (t.past ++ t.coming) = true)
    (ss : List Step) : (t.run ss).readsLeft ≤ t.readsLeft - ss.countP Step.isRead := by
  induction ss generalizing t with
  | nil => simp [run]
  | cons s ss ih =>
    have hstep := readsLeft_step h hlast s
    have hrest := ih (h.step s)
      (by rw [past_append_coming_step h s, isClosed_append, hlast, Bool.true_or])
    rw [List.countP_cons]
    change ((t.step s).run ss).readsLeft ≤ _
    omega

end Socket.Traffic

/-! ### The loop to its end -/

namespace Socket.Traffic

variable {t : Traffic}

theorem nextsLeft_step (hended : t.dispatcher.ended = true) (s : Step) :
    (t.step s).dispatcher.nextsLeft ≤ t.dispatcher.nextsLeft - if s.isNext then 1 else 0 := by
  cases s with
  | next => exact Dispatcher.nextsLeft_next hended
  | _ =>
    rcases dispatcher_step t _ with hsame | ⟨e, hstep, -⟩
    · rw [hsame]
      simp [Step.isNext]
    · rw [hstep]
      exact Dispatcher.nextsLeft_step hended e

theorem nextsLeft_run (h : Sound t) (hended : t.dispatcher.ended = true) (ss : List Step) :
    (t.run ss).dispatcher.nextsLeft ≤ t.dispatcher.nextsLeft - ss.countP Step.isNext := by
  induction ss generalizing t with
  | nil => simp [run]
  | cons s ss ih =>
    have hstep := nextsLeft_step hended s
    have hrest := ih (h.step s) ((ceased_step h s).2.2 hended)
    rw [List.countP_cons]
    change ((t.step s).run ss).dispatcher.nextsLeft ≤ _
    omega

/-- When the socket has come to its end, so does the inbound stream once the reader has gone on
often enough, whatever else happens in between. -/
theorem ended_run (h : Sound t) (hlast : isClosed (t.past ++ t.coming) = true) (ss : List Step)
    (hreads : t.readsLeft ≤ ss.countP Step.isRead) : (t.run ss).dispatcher.ended = true := by
  have hleft := readsLeft_run h hlast ss
  exact ended_of_readsLeft (by omega)

/-- After the end of the stream the loop comes to its own once it has gone on often enough, whatever
else happens in between. -/
theorem finished_run (h : Sound t) (hended : t.dispatcher.ended = true) (ss : List Step)
    (hnexts : t.dispatcher.nextsLeft ≤ ss.countP Step.isNext) :
    (t.run ss).dispatcher.finished = true := by
  have hleft := nextsLeft_run h hended ss
  exact Dispatcher.finished_of_nextsLeft (by omega)

/-! ### Nothing but the socket -/

theorem run_occur (t : Traffic) (events : List Event) :
    t.run (events.map .occur) = { t with coming := t.coming ++ events } := by
  induction events generalizing t with
  | nil => simp [run]
  | cons event events ih =>
    change (t.step (.occur event)).run (events.map .occur) = _
    rw [ih]
    simp [step]

theorem run_next (t : Traffic) (n : Nat) :
    (t.run (List.replicate n .next)).dispatcher = t.dispatcher.run (List.replicate n .next) := by
  induction n generalizing t with
  | zero => rfl
  | succ n ih =>
    rw [List.replicate_succ, List.replicate_succ]
    exact ih (t.step .next)

theorem run_reads (h : Sound t) (hr : t.reading = true) :
    ∃ n, (t.run (List.replicate n .read)).dispatcher = { t.dispatcher with
      arrived := t.dispatcher.arrived ++ frames t.coming
      inbox := t.dispatcher.inbox ++ frames t.coming
      ended := isClosed t.coming } := by
  generalize hcoming : t.coming = coming
  induction coming generalizing t with
  | nil =>
    refine ⟨0, ?_⟩
    have hended : isClosed [] = t.dispatcher.ended := (h.ended_of_reading hr).symm
    simp [run, frames, hended]
  | cons event rest ih =>
    have hreads := h.reads
    have hsound := h.step .read
    simp only [step] at hsound
    generalize hu : t.read = u at hreads hsound
    cases hreads with
    | idle _ hempty => simp [hempty] at hcoming
    | took event' rest' _ hfound =>
      obtain ⟨rfl, rfl⟩ := List.cons.inj (hcoming.symm.trans hfound)
      have hrun : ∀ n, t.run (List.replicate (n + 1) .read) = t.read.run (List.replicate n .read) :=
        fun n => by rw [List.replicate_succ]; rfl
      cases hlast : event.isLast with
      | true =>
        -- it takes the event, marks the transport and drops its end of the stream
        have hunmarked := h.unmarked_of_reading hr
        have hthree : t.run (List.replicate 3 .read) = t.read.read.read := rfl
        refine ⟨3, ?_⟩
        rw [hthree, hu]
        simp [read, Dispatcher.step, frames, isClosed, hlast, hunmarked,
          Event.frame?_eq_none hlast]
      | false =>
        simp only [hlast] at hu hsound
        obtain ⟨n, hn⟩ := ih hsound rfl rfl
        refine ⟨n + 1, ?_⟩
        rw [hrun, hu, hn]
        simp [frames, isClosed, hlast]
    | marked hstopped | hungUp hstopped => simp [hr] at hstopped

/-- When nothing else happens, the reader and the loop make of the client what the events of the
socket make of it. -/
theorem run_carry (h : Sound t) (hr : t.reading = true) (hcoming : t.coming = [])
    (hdone : t.dispatcher.inHand = []) (hempty : t.dispatcher.inbox = []) (events : List Event) :
    ∃ n m, (t.run (events.map .occur ++ List.replicate n .read ++ List.replicate m .next)).client =
      carry t.client events := by
  have hoccur := run_occur t events
  rw [hcoming, List.nil_append] at hoccur
  have hsound : Sound { t with coming := events } := hoccur ▸ h.run (events.map .occur)
  have hopen : t.client.closed = false := by
    by_contra hclosed
    have hended := (h.orderly.drained (by simpa [client] using hclosed)).1
    simp [h.ended_of_reading hr] at hended
  obtain ⟨n, hn⟩ := run_reads hsound hr
  obtain ⟨m, hm, -⟩ := Dispatcher.run_dispatch
    (({ t with coming := events } : Traffic).run (List.replicate n .read)).dispatcher
    (by rw [hn]; exact h.finished_of_reading hr) (by rw [hn]; exact hdone) (by rw [hn]; exact hopen)
  have hinbox : t.dispatcher.inbox ++ frames events = frames events := by rw [hempty]; rfl
  refine ⟨n, m, ?_⟩
  rw [run_append, run_append, hoccur, client, run_next, hm, hn, carry]
  simp only [hinbox]
  rfl

end Socket.Traffic

end SealedChain
