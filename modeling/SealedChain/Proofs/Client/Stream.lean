import SealedChain.Proofs.Client.Doomed
import SealedChain.Proofs.Text.Boundary

/-!
# The inbound stream of a socket

The frames that reach a client over a socket are those of its events before the first that ends it,
in their order and unchanged. After that event every send fails, and an exchange under way to which
no frame replies fails as soon as it goes on.
-/
namespace SealedChain.Socket

theorem Event.frame?_eq_some_iff {event : Event} {frame : String} : event.frame? = some frame ↔
    event = .text frame ∨ ∃ bytes, event = .binary bytes ∧ frame.toUTF8 = bytes := by
  cases event with
  | text | control | close | failure | ended => simp [frame?]
  | binary bytes =>
    rw [frame?, Utf8.fromUTF8?_eq_some_iff]
    simp [eq_comm]

namespace Traffic

variable {t : Traffic} {e : Exchange}

/-- A send fails only because the transport is closed. -/
theorem unsent_run (ss : List Step) (id : Nat) (cause : TransportError)
    (hmem : .sent id (.error cause) ∈ (run {} ss).dispatcher.history) : cause = .closed := by
  induction ss using List.reverseRecOn with
  | nil => cases hmem
  | append_singleton ss s ih =>
    rw [run_concat] at hmem
    rcases history_step (run {} ss) s with hsame | ⟨event, hhistory, hpermits⟩
    · exact ih (hsame ▸ hmem)
    · rw [hhistory] at hmem
      rcases List.mem_append.mp hmem with hmem | hmem
      · exact ih hmem
      · obtain rfl := List.mem_singleton.mp hmem
        exact hpermits

theorem cause_run (ss : List Step) (he : e ∈ (run {} ss).client.exchanges) {cause : TransportError}
    (hs : e.stage = .ended (.error cause)) : cause = .closed ∨ ∃ limit, cause = .timeout limit := by
  obtain ⟨before, event, rest, e', hhistory, -, -, hends⟩ :=
    Client.endedIn_run (run {} ss).dispatcher.history he (by rw [hs]; rfl)
  rw [hs] at hends
  cases hends with
  | refused | dropped => exact .inl rfl
  | unsent _ _ =>
    refine .inl (unsent_run ss e'.id cause ?_)
    rw [hhistory]
    simp
  | timedOut limit => exact .inr ⟨limit, rfl⟩

theorem passed_run (h : Sound t) (hmarked : t.shutdown = true) (ss : List Step) :
    (t.run ss).passed = t.passed := by
  induction ss generalizing t with
  | nil => rfl
  | cons s ss ih =>
    have hrest := ih (h.step s) ((ceased_step h s).2.1 hmarked)
    exact hrest.trans ((passed_step t s).2 hmarked)

/-- The frames of the events before the first that ends the socket. -/
def carried (events : List Event) : List String :=
  (events.takeWhile (!·.isLast)).filterMap Event.frame?

/-- What holds around a socket at which these events have happened, however its tasks go on. -/
structure Forwarding (t : Traffic) (events : List Event) : Prop where
  texts : ∀ (event : Event) (frame : String), event.frame? = some frame ↔
    event = .text frame ∨ ∃ bytes, event = .binary bytes ∧ frame.toUTF8 = bytes
  unchanged : t.forwarded <+: carried events
  complete : t.reading = false ∨ t.coming = [] → t.forwarded = carried events
  takes : ∀ event rest, t.reading = true → t.coming = event :: rest →
    (t.step .read).coming = rest ∧ (t.step .read).reading = !event.isLast ∧
      (t.step .read).forwarded = t.forwarded ++ event.frame?.toList
  stopped : t.reading = false → isClosed events = true ∧
    ∀ us, (t.run us).reading = false ∧ (t.run us).forwarded = t.forwarded
  ends : isClosed events = true → ∃ n, ∀ us, n ≤ us.countP Step.isRead →
    (t.run us).shutdown = true ∧ (t.run us).dispatcher.ended = true ∧
      ∃ m, ∀ vs, m ≤ vs.countP Step.isNext → ((t.run us).run vs).dispatcher.finished = true
  sends : t.shutdown = false → ∀ e ∈ t.client.exchanges, e.stage = .sending →
    (t.run [.look e.id, .hand e.id]).client.stage? e.id = some .waiting
  refuses : t.shutdown = true → t.reading = false ∧ ∀ us,
    (t.run us).shutdown = true ∧ send (t.run us).past = .error .closed ∧
      (t.run us).passed = t.passed ∧
      ∀ e ∈ (t.run us).client.exchanges, e.stage = .sending → e.id ∉ (t.run us).passed →
        ((t.run us).look e.id).client.stage? e.id = some (.ended (.error .closed))
  replied : ∀ e ∈ t.client.exchanges, ∀ reply, e.stage = .ended (.ok reply) →
    ∃ frame ∈ t.forwarded, ∃ v ∈ elementsOf frame, Client.RepliesTo v e.id reply
  failed : ∀ e ∈ t.client.exchanges, ∀ cause, e.stage = .ended (.error cause) →
    cause = .closed ∨ ∃ limit, cause = .timeout limit
  /-- An exchange without a reply fails by its own steps, wherever these stand among others. -/
  doomed : t.dispatcher.finished = true → t.dispatcher.ended = true ∧ t.shutdown = true ∧
    ∀ e ∈ t.client.exchanges, e.stage.isLive = true →
      (∀ frame ∈ carried events, ∀ v ∈ elementsOf frame, ∀ reply,
        ¬ Client.RepliesTo v e.id reply) →
      ∀ us, ∃ x ∈ (t.run us).client.exchanges, x.id = e.id ∧
        (x.stage.isLive = false → x.stage = .ended (.error .closed) ∨ x.stage = .cancelled) ∧
        ((strive e.id).Sublist us → x.stage.isLive = false)
  /-- When nothing else happens. -/
  carries : t.reading = true → t.coming = [] → t.dispatcher.inHand = [] → t.dispatcher.inbox = [] →
    ∀ later, ∃ n m,
      (t.run (later.map .occur ++ List.replicate n .read ++ List.replicate m .next)).client =
        carry t.client later

theorem forwarded_run (ss : List Step) : Forwarding (run {} ss) (ss.filterMap Step.event?) := by
  generalize ht : run {} ss = t
  generalize hbrought : ss.filterMap Step.event? = events
  have h : Sound t := ht ▸ sound_start.run ss
  have hevents : t.past ++ t.coming = events := by
    rw [← ht, ← hbrought]
    exact past_append_coming_run sound_start ss
  have hcarried : carried events =
      t.forwarded ++ if isClosed t.past then [] else frames t.coming := by
    rw [h.forwarded, ← frames_append, hevents, frames_eq]
    rfl
  have hstopped : t.reading = false → isClosed t.past = true := fun hr => by
    simpa [hr] using h.reading.symm
  exact {
    texts := fun _ _ => Event.frame?_eq_some_iff
    unchanged := by
      rw [hcarried]
      exact List.prefix_append _ _
    complete := by
      rintro (hr | hcoming)
      · rw [hcarried, hstopped hr, if_pos rfl, List.append_nil]
      · rw [hcarried, hcoming]
        simp [frames]
    takes := fun event rest hr hcoming => by
      have hread : t.step .read = { t.take event with coming := rest } := by
        simp [step, read, hr, hcoming]
      rw [hread, h.take_eq hr]
      exact ⟨rfl, rfl, rfl⟩
    stopped := fun hr => by
      refine ⟨?_, fun us => (ceased_run h us).1 hr⟩
      rw [← hevents, isClosed_append, hstopped hr, Bool.true_or]
    ends := fun hlast => ⟨t.readsLeft, fun us hreads => by
      have hended := ended_run h (hevents ▸ hlast) us hreads
      exact ⟨(h.run us).ended hended, hended, _, fun vs => finished_run (h.run us) hended vs⟩⟩
    sends := fun hunmarked _ he hs => sent_of_unmarked h hunmarked he hs
    refuses := fun hmarked => ⟨h.shutdown hmarked, fun us => by
      have hstill := (ceased_run h us).2.1 hmarked
      have hclosed : isClosed (t.run us).past = true := by
        have hreading := (h.run us).reading
        rw [(h.run us).shutdown hstill] at hreading
        simpa using hreading.symm
      exact ⟨hstill, by rw [send, if_pos hclosed], passed_run h hmarked us,
        fun e he hs hpassed => look_of_marked hstill he hs hpassed⟩⟩
    replied := fun e he reply hs => h.orderly.replied he (t.coherent.answered e he reply hs)
    failed := fun e he cause hs => by
      subst ht
      exact cause_run ss he hs
    doomed := fun hf => by
      have hended := h.ended_of_finished hf
      refine ⟨hended, h.ended hended, fun e he hlive hnone us => ?_⟩
      have hd := doomed_of_finished h hf he hlive fun frame hframe =>
        hnone frame (hcarried ▸ List.mem_append_left _ hframe)
      obtain ⟨x, hx, hid, hdoomed, hrank⟩ := doomed_run h hf he hd us
      refine ⟨x, hx, hid, fun hover => over_of_rank hdoomed (rank_of_over (t.run us) hover),
        fun hsub => ?_⟩
      rcases over_of_rank hdoomed (hrank 0 (Nat.zero_le _) hsub) with hs | hs
      · rw [hs]
        rfl
      · rw [hs]
        rfl
    carries := fun hr hcoming hdone hempty later => run_carry h hr hcoming hdone hempty later }

example :
    let start : List Step := [.call (.start "a" []) rfl, .call (.check 1) rfl, .look 1, .hand 1,
      .call (.start "b" []) rfl, .call (.check 2) rfl]
    let socket : List Step := [.text "x", .binary ⟨#[255]⟩, .control, .binary ⟨#[121]⟩, .close,
      .text "z"].map .occur
    let t := run {} (start ++ socket ++ List.replicate 7 .read ++ List.replicate 4 .next ++
      strive 1 ++ strive 2)
    t.forwarded = ["x", "y"] ∧ t.dispatcher.finished = true ∧
      t.client.exchanges.map (·.stage) = [.ended (.error .closed), .ended (.error .closed)] :=
  ⟨by decide +kernel, by decide +kernel, rfl⟩

end Traffic

end SealedChain.Socket
