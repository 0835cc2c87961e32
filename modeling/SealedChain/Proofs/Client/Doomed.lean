import SealedChain.Proofs.Client.Drain
import SealedChain.Proofs.Client.Routing

/-!
# Exchanges at a socket that has ended

An exchange looks for the mark, hands its frame over and waits. When the loop has come to its end,
an exchange that is under way without a reply is doomed: none of its steps, and nothing that other
tasks do in between, brings it to anything but a closed transport.
-/
namespace SealedChain

/-- Nothing is to come for an exchange, and what it has come to is that the transport is closed, or
that its caller went away. -/
inductive Exchange.Doomed (e : Exchange) : Prop
  | unlooked (stage : e.stage = .registered)
  | stranded (stage : e.stage = .sending ∨ e.stage = .waiting) (slot : e.slot = .abandoned)
  | failed (stage : e.stage = .ended (.error .closed))
  | cancelled (stage : e.stage = .cancelled)

theorem Exchange.Doomed.abandoned {e : Exchange} (h : e.Doomed)
    (hs : e.stage = .sending ∨ e.stage = .waiting) : e.slot = .abandoned := by
  cases h with
  | stranded _ hslot => exact hslot
  | unlooked hs' | failed hs' | cancelled hs' => simp [hs'] at hs

namespace Client

variable {c : Client} {e x : Exchange}

/-- A closed client saves no exchange, if sends fail because the transport is closed and no time is
up while a frame is sent. -/
theorem Fate.doomed {event : Event} (hfate : Fate c e event x) (hd : e.Doomed)
    (hclosed : c.closed = true)
    (hsent : ∀ cause, event = .sent e.id (.error cause) → cause = .closed)
    (htime : ∀ limit, event = .timeOut e.id limit → e.stage ≠ .sending) : x.Doomed := by
  cases hfate with
  | kept => exact hd
  | passed _ hopen => simp [hclosed] at hopen
  | delivered _ _ _ hopen => simp [hclosed] at hopen
  | carried hs => exact .stranded (.inr rfl) (hd.abandoned (.inl hs))
  | cleared =>
    cases hd with
    | unlooked hs => exact .unlooked hs
    | stranded hs => exact .stranded hs rfl
    | failed hs => exact .failed hs
    | cancelled hs => exact .cancelled hs
  | ended _ stage hends =>
    cases hends with
    | refused | dropped => exact .failed rfl
    | cancelled => exact .cancelled rfl
    | unsent cause =>
      obtain rfl := hsent cause rfl
      exact .failed rfl
    | answered reply hs hslot => simp [hd.abandoned (.inr hs)] at hslot
    | timedOut limit hs =>
      rcases hs with hs | ⟨hs, hslot⟩
      · exact absurd hs (htime limit rfl)
      · simp [hd.abandoned (.inr hs)] at hslot

theorem stage?_check_of_closed (hf : c.find? e.id = some e) (hs : e.stage = .registered)
    (hclosed : c.closed = true) : (c.check e.id).stage? e.id = some (.ended (.error .closed)) := by
  have hcheck : c.check e.id = c.finish e.id (.ended (.error .closed)) := by
    simp [check, stage?_eq hf, hs, hclosed]
  rw [hcheck]
  exact stage?_eq (find?_finish hf _)

theorem stage?_sent_ok (hf : c.find? e.id = some e) (hs : e.stage = .sending) :
    (c.sent e.id (.ok ())).stage? e.id = some .waiting := by
  have hsent : c.sent e.id (.ok ()) = c.modify e.id fun e => { e with stage := .waiting } := by
    simp [sent, stage?_eq hf, hs]
  rw [hsent]
  exact stage?_eq (find?_stage hf _)

theorem stage?_sent_error (hf : c.find? e.id = some e) (hs : e.stage = .sending)
    (cause : TransportError) :
    (c.sent e.id (.error cause)).stage? e.id = some (.ended (.error cause)) := by
  have hsent : c.sent e.id (.error cause) = c.finish e.id (.ended (.error cause)) := by
    simp [sent, stage?_eq hf, hs]
  rw [hsent]
  exact stage?_eq (find?_finish hf _)

end Client

theorem Dispatcher.Orderly.replied {d : Dispatcher} (h : Orderly d) {e : Exchange}
    (he : e ∈ d.client.exchanges) {reply : Rpc.Reply} (hs : e.slot = .filled reply) :
    ∃ frame ∈ d.arrived, ∃ v ∈ elementsOf frame, Client.RepliesTo v e.id reply := by
  have hend : Client.after d.history d.history.length = d.client := by
    rw [Client.after, List.take_length]
    rfl
  rw [← hend] at he
  obtain ⟨k, v, hk, hv, hid, -⟩ := Client.filled_after d.history _ (Nat.le_refl _) he hs
  have hrouted : v ∈ d.history.filterMap Client.Event.value? :=
    List.mem_filterMap.mpr ⟨.element v, List.mem_of_getElem? hk, rfl⟩
  have hmem : v ∈ d.arrived.flatMap elementsOf := by
    rw [← h.routed]
    exact List.mem_append_left _ (List.mem_append_left _ hrouted)
  obtain ⟨frame, hframe, hmem⟩ := List.mem_flatMap.mp hmem
  exact ⟨frame, hframe, v, hmem, hv, hid⟩

namespace Socket.Traffic

variable {t : Traffic} {e x : Exchange}

theorem coherent (t : Traffic) : Client.Coherent t.client := t.dispatcher.coherent

theorem client_step (t : Traffic) (s : Step) :
    (t.step s).client = t.client ∨
      ∃ event, (t.step s).client = t.client.step event ∧ t.Permits event := by
  rcases history_step t s with hsame | ⟨event, hhistory, hpermits⟩
  · exact .inl (congrArg (Client.run {}) hsame)
  · refine .inr ⟨event, ?_, hpermits⟩
    exact (congrArg (Client.run {}) hhistory).trans (Client.run_concat _ _ _)

theorem passed_step (t : Traffic) (s : Step) :
    (∀ id ∈ t.passed, id ∈ (t.step s).passed) ∧
      (t.shutdown = true → (t.step s).passed = t.passed) := by
  have same : ∀ {u : Traffic}, u.passed = t.passed →
      (∀ id ∈ t.passed, id ∈ u.passed) ∧ (t.shutdown = true → u.passed = t.passed) :=
    fun hsame => ⟨fun id hid => hsame ▸ hid, fun _ => hsame⟩
  cases s with
  | look id =>
    simp only [step, look]
    split
    · split
      · exact same rfl
      · split
        · exact same rfl
        · rename_i hunmarked
          exact ⟨fun _ => List.mem_cons_of_mem _, fun hmarked => absurd hmarked hunmarked⟩
    · exact same rfl
  | occur | next => exact same rfl
  | read | halt | quit | hand | call =>
    refine same ?_
    simp only [step, read, take, hand]
    repeat' split
    all_goals rfl

/-! ### Sends -/

theorem look_of_marked (hmarked : t.shutdown = true) (he : e ∈ t.client.exchanges)
    (hs : e.stage = .sending) (hpassed : e.id ∉ t.passed) :
    (t.look e.id).client.stage? e.id = some (.ended (.error .closed)) := by
  have hf := t.coherent.find?_eq he
  have hlook : t.look e.id = t.act (.sent e.id (.error .closed)) := by
    simp [look, Client.stage?_eq hf, hs, hpassed, hmarked]
  rw [hlook]
  exact (congrArg (Client.stage? · e.id) (Dispatcher.client_perform _ _)).trans
    (Client.stage?_sent_error hf hs .closed)

theorem hand_of_passed (he : e ∈ t.client.exchanges) (hs : e.stage = .sending)
    (hpassed : e.id ∈ t.passed) : (t.hand e.id).client.stage? e.id =
      some (if t.writing then .waiting else .ended (.error .closed)) := by
  have hf := t.coherent.find?_eq he
  rw [hand, if_pos hpassed]
  refine (congrArg (Client.stage? · e.id) (Dispatcher.client_perform _ _)).trans ?_
  cases t.writing with
  | true => exact Client.stage?_sent_ok hf hs
  | false => exact Client.stage?_sent_error hf hs .closed

theorem sent_of_unmarked (h : Sound t) (hunmarked : t.shutdown = false)
    (he : e ∈ t.client.exchanges) (hs : e.stage = .sending) :
    (t.run [.look e.id, .hand e.id]).client.stage? e.id = some .waiting := by
  have hf := t.coherent.find?_eq he
  have hwriting : t.writing = true := by
    by_contra hw
    simp [h.writing (by simpa using hw)] at hunmarked
  change ((t.look e.id).hand e.id).client.stage? e.id = _
  by_cases hpassed : e.id ∈ t.passed
  · have hlook : t.look e.id = t := by simp [look, Client.stage?_eq hf, hs, hpassed]
    rw [hlook, hand_of_passed he hs hpassed, hwriting, if_pos rfl]
  · have hlook : t.look e.id = { t with passed := e.id :: t.passed } := by
      simp [look, Client.stage?_eq hf, hs, hpassed, hunmarked]
    rw [hlook, hand_of_passed (t := { t with passed := e.id :: t.passed }) he hs
      List.mem_cons_self, hwriting, if_pos rfl]

/-! ### Exchanges without a reply -/

/-- How many of its own steps an exchange has behind it. -/
def rank (t : Traffic) (e : Exchange) : Nat :=
  match e.stage with
  | .registered => 0
  | .sending => if e.id ∈ t.passed then 2 else 1
  | .waiting => 3
  | .ended _ | .cancelled => 4

def strive (id : Nat) : List Step :=
  [.call (.check id) rfl, .look id, .hand id, .call (.receive id) rfl]

theorem rank_le_four (t : Traffic) (e : Exchange) : t.rank e ≤ 4 := by
  unfold rank
  repeat' split
  all_goals omega

theorem rank_of_over (t : Traffic) (h : e.stage.isLive = false) : t.rank e = 4 := by
  unfold rank
  cases hs : e.stage with
  | registered | sending | waiting => simp [hs, Stage.isLive] at h
  | ended | cancelled => rfl

theorem rank_fate {event : Client.Event} (hfate : Client.Fate t.client e event x) {u : Traffic}
    (hpassed : ∀ id ∈ t.passed, id ∈ u.passed) : t.rank e ≤ u.rank x := by
  have kept : ∀ y : Exchange, y.id = e.id → y.stage = e.stage → t.rank e ≤ u.rank y := by
    intro y hid hs
    unfold rank
    rw [hs, hid]
    cases e.stage with
    | sending =>
      simp only
      split
      · rename_i hmem
        simp [hpassed _ hmem]
      · split <;> omega
    | registered | waiting | ended | cancelled => exact Nat.le_refl _
  cases hfate with
  | kept | delivered | cleared => exact kept _ rfl rfl
  | passed hs => simp [rank, hs]
  | carried hs =>
    unfold rank
    rw [hs]
    simp only
    split <;> omega
  | ended _ stage hends =>
    rw [rank_of_over u hends.live.2]
    exact rank_le_four t e

theorem lt_rank_of_stage? {u : Traffic} (hx : x ∈ u.client.exchanges) {stage : Stage}
    (hstage : u.client.stage? x.id = some stage) {k : Nat} (hk : k < 4)
    (hlater : stage = .waiting ∧ k < 3 ∨ stage.isLive = false) : k < u.rank x := by
  obtain rfl : x.stage = stage :=
    Option.some.inj ((Client.stage?_eq (u.coherent.find?_eq hx)).symm.trans hstage)
  rcases hlater with ⟨hs, hk⟩ | hover
  · simpa [rank, hs] using hk
  · rw [rank_of_over u hover]
    exact hk

theorem client_call (t : Traffic) {event : Client.Event} (own : event.isLocal = true)
    (h : t.holdsBack event = false) :
    (t.step (.call event own)).client = t.client.step event := by
  rw [step, h, if_neg (by simp)]
  exact Dispatcher.client_perform _ _

/-- What an exchange that is doomed comes to by the next of its own steps. -/
theorem stage?_strive (hclosed : t.client.closed = true) (hmarked : t.shutdown = true)
    (he : e ∈ t.client.exchanges) (hd : e.Doomed) {s : Step} {rest : List Step}
    (hnext : (strive e.id).drop (t.rank e) = s :: rest) :
    ∃ stage, (t.step s).client.stage? e.id = some stage ∧
      (stage = .waiting ∧ t.rank e < 3 ∨ stage.isLive = false) := by
  have hf := t.coherent.find?_eq he
  cases hs : e.stage with
  | registered =>
    rw [rank, hs] at hnext
    obtain ⟨rfl, -⟩ := List.cons.inj hnext
    have hstep : (t.step (.call (.check e.id) rfl)).client = t.client.check e.id :=
      client_call t rfl rfl
    exact ⟨_, (congrArg (Client.stage? · e.id) hstep).trans
      (Client.stage?_check_of_closed hf hs hclosed), .inr rfl⟩
  | sending =>
    by_cases hpassed : e.id ∈ t.passed
    · have hrank : t.rank e = 2 := by simp [rank, hs, hpassed]
      rw [hrank] at hnext
      obtain ⟨rfl, -⟩ := List.cons.inj hnext
      refine ⟨_, hand_of_passed he hs hpassed, ?_⟩
      cases t.writing with
      | true => exact .inl ⟨rfl, by omega⟩
      | false => exact .inr rfl
    · have hrank : t.rank e = 1 := by simp [rank, hs, hpassed]
      rw [hrank] at hnext
      obtain ⟨rfl, -⟩ := List.cons.inj hnext
      exact ⟨_, look_of_marked hmarked he hs hpassed, .inr rfl⟩
  | waiting =>
    rw [rank, hs] at hnext
    obtain ⟨rfl, -⟩ := List.cons.inj hnext
    have hstep : (t.step (.call (.receive e.id) rfl)).client = t.client.receive e.id :=
      client_call t rfl rfl
    refine ⟨_, (congrArg (Client.stage? · e.id) hstep).trans (Client.stage?_receive hf hs),
      .inr ?_⟩
    rw [hd.abandoned (.inr hs)]
    rfl
  | ended | cancelled =>
    rw [rank, hs] at hnext
    cases hnext

theorem fate_step (he : e ∈ t.client.exchanges) (s : Step) :
    ∃ x ∈ (t.step s).client.exchanges, x.id = e.id ∧
      ∃ event, t.Permits event ∧ Client.Fate t.client e event x := by
  rcases client_step t s with hsame | ⟨event, hevent, hpermits⟩
  · exact ⟨e, hsame ▸ he, rfl, .clear, trivial, .kept .clear⟩
  · obtain ⟨x, hx, hsame⟩ := (Client.step_change t.client event).kept he
    have hid : x.id = e.id := congrArg Rpc.Request.id hsame
    refine ⟨x, hevent ▸ hx, hid, event, hpermits, ?_⟩
    rcases t.coherent.fate hx with ⟨hnew, -⟩ | ⟨e', he', hfate⟩
    · exact absurd (t.coherent.id_lt e he) (by simp [← hid, hnew])
    · obtain rfl := t.coherent.eq_of_id he' he (hfate.id_eq.symm.trans hid)
      exact hfate

/-- An exchange that is doomed stays so, and it gets on by each of its own steps. -/
theorem doomed_step (h : Sound t) (hf : t.dispatcher.finished = true)
    (he : e ∈ t.client.exchanges) (hd : e.Doomed) (s : Step) :
    ∃ x ∈ (t.step s).client.exchanges, x.id = e.id ∧ x.Doomed ∧ t.rank e ≤ (t.step s).rank x ∧
      ∀ rest, (strive e.id).drop (t.rank e) = s :: rest → t.rank e < (t.step s).rank x := by
  have hclosed : t.client.closed = true := (h.orderly.shut hf).closed
  have hmarked : t.shutdown = true := h.ended (h.ended_of_finished hf)
  obtain ⟨x, hx, hid, event, hpermits, hfate⟩ := fate_step he s
  have hdoomed : x.Doomed := by
    refine hfate.doomed hd hclosed ?_ ?_
    · rintro cause rfl
      exact hpermits
    · rintro limit rfl hs
      exact hpermits (by rw [Client.stage?_eq (t.coherent.find?_eq he), hs])
  refine ⟨x, hx, hid, hdoomed, rank_fate hfate (passed_step t s).1, fun rest hnext => ?_⟩
  have hk : t.rank e < 4 := by
    have hlength := congrArg List.length hnext
    simp only [List.length_drop, List.length_cons, strive, List.length_nil] at hlength
    omega
  obtain ⟨stage, hstage, hlater⟩ := stage?_strive hclosed hmarked he hd hnext
  exact lt_rank_of_stage? hx (hid ▸ hstage) hk hlater

theorem finished_step (t : Traffic) (s : Step) (hf : t.dispatcher.finished = true) :
    (t.step s).dispatcher.finished = true := by
  rcases dispatcher_step t s with hsame | ⟨e, hstep, -⟩
  · rw [hsame, hf]
  · rw [hstep]
    exact (Dispatcher.finished_run hf [e]).1

/-- Wherever its own steps stand among others, an exchange that is doomed has come to its end when
it has made those that were left. -/
theorem doomed_run (h : Sound t) (hf : t.dispatcher.finished = true)
    (he : e ∈ t.client.exchanges) (hd : e.Doomed) (ss : List Step) :
    ∃ x ∈ (t.run ss).client.exchanges, x.id = e.id ∧ x.Doomed ∧
      ∀ k, k ≤ t.rank e → ((strive e.id).drop k).Sublist ss → (t.run ss).rank x = 4 := by
  induction ss generalizing t e with
  | nil =>
    refine ⟨e, he, rfl, hd, fun k hk hsub => ?_⟩
    have hlength := hsub.length_le
    simp only [List.length_drop, List.length_nil, strive, List.length_cons] at hlength
    have hover : 4 ≤ t.rank e := by omega
    exact Nat.le_antisymm (rank_le_four t e) hover
  | cons s ss ih =>
    obtain ⟨y, hy, hid, hdoomed, hrank, hnext⟩ := doomed_step h hf he hd s
    obtain ⟨x, hx, hid', hdoomed', hover⟩ := ih (h.step s) (finished_step t s hf) hy hdoomed
    refine ⟨x, hx, hid'.trans hid, hdoomed', fun k hk hsub => ?_⟩
    rw [hid] at hover
    -- this step may be the next of the own steps that are left, or another one
    rcases List.sublist_cons_iff.mp hsub with hsub | ⟨rest, hdrop, hsub⟩
    · exact hover k (Nat.le_trans hk hrank) hsub
    · refine hover (k + 1) ?_ ?_
      · rcases Nat.lt_or_eq_of_le hk with hlt | rfl
        · omega
        · exact hnext rest hdrop
      · rw [List.drop_add_one_eq_tail_drop, hdrop]
        exact hsub

theorem over_of_rank (hd : e.Doomed) (hrank : t.rank e = 4) :
    e.stage = .ended (.error .closed) ∨ e.stage = .cancelled := by
  cases hd with
  | failed hs => exact .inl hs
  | cancelled hs => exact .inr hs
  | unlooked hs => simp [rank, hs] at hrank
  | stranded hs =>
    unfold rank at hrank
    rcases hs with hs | hs
    · rw [hs] at hrank
      simp only at hrank
      split at hrank <;> omega
    · simp [hs] at hrank

/-- When the loop has come to its end, an exchange under way to which no frame replies is doomed. -/
theorem doomed_of_finished (h : Sound t) (hf : t.dispatcher.finished = true)
    (he : e ∈ t.client.exchanges) (hlive : e.stage.isLive = true)
    (hnone : ∀ frame ∈ t.forwarded, ∀ v ∈ elementsOf frame, ∀ reply,
      ¬ Client.RepliesTo v e.id reply) : e.Doomed := by
  have hslot : e.stage = .sending ∨ e.stage = .waiting → e.slot = .abandoned := fun hs => by
    cases hs' : e.slot with
    | empty => exact absurd hs' ((h.orderly.shut hf).slot e he hs)
    | filled reply =>
      obtain ⟨frame, hframe, v, hv, hreply⟩ := h.orderly.replied he hs'
      exact absurd hreply (hnone frame hframe v hv reply)
    | abandoned => rfl
  cases hs : e.stage with
  | registered => exact .unlooked hs
  | sending => exact .stranded (.inl hs) (hslot (.inl hs))
  | waiting => exact .stranded (.inr hs) (hslot (.inr hs))
  | ended | cancelled => simp [hs, Stage.isLive] at hlive

end Socket.Traffic

end SealedChain
