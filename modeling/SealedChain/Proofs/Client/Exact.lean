import SealedChain.Json.Basic
import SealedChain.Proofs.Client.Desk

/-!
# The table is exact

Whatever falls between the giving of an id and its entering the table, and between the deciding of
an end and the leaving, the table holds the ids of the exchanges that have entered and are still to
leave, but for those that a reply was routed to or that were there when the table was cleared.
-/
namespace SealedChain.Client.Desk

section Shifts

variable {d d' : Desk} {m : Move}

/-- An id is in the table after a move if its exchange is under way and has just entered, or was in
the table and is not taken out. -/
theorem Shift.mem_pending (h : Shift d m d') (hd : Sound d) (id : Nat) :
    id ∈ d'.client.pending ↔ d'.client.outstanding id = true ∧
      (d.client.outstanding id = true → id ∈ d.client.pending ∧ ¬ m.Releases d.client id) := by
  have hout : id ∈ d.client.pending → d.client.outstanding id = true :=
    hd.coherent.outstanding_of_pending
  have kept : ∀ c : Client, c.pending = d.client.pending →
      c.outstanding id = d.client.outstanding id → ¬ m.Releases d.client id →
      (id ∈ c.pending ↔ c.outstanding id = true ∧
        (d.client.outstanding id = true → id ∈ d.client.pending ∧ ¬ m.Releases d.client id)) := by
    intro c hp ho hsilent
    rw [hp, ho]
    tauto
  cases h with
  | idle _ silent => exact kept _ rfl rfl (silent id)
  | gave => exact kept _ rfl rfl fun hr => hr
  | entered e he hnew =>
    have hfresh : ¬ d.client.outstanding e.id = true := by
      intro ho
      obtain ⟨x, hx, hid, -⟩ := outstanding_iff.mp ho
      exact hnew x hx hid
    have hlive : e.stage.isLive = true := by rw [(hd.begun e he).1]; rfl
    simp only [Client.enter, List.mem_cons]
    rw [← Client.enter, outstanding_enter, hlive]
    by_cases hid : id = e.id
    · simp [hid, hfresh]
    · have hne : (e.id == id) = false := beq_false_of_ne (Ne.symm hid)
      simp only [hid, hne, false_or, Bool.and_true, Bool.false_or, Move.Releases]
      tauto
  | advanced event e stage hown hf hlive hlater =>
    exact kept _ rfl (outstanding_advance hd.coherent (List.mem_of_find?_eq_some hf) hlive hlater id)
      (own_silent hown id)
  | decided _ _ _ hown => exact kept _ rfl rfl (own_silent hown id)
  | left k stage hmem =>
    have hpending : id ∈ (d.client.finish k stage).pending ↔ id ∈ d.client.pending ∧ id ≠ k :=
      mem_pending_forget _ _ _
    simp only [hpending, outstanding_finish (hd.leaving _ hmem).1, Move.Releases]
    tauto
  | streamed event hstream =>
    simp only [mem_pending_stream hstream, outstanding_stream hstream, Move.Releases]
    tauto

theorem Shift.of_not_mem_pending (h : Shift d m d') {id : Nat}
    (hp : id ∈ d.client.pending) (hn : id ∉ d'.client.pending) :
    m = .leave id ∨ m.Releases d.client id := by
  cases h with
  | idle | gave | advanced | decided => exact absurd hp hn
  | entered e => exact absurd (List.mem_cons_of_mem _ hp) hn
  | left k stage =>
    by_contra hother
    rw [not_or] at hother
    exact hn ((mem_pending_forget _ k id).mpr ⟨hp, fun hid => hother.1 (hid ▸ rfl)⟩)
  | streamed event hstream =>
    by_contra hother
    rw [not_or] at hother
    exact hn ((mem_pending_stream hstream id).mpr ⟨hp, hother.2⟩)

theorem Shift.kept (h : Shift d m d') {id : Nat} (hid : ∃ e ∈ d.client.exchanges, e.id = id) :
    ∃ e ∈ d'.client.exchanges, e.id = id := by
  have same : ∀ c : Client, c.exchanges.map (·.request) = d.client.exchanges.map (·.request) →
      ∃ e ∈ c.exchanges, e.id = id := by
    intro c hc
    obtain ⟨e, he, rfl⟩ := hid
    obtain ⟨x, hx, hr⟩ := List.mem_map.mp (hc ▸ List.mem_map_of_mem (f := Exchange.request) he)
    exact ⟨x, hx, congrArg Rpc.Request.id hr⟩
  cases h with
  | idle | gave | decided => exact hid
  | entered e =>
    obtain ⟨x, hx, hid⟩ := hid
    exact ⟨x, List.mem_cons_of_mem _ hx, hid⟩
  | advanced event e stage => exact same _ (map_request_modify e.id stage)
  | left k stage => exact same _ (map_request_modify k stage)
  | streamed event hstream => exact same _ (map_request_stream hstream)

theorem Shift.over (h : Shift d m d') (hd : Sound d) {id : Nat}
    (hid : ∃ e ∈ d.client.exchanges, e.id = id) (hover : d.client.outstanding id = false) :
    d'.client.outstanding id = false := by
  cases h with
  | idle | gave | decided => exact hover
  | entered e _ hnew =>
    obtain ⟨x, hx, rfl⟩ := hid
    have hne : (e.id == x.id) = false := beq_false_of_ne (hnew x hx).symm
    simp only [outstanding_enter, hne, Bool.false_and, Bool.false_or, hover]
  | advanced event e stage _ hf hlive hlater =>
    exact (outstanding_advance hd.coherent (List.mem_of_find?_eq_some hf) hlive hlater id).trans hover
  | left k stage hmem =>
    rw [Bool.eq_false_iff]
    intro ho
    obtain ⟨hstill, -⟩ := (outstanding_finish (hd.leaving _ hmem).1 id).mp ho
    simp [hover] at hstill
  | streamed event hstream => exact (outstanding_stream hstream id).trans hover

/-- An end that is decided stands until the exchange leaves. -/
theorem Shift.stands (h : Shift d m d') {p : Nat × Stage} (hp : p ∈ d.leaving)
    (hm : m ≠ .leave p.1) : p ∈ d'.leaving := by
  cases h with
  | idle | gave | entered | advanced | streamed => exact hp
  | decided => exact List.mem_cons_of_mem _ hp
  | left id stage =>
    have hne : p.1 ≠ id := fun hid => hm (hid ▸ rfl)
    exact List.mem_filter.mpr ⟨hp, by simpa using hne⟩

theorem Shift.ended (h : Shift d m d') (hd : Sound d) {x : Exchange} (hx : x ∈ d.client.exchanges)
    (hover : x.stage.isLive = false) :
    ∃ y ∈ d'.client.exchanges, y.id = x.id ∧ y.stage = x.stage := by
  -- what ends or gets on is under way, so it is another exchange
  have other : ∀ {e : Exchange} (stage : Stage), e ∈ d.client.exchanges → e.stage.isLive = true →
      ∃ y ∈ (d.client.modify e.id fun e => { e with stage }).exchanges,
        y.id = x.id ∧ y.stage = x.stage := by
    intro e stage he hlive
    refine ⟨x, mem_modify_of_ne hx fun hid => ?_, rfl, rfl⟩
    rw [hd.coherent.eq_of_id hx he hid, hlive] at hover
    cases hover
  cases h with
  | idle | gave | decided => exact ⟨x, hx, rfl, rfl⟩
  | entered e => exact ⟨x, List.mem_cons_of_mem _ hx, rfl, rfl⟩
  | advanced event e stage _ hf hlive => exact other stage (List.mem_of_find?_eq_some hf) hlive
  | left id stage hmem =>
    obtain ⟨-, e, he, hid, hlive, -⟩ := hd.leaving _ hmem
    obtain rfl : e.id = id := hid
    exact other stage he hlive
  | streamed event hstream =>
    obtain ⟨f, hmap, hf⟩ := exchanges_stream (c := d.client) hstream
    exact ⟨f x, hmap ▸ List.mem_map_of_mem hx, congrArg Rpc.Request.id (hf x).1, (hf x).2.1⟩

end Shifts

/-! ### Ends -/

theorem step_ends {d : Desk} (hd : Sound d) {e : Exchange} (he : e ∈ d.client.exchanges)
    (hfree : ∀ p ∈ d.leaving, p.1 ≠ e.id) {event : Event} {stage : Stage}
    (h : Ends d.client e event stage) :
    d.step (.event event) = { d with leaving := (e.id, stage) :: d.leaving } := by
  have hnone : d.leaving.any (·.1 == e.id) = false := by
    rw [Bool.eq_false_iff]
    intro hany
    obtain ⟨p, hp, hid⟩ := List.any_eq_true.mp hany
    exact hfree p hp (by simpa using hid)
  rw [step_own d h.own, own, hnone, h.ending?_eq (hd.coherent.find?_eq he)]
  rfl

theorem step_leave {d : Desk} (hd : Sound d) {p : Nat × Stage} (hp : p ∈ d.leaving) :
    d.step (.leave p.1) = { d with
      client := d.client.finish p.1 p.2
      leaving := d.leaving.filter (·.1 != p.1) } := by
  have hfind : d.leaving.find? (·.1 == p.1) = some p := by
    cases hf : d.leaving.find? (·.1 == p.1) with
    | none => simpa using List.find?_eq_none.mp hf p hp
    | some q =>
      have hid : q.1 = p.1 := by simpa using List.find?_some hf
      rw [List.inj_on_of_nodup_map hd.decided (List.mem_of_find?_eq_some hf) hp hid]
  simp only [step, leave, hfind]

theorem stands_run {d : Desk} {p : Nat × Stage} (hp : p ∈ d.leaving) {ms : List Move}
    (hms : .leave p.1 ∉ ms) : p ∈ (d.run ms).leaving := by
  induction ms generalizing d with
  | nil => exact hp
  | cons m ms ih =>
    rw [List.mem_cons, not_or] at hms
    exact ih ((step_shift d m).stands hp (Ne.symm hms.1)) hms.2

theorem ended_run {d : Desk} (hd : Sound d) {x : Exchange} (hx : x ∈ d.client.exchanges)
    (hover : x.stage.isLive = false) (ms : List Move) :
    ∃ y ∈ (d.run ms).client.exchanges, y.id = x.id ∧ y.stage = x.stage := by
  induction ms generalizing d x with
  | nil => exact ⟨x, hx, rfl, rfl⟩
  | cons m ms ih =>
    have hshift := step_shift d m
    obtain ⟨y, hy, hid, hstage⟩ := hshift.ended hd hx hover
    obtain ⟨z, hz, hid', hstage'⟩ := ih (hd.shift hshift) hy (hstage ▸ hover)
    exact ⟨z, hz, hid'.trans hid, hstage'.trans hstage⟩

/-- Once an exchange has left it has ended as was decided, and its id is in the table no more. -/
theorem left_run {d : Desk} (hd : Sound d) {p : Nat × Stage} (hp : p ∈ d.leaving) {ms : List Move}
    (hms : .leave p.1 ∈ ms) :
    (∃ x ∈ (d.run ms).client.exchanges, x.id = p.1 ∧ x.stage = p.2) ∧
      p.1 ∉ (d.run ms).client.pending := by
  -- the end stands up to the first of these moves, and from there on the exchange has ended
  obtain ⟨before, rest, rfl, hbefore⟩ := List.eq_append_cons_of_mem hms
  have hsound := hd.run before
  have hstands := stands_run hp hbefore
  obtain ⟨hover, e, he, hid, -⟩ := hsound.leaving p hstands
  have hleft : { e with stage := p.2 } ∈ ((d.run before).step (.leave p.1)).client.exchanges := by
    rw [step_leave hsound hstands]
    exact List.mem_map.mpr ⟨e, he, if_pos hid⟩
  obtain ⟨x, hx, hsame, hstage⟩ :=
    ended_run (hsound.shift (step_shift _ (.leave p.1))) hleft hover rest
  have hrun : d.run (before ++ .leave p.1 :: rest) =
      ((d.run before).step (.leave p.1)).run rest := run_append d before (.leave p.1 :: rest)
  have hsound' := hd.run (before ++ .leave p.1 :: rest)
  rw [← hrun] at hx
  have hxid : x.id = p.1 := hsame.trans hid
  refine ⟨⟨x, hx, hxid, hstage⟩, fun hpending => ?_⟩
  have hlive := (hsound'.coherent.mem_pending hx).mp (hxid ▸ hpending)
  rw [hstage, hover] at hlive
  cases hlive.1

/-! ### The table along a run -/

theorem exists_after {ms : List Move} {t u id : Nat}
    (hid : ∃ e ∈ (after ms t).client.exchanges, e.id = id) (h : t ≤ u) :
    ∃ e ∈ (after ms u).client.exchanges, e.id = id :=
  after_induction (P := fun d => ∃ e ∈ d.client.exchanges, e.id = id) hid
    (fun _ hid hs => hs.kept hid) h

theorem over_after {ms : List Move} {t u id : Nat}
    (hid : ∃ e ∈ (after ms t).client.exchanges, e.id = id)
    (hover : (after ms t).client.outstanding id = false) (h : t ≤ u) :
    (after ms u).client.outstanding id = false :=
  (after_induction (P := fun d => (∃ e ∈ d.client.exchanges, e.id = id) ∧
      d.client.outstanding id = false) ⟨hid, hover⟩
    (fun hd hp hs => ⟨hs.kept hp.1, hs.over hd hp.1 hp.2⟩) h).2

/-- The table holds the ids that have entered and are still to leave, but for those that were
released meanwhile. -/
theorem mem_pending_after (ms : List Move) (id n : Nat) (hn : n ≤ ms.length) :
    id ∈ (after ms n).client.pending ↔ (after ms n).client.outstanding id = true ∧
      ∀ k < n, ∀ m, ms[k]? = some m → (after ms k).client.outstanding id = true →
        ¬ m.Releases (after ms k).client id := by
  induction n with
  | zero => simp [after, run, outstanding]
  | succ n ih =>
    have hm := List.getElem?_eq_getElem hn
    have hshift := step_shift (after ms n) ms[n]
    rw [← after_succ hm] at hshift
    rw [hshift.mem_pending (sound_after ms n), ih (Nat.le_of_lt hn)]
    refine and_congr_right fun hout => ⟨fun h k hk m hkm hkout => ?_, fun h hnow => ?_⟩
    · -- an exchange that is under way was so at all times since it entered
      have hnow : (after ms n).client.outstanding id = true := by
        by_contra hover
        obtain ⟨e, he, hid, -⟩ := outstanding_iff.mp hkout
        have hentered := exists_after ⟨e, he, hid⟩ (Nat.le_of_lt_succ hk)
        have := over_after hentered (by simpa using hover) (Nat.le_succ n)
        simp [hout] at this
      rcases Nat.lt_succ_iff_lt_or_eq.mp hk with hk | rfl
      · exact (h hnow).1.2 k hk m hkm hkout
      · rw [hm] at hkm
        exact Option.some.inj hkm ▸ (h hnow).2
    · exact ⟨⟨hnow, fun k hk => h k (Nat.lt_succ_of_lt hk)⟩, h n (Nat.lt_succ_self n) _ hm hnow⟩

theorem run_start {d : Desk} (hd : Sound d) (method : String) (params : List Json)
    (hmethod : method ≠ "") :
    d.run [.event (.start method params), .enter d.client.nextId] =
      { d with
        client := d.client.register method params
        given := d.given ++ [{ id := d.client.nextId, method, params }] } := by
  have hnone : d.given.find? (·.id == d.client.nextId) = none := by
    refine List.find?_eq_none.mpr fun e he => ?_
    have := hd.given_lt he
    simp only [beq_iff_eq]
    omega
  have hnew : d.client.exchanges.find? (·.id == d.client.nextId) = none := by
    refine List.find?_eq_none.mpr fun e he => ?_
    have := hd.coherent.id_lt e he
    simp only [beq_iff_eq]
    omega
  simp [run, step, hmethod, give, enter, List.find?_append, hnone, find?, hnew]
  rfl

theorem run_end {d : Desk} {event : Event} {id : Nat} {stage : Stage}
    (hown : event.exchange? = some id) (hnone : d.leaving = [])
    (hending : d.client.ending? event id = some stage) :
    d.run [.event event, .leave id] =
      { d with client := d.client.finish id stage, leaving := [] } := by
  have hdecide : d.step (.event event) = { d with leaving := [(id, stage)] } := by
    rw [step_own d hown]
    simp [own, hnone, hending]
  change (d.step (.event event)).step (.leave id) = _
  rw [hdecide]
  simp [step, leave]

/-- What an event does at once, moves that follow each other do at a desk where no end is left
open. -/
theorem exists_moves {d : Desk} (hd : Sound d) (hnone : d.leaving = []) (event : Event) :
    ∃ ms, (d.run ms).client = d.client.step event ∧ (d.run ms).leaving = [] := by
  cases hown : event.exchange? with
  | some id =>
    rcases ending?_cases (c := d.client) hown with
      ⟨e, stage, hending, -, -, -, -, hstep⟩ | ⟨hending, -⟩
    · refine ⟨[.event event, .leave id], ?_⟩
      rw [run_end hown hnone hending, hstep]
      exact ⟨rfl, rfl⟩
    · refine ⟨[.event event], ?_⟩
      change (d.step (.event event)).client = _ ∧ (d.step (.event event)).leaving = []
      rw [step_own d hown]
      simp [own, hnone, hending]
  | none =>
    cases event with
    | check | sent | receive | timeOut | cancel => cases hown
    | element v => exact ⟨[.event (.element v)], rfl, hnone⟩
    | close => exact ⟨[.event .close], rfl, hnone⟩
    | clear => exact ⟨[.event .clear], rfl, hnone⟩
    | start method params =>
      by_cases hmethod : method = ""
      · refine ⟨[], ?_, hnone⟩
        rw [Client.step, if_pos hmethod]
        rfl
      · refine ⟨[.event (.start method params), .enter d.client.nextId], ?_⟩
        rw [run_start hd method params hmethod, Client.step, if_neg hmethod]
        exact ⟨rfl, hnone⟩

theorem exists_run (es : List Event) :
    ∃ ms, (run {} ms).client = Client.run {} es ∧ (run {} ms).leaving = [] := by
  induction es using List.reverseRecOn with
  | nil => exact ⟨[], rfl, rfl⟩
  | append_singleton es event ih =>
    obtain ⟨ms, hclient, hnone⟩ := ih
    obtain ⟨ns, hstep, hleft⟩ := exists_moves (sound_run ms) hnone event
    refine ⟨ms ++ ns, ?_, ?_⟩
    · rw [run_append, hstep, hclient, Client.run_concat]
    · rw [run_append, hleft]

theorem Shift.length_given {d d' : Desk} {m : Move} (h : Shift d m d') :
    d'.given.length = d.given.length + if m.gives then 1 else 0 := by
  cases h with
  | idle _ _ hnone => simp [hnone]
  | gave method params hnamed => simp [give, Move.gives, hnamed]
  | advanced _ _ _ hown | decided _ _ _ hown => simp [own_gives hown]
  | entered | left => rfl
  | streamed event hstream =>
    cases event with
    | start | check | sent | receive | timeOut | cancel => cases hstream
    | _ => rfl

theorem length_given_run (ms : List Move) :
    (run {} ms).given.length = ms.countP Move.gives := by
  induction ms using List.reverseRecOn with
  | nil => rfl
  | append_singleton ms m ih =>
    rw [run_concat, (step_shift _ m).length_given, ih, List.countP_append, List.countP_singleton]

/-- What holds of a desk after these moves, however giving, entering, deciding, leaving and the
inbound stream fall between each other. -/
structure Exact (ms : List Move) (d : Desk) : Prop where
  numbered : d.given.map (·.id) = List.range' 1 (ms.countP Move.gives)
  inRange : ms.countP Move.gives < limit64 → ∀ e ∈ d.given, e.id < limit64
  unnamed : ∀ params, d.step (.event (.start "" params)) = d
  begun : ∀ e ∈ d.client.exchanges, ∃ begun ∈ d.given, begun.request = e.request
  distinct : (d.client.exchanges.map (·.id)).Nodup
  once : d.client.pending.Nodup
  pending : ∀ id, id ∈ d.client.pending ↔ d.client.outstanding id = true ∧
    ∀ k < ms.length, ∀ m, ms[k]? = some m → (after ms k).client.outstanding id = true →
      ¬ m.Releases (after ms k).client id
  decides : ∀ e ∈ d.client.exchanges, (∀ p ∈ d.leaving, p.1 ≠ e.id) → ∀ event stage,
    Ends d.client e event stage →
      d.step (.event event) = { d with leaving := (e.id, stage) :: d.leaving }
  stands : ∀ p ∈ d.leaving, ∀ ns, .leave p.1 ∉ ns → p ∈ (d.run ns).leaving
  leaves : ∀ p ∈ d.leaving, ∀ ns, .leave p.1 ∈ ns →
    (∃ x ∈ (d.run ns).client.exchanges, x.id = p.1 ∧ x.stage = p.2) ∧
      p.1 ∉ (d.run ns).client.pending
  gone : ∀ t ≤ ms.length, ∀ e ∈ (after ms t).client.exchanges, e.stage.isLive = false →
    e.id ∉ d.client.pending
  removes : ∀ m id, id ∈ d.client.pending → id ∉ (d.step m).client.pending →
    m = .leave id ∨ m.Releases d.client id
  empty : (∀ e ∈ d.client.exchanges, e.stage.isLive = false) → d.client.pending = []
  covers : ∀ es, ∃ moves, (run {} moves).client = Client.run {} es

theorem exact_run (ms : List Move) : Exact ms (run {} ms) := by
  have hd : Sound (run {} ms) := sound_run ms
  have hlength : (run {} ms).given.length = ms.countP Move.gives := length_given_run ms
  have hend : after ms ms.length = run {} ms := after_length ms
  exact {
    numbered := by
      rw [← hlength]
      exact hd.numbered
    inRange := fun hfew e he => by
      have := hd.given_lt he
      rw [hd.nextId] at this
      omega
    unnamed := fun _ => rfl
    begun := fun e he => List.mem_map.mp (hd.known _ (List.mem_map_of_mem he))
    distinct := hd.coherent.distinct
    once := hd.once
    pending := fun id => by
      rw [← hend]
      exact mem_pending_after ms id ms.length (Nat.le_refl _)
    decides := fun _ he hfree _ _ => step_ends hd he hfree
    stands := fun _ hp _ => stands_run hp
    leaves := fun _ hp _ => left_run hd hp
    gone := fun t ht e he hover hp => by
      have hleft := over_after ⟨e, he, rfl⟩
        (((sound_after ms t).coherent.outstanding_eq he).trans hover) ht
      rw [hend, hd.coherent.outstanding_of_pending hp] at hleft
      cases hleft
    removes := fun m _ => (step_shift _ m).of_not_mem_pending
    empty := fun hover => by
      refine List.eq_nil_iff_forall_not_mem.mpr fun id hp => ?_
      obtain ⟨e, he, -, hlive, -⟩ := (hd.coherent.pending id).mp hp
      simp [hover e he] at hlive
    covers := fun es => (exists_run es).imp fun _ h => h.1 }

end SealedChain.Client.Desk
