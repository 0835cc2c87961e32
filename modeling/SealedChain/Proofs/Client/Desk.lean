import SealedChain.Proofs.Client.Table

/-!
# Ids and the table that holds them

A client hands out ids one after the other. What it does in one step when an exchange registers or
ends is taken apart here: an id is given first and enters the table later, and how an exchange ends
is decided first and its id leaves the table later. `step_shift` says once what a move can do.
-/
namespace SealedChain.Client

/-- A client whose exchanges take their steps apart. -/
structure Desk where
  client : Client := {}
  given : List Exchange := []
  /-- How exchanges end that are still to leave. -/
  leaving : List (Nat × Stage) := []

/-- What happens at a desk. An event that starts an exchange gives it an id only, and one that would
end an exchange decides its end only. -/
inductive Move where
  | event (event : Event)
  | enter (id : Nat)
  | leave (id : Nat)

def Move.gives : Move → Bool
  | .event (.start method _) => method != ""
  | .event _ | .enter _ | .leave _ => false

/-- A reply with the id is routed, or the table is cleared. -/
def Move.Releases (c : Client) (id : Nat) : Move → Prop
  | .event e => e.Releases c id
  | .enter _ | .leave _ => False

namespace Desk

def give (d : Desk) (method : String) (params : List Json) : Desk :=
  { d with
    client := { d.client with nextId := d.client.nextId + 1 }
    given := d.given ++ [{ id := d.client.nextId, method, params }] }

def own (d : Desk) (event : Event) (id : Nat) : Desk :=
  if d.leaving.any (·.1 == id) then d
  else match d.client.ending? event id with
    | some stage => { d with leaving := (id, stage) :: d.leaving }
    | none => { d with client := d.client.step event }

def enter (d : Desk) (id : Nat) : Desk :=
  match d.given.find? (·.id == id), d.client.find? id with
  | some e, none => { d with client := d.client.enter e }
  | _, _ => d

def leave (d : Desk) (id : Nat) : Desk :=
  match d.leaving.find? (·.1 == id) with
  | some (_, stage) =>
    { d with client := d.client.finish id stage, leaving := d.leaving.filter (·.1 != id) }
  | none => d

def step (d : Desk) : Move → Desk
  | .event event => match event, event.exchange? with
    | .start method params, _ => if method = "" then d else d.give method params
    | _, some id => d.own event id
    | _, none => { d with client := d.client.step event }
  | .enter id => d.enter id
  | .leave id => d.leave id

def run (d : Desk) (ms : List Move) : Desk := ms.foldl step d

def after (ms : List Move) (t : Nat) : Desk := run {} (ms.take t)

theorem run_append (d : Desk) (ms ns : List Move) : d.run (ms ++ ns) = (d.run ms).run ns :=
  List.foldl_append

theorem run_concat (d : Desk) (ms : List Move) (m : Move) :
    d.run (ms ++ [m]) = (d.run ms).step m := by
  rw [run_append]
  rfl

theorem after_length (ms : List Move) : after ms ms.length = run {} ms := by
  rw [after, List.take_length]

theorem after_succ {ms : List Move} {t : Nat} {m : Move} (h : ms[t]? = some m) :
    after ms (t + 1) = (after ms t).step m := by
  rw [after, List.take_add_one, h, Option.toList_some, run_concat]
  rfl

/-- What a move does to a desk. -/
inductive Shift (d : Desk) : Move → Desk → Prop
  | idle (m : Move) (silent : ∀ id, ¬ m.Releases d.client id) (none : m.gives = false) :
      Shift d m d
  | gave (method : String) (params : List Json) (named : method ≠ "") :
      Shift d (.event (.start method params)) (d.give method params)
  | entered (e : Exchange) (known : e ∈ d.given) (new : ∀ x ∈ d.client.exchanges, x.id ≠ e.id) :
      Shift d (.enter e.id) { d with client := d.client.enter e }
  | advanced (event : Event) (e : Exchange) (stage : Stage) (own : event.exchange? = some e.id)
      (found : d.client.find? e.id = some e) (live : e.stage.isLive = true)
      (later : stage.isLive = true) (free : ∀ p ∈ d.leaving, p.1 ≠ e.id) :
      Shift d (.event event) { d with client := d.client.modify e.id fun e => { e with stage } }
  | decided (event : Event) (e : Exchange) (stage : Stage) (own : event.exchange? = some e.id)
      (found : d.client.find? e.id = some e) (live : e.stage.isLive = true)
      (settled : stage.isLive = false) (free : ∀ p ∈ d.leaving, p.1 ≠ e.id)
      (answered : ∀ reply, stage = .ended (.ok reply) → e.slot = .filled reply) :
      Shift d (.event event) { d with leaving := (e.id, stage) :: d.leaving }
  | left (id : Nat) (stage : Stage) (decided : (id, stage) ∈ d.leaving) :
      Shift d (.leave id)
        { d with client := d.client.finish id stage, leaving := d.leaving.filter (·.1 != id) }
  | streamed (event : Event) (stream : event.isCall = false) :
      Shift d (.event event) { d with client := d.client.step event }

theorem step_own (d : Desk) {event : Event} {id : Nat} (h : event.exchange? = some id) :
    d.step (.event event) = d.own event id := by
  cases event with
  | start | element | close | clear => cases h
  | _ => cases h; rfl

theorem own_silent {c : Client} {event : Event} {id : Nat} (h : event.exchange? = some id)
    (k : Nat) : ¬ event.Releases c k := by
  cases event with
  | start | element | close | clear => cases h
  | _ => exact fun hr => hr

theorem own_gives {event : Event} {id : Nat} (h : event.exchange? = some id) :
    (Move.event event).gives = false := by
  cases event with
  | start => cases h
  | _ => rfl

theorem own_shift (d : Desk) {event : Event} {id : Nat} (h : event.exchange? = some id) :
    Shift d (.event event) (d.own event id) := by
  have hidle : Shift d (.event event) d := .idle _ (own_silent h) (own_gives h)
  unfold own
  split
  · exact hidle
  · rename_i hfree
    have hfree : ∀ p ∈ d.leaving, p.1 ≠ id :=
      fun p hp hid => hfree (List.any_eq_true.mpr ⟨p, hp, by simp [hid]⟩)
    rcases ending?_cases (c := d.client) h with
      ⟨e, stage, hending, hf, hlive, hover, hanswered, -⟩ |
      ⟨hending, hsame | ⟨e, stage, hf, hlive, hlater, hstep⟩⟩
    · obtain rfl := find?_id hf
      rw [hending]
      exact .decided event e stage h hf hlive hover hfree hanswered
    · rw [hending]
      simp only [hsame]
      exact hidle
    · obtain rfl := find?_id hf
      rw [hending]
      simp only [hstep]
      exact .advanced event e stage h hf hlive hlater hfree

theorem step_shift (d : Desk) (m : Move) : Shift d m (d.step m) := by
  cases m with
  | event event =>
    cases event with
    | start method params =>
      simp only [step]
      split
      · rename_i hmethod
        exact .idle _ (fun _ hr => hr) (by simp [Move.gives, hmethod])
      · rename_i hmethod
        exact .gave method params hmethod
    | check | sent | receive | timeOut | cancel => exact d.own_shift rfl
    | element | close | clear => exact .streamed _ rfl
  | enter id =>
    simp only [step, enter]
    split
    · rename_i e hgiven hnew
      have hid : e.id = id := by simpa using List.find?_some hgiven
      obtain rfl := hid
      refine .entered e (List.mem_of_find?_eq_some hgiven) fun x hx => ?_
      simpa using List.find?_eq_none.mp hnew x hx
    · exact .idle _ (fun _ hr => hr) rfl
  | leave id =>
    simp only [step, leave]
    split
    · rename_i k stage hfound
      have hid : k = id := by simpa using List.find?_some hfound
      obtain rfl := hid
      exact .left k stage (List.mem_of_find?_eq_some hfound)
    · exact .idle _ (fun _ hr => hr) rfl

/-- The state of a desk that has kept its books. -/
structure Sound (d : Desk) : Prop where
  coherent : Coherent d.client
  once : d.client.pending.Nodup
  nextId : d.client.nextId = d.given.length + 1
  numbered : d.given.map (·.id) = List.range' 1 d.given.length
  begun : ∀ e ∈ d.given, e.stage = .registered ∧ e.slot = .empty
  known : ∀ r ∈ d.client.exchanges.map (·.request), r ∈ d.given.map (·.request)
  leaving : ∀ p ∈ d.leaving, p.2.isLive = false ∧ ∃ e ∈ d.client.exchanges, e.id = p.1 ∧
    e.stage.isLive = true ∧ ∀ reply, p.2 = .ended (.ok reply) → e.slot = .filled reply
  decided : (d.leaving.map (·.1)).Nodup

theorem sound_start : Sound {} where
  coherent := coherent_empty
  once := List.nodup_nil
  nextId := rfl
  numbered := rfl
  begun := by simp
  known := by simp
  leaving := by simp
  decided := List.nodup_nil

namespace Sound

variable {d : Desk}

theorem given_lt (h : Sound d) {e : Exchange} (he : e ∈ d.given) : e.id < d.client.nextId := by
  have hmem : e.id ∈ List.range' 1 d.given.length := h.numbered ▸ List.mem_map_of_mem he
  rw [List.mem_range'_1] at hmem
  rw [h.nextId]
  omega

theorem give (h : Sound d) (method : String) (params : List Json) :
    Sound (d.give method params) where
  coherent := h.coherent.numbered
  once := h.once
  nextId := by simp [Desk.give, h.nextId]
  numbered := by
    simp only [Desk.give, List.map_append, List.map_cons, List.map_nil, List.length_append,
      List.length_singleton, h.numbered, h.nextId]
    rw [List.range'_1_concat, Nat.add_comm 1]
  begun := by
    intro e he
    rcases List.mem_append.mp he with he | he
    · exact h.begun e he
    · obtain rfl := List.mem_singleton.mp he
      exact ⟨rfl, rfl⟩
  known := by
    intro r hr
    rw [Desk.give, List.map_append]
    exact List.mem_append_left _ (h.known r hr)
  leaving := h.leaving
  decided := h.decided

theorem enter (h : Sound d) {e : Exchange} (he : e ∈ d.given)
    (hnew : ∀ x ∈ d.client.exchanges, x.id ≠ e.id) :
    Sound { d with client := d.client.enter e } where
  coherent := h.coherent.enter (h.given_lt he) hnew (by rw [(h.begun e he).1]; rfl) (h.begun e he).2
  once := by
    refine List.nodup_cons.mpr ⟨fun hp => ?_, h.once⟩
    obtain ⟨x, hx, hid, -⟩ := (h.coherent.pending e.id).mp hp
    exact hnew x hx hid
  nextId := h.nextId
  numbered := h.numbered
  begun := h.begun
  known := by
    intro r hr
    rcases List.mem_cons.mp hr with rfl | hr
    · exact List.mem_map_of_mem he
    · exact h.known r hr
  leaving := by
    intro p hp
    obtain ⟨hover, x, hx, hrest⟩ := h.leaving p hp
    exact ⟨hover, x, List.mem_cons_of_mem _ hx, hrest⟩
  decided := h.decided

/-- The client changes, and of the exchanges that are still to leave nothing is lost. -/
theorem change (h : Sound d) {event : Event} {c : Client} {leaving : List (Nat × Stage)}
    (hc : Change d.client event c) (hnext : c.nextId = d.client.nextId)
    (hrequest : c.exchanges.map (·.request) = d.client.exchanges.map (·.request))
    (hsublist : leaving.Sublist d.leaving)
    (hleaving : ∀ p ∈ leaving, ∀ e ∈ d.client.exchanges, e.id = p.1 →
      ∃ x ∈ c.exchanges, x.id = e.id ∧ x.stage = e.stage ∧
        ∀ reply, e.slot = .filled reply → x.slot = .filled reply) :
    Sound { d with client := c, leaving } where
  coherent := h.coherent.change hc
  once := hc.nodup_pending h.coherent h.once
  nextId := hnext.trans h.nextId
  numbered := h.numbered
  begun := h.begun
  known := fun r hr => h.known r (hrequest ▸ hr)
  leaving := by
    intro p hp
    obtain ⟨hover, e, he, hid, hlive, hfilled⟩ := h.leaving p (hsublist.subset hp)
    obtain ⟨x, hx, hsame, hstage, hslot⟩ := hleaving p hp e he hid
    exact ⟨hover, x, hx, hsame.trans hid, hstage ▸ hlive, fun reply hr => hslot _ (hfilled _ hr)⟩
  decided := (hsublist.map _).nodup h.decided

theorem shift (h : Sound d) {m : Move} {d' : Desk} (hs : Shift d m d') : Sound d' := by
  cases hs with
  | idle => exact h
  | gave method params => exact h.give method params
  | entered e he hnew => exact h.enter he hnew
  | advanced event e stage _ hf hlive hlater hfree =>
    have hchange : d.client.Change event _ := .advanced e stage hf hlive hlater
    refine h.change hchange rfl (map_request_modify e.id stage) (List.Sublist.refl _)
      fun p hp x hx hid => ?_
    exact ⟨x, mem_modify_of_ne hx (hid ▸ hfree p hp), rfl, rfl, fun _ hr => hr⟩
  | decided _ e stage _ hf hlive hover hfree hanswered =>
    refine { h with leaving := fun p hp => ?_, decided := List.nodup_cons.mpr ⟨?_, h.decided⟩ }
    · rcases List.mem_cons.mp hp with rfl | hp
      · exact ⟨hover, e, List.mem_of_find?_eq_some hf, rfl, hlive, hanswered⟩
      · exact h.leaving p hp
    · intro hmem
      obtain ⟨p, hp, hid⟩ := List.mem_map.mp hmem
      exact hfree p hp hid
  | left id stage hmem =>
    obtain ⟨hover, e, he, hid, hlive, hanswered⟩ := h.leaving _ hmem
    obtain rfl : e.id = id := hid
    have hchange : d.client.Change (.receive e.id) _ :=
      .finished e stage (h.coherent.find?_eq he) hlive hover hanswered
    refine h.change hchange rfl (map_request_modify e.id stage) List.filter_sublist
      fun p hp x hx hid => ⟨x, mem_modify_of_ne hx ?_, rfl, rfl, fun _ hr => hr⟩
    rw [hid]
    simpa using (List.mem_filter.mp hp).2
  | streamed event hstream =>
    obtain ⟨f, hmap, hf⟩ := exchanges_stream (c := d.client) hstream
    refine h.change (step_change _ event) (nextId_stream hstream) (map_request_stream hstream)
      (List.Sublist.refl _) fun p _ e he _ =>
        ⟨f e, hmap ▸ List.mem_map_of_mem he, ?_, (hf e).2.1, fun reply hr => ?_⟩
    · exact congrArg Rpc.Request.id (hf e).1
    · rw [(hf e).2.2 fun hp => ?_, hr]
      obtain ⟨-, hempty⟩ := (h.coherent.mem_pending he).mp hp
      simp [hr] at hempty

theorem run (h : Sound d) (ms : List Move) : Sound (d.run ms) := by
  induction ms generalizing d with
  | nil => exact h
  | cons m ms ih => exact ih (h.shift (step_shift d m))

end Sound

theorem sound_run (ms : List Move) : Sound (run {} ms) := sound_start.run ms

theorem sound_after (ms : List Move) (t : Nat) : Sound (after ms t) := sound_run _

theorem after_induction {ms : List Move} {P : Desk → Prop} {t u : Nat} (start : P (after ms t))
    (shift : ∀ {d d' : Desk} {m : Move}, Sound d → P d → Shift d m d' → P d') (h : t ≤ u) :
    P (after ms u) := by
  induction h with
  | refl => exact start
  | @step u _ ih =>
    cases hm : ms[u]? with
    | none =>
      have hsame : after ms (u + 1) = after ms u := by
        rw [after, List.take_add_one, hm, Option.toList_none, List.append_nil, after]
      rwa [hsame]
    | some m =>
      rw [after_succ hm]
      exact shift (sound_after ms u) ih (step_shift _ m)

end Desk

end SealedChain.Client
