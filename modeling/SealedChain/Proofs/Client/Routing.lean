import SealedChain.Proofs.Client.Correlation
import SealedChain.Proofs.Json.Canonical

/-!
# One inbound frame

A frame is routed value by value, and what all of it comes to can be said at once: every exchange in
the table gets the first value that is a reply with its id, and leaves the table by it. Of the other
values nothing comes, wherever in the frame they stand.
-/
namespace SealedChain.Client

/-- A value is a reply to the exchange with this id. -/
def RepliesTo (v : Json) (id : Nat) (reply : Rpc.Reply) : Prop :=
  Rpc.Reply.ofJson? v = some reply ∧ reply.correlationId = some id

def repliedId? (v : Json) : Option Nat := (Rpc.Reply.ofJson? v).bind (·.correlationId)

/-- The reply that the first of these values to reply to an exchange is. -/
def FirstReply (vs : List Json) (id : Nat) (reply : Rpc.Reply) : Prop :=
  ∃ before v after, vs = before ++ v :: after ∧ RepliesTo v id reply ∧
    ∀ w ∈ before, ∀ other, ¬ RepliesTo w id other

def answerTo? (vs : List Json) (id : Nat) : Option Rpc.Reply :=
  vs.findSome? fun v => (Rpc.Reply.ofJson? v).filter (·.correlationId == some id)

/-- The client with every exchange in the table answered for which these values hold a reply. -/
def handOut (c : Client) (vs : List Json) : Client :=
  { c with
    pending := c.pending.filter fun id => (answerTo? vs id).isNone
    exchanges := c.exchanges.map fun e =>
      if e.id ∈ c.pending then match answerTo? vs e.id with
        | some reply => { e with slot := .filled reply }
        | none => e
      else e }

/-- A value that comes to nothing after these: it is no reply, or one to an exchange that is not in
the table or that has its reply from them. -/
def Idle (c : Client) (before : List Json) (v : Json) : Prop :=
  ∀ id reply, RepliesTo v id reply → id ∈ c.pending → ∃ w ∈ before, ∃ other, RepliesTo w id other

variable {c : Client} {v : Json} {vs ws : List Json} {id : Nat} {reply : Rpc.Reply}

theorem correlationId_eq_some (reply : Rpc.Reply) (id : Nat) :
    reply.correlationId = some id ↔ reply.id = .nat id ∧ id < limit64 := by
  unfold Rpc.Reply.correlationId Json.unsigned? Json.nat
  constructor
  · intro h
    split at h
    · rename_i i hi
      split at h
      · rename_i hrange
        obtain rfl := Option.some.inj h
        rw [hi, Int.toNat_of_nonneg hrange.1]
        exact ⟨rfl, by omega⟩
      · cases h
    · cases h
  · rintro ⟨hid, hlt⟩
    rw [hid]
    simp [hlt]

theorem answerTo?_eq_some : answerTo? vs id = some reply ↔ FirstReply vs id reply := by
  have hone : ∀ v reply, (Rpc.Reply.ofJson? v).filter (·.correlationId == some id) = some reply ↔
      RepliesTo v id reply := fun v reply => by simp [RepliesTo, Option.filter_eq_some_iff]
  have hnone : ∀ v, (Rpc.Reply.ofJson? v).filter (·.correlationId == some id) = none ↔
      ∀ other, ¬ RepliesTo v id other := fun v => by
    simp only [Option.eq_none_iff_forall_ne_some, ne_eq, hone]
  simp only [answerTo?, List.findSome?_eq_some_iff, hone, hnone, FirstReply]

theorem answerTo?_eq_none : answerTo? vs id = none ↔ ∀ v ∈ vs, ∀ reply, ¬ RepliesTo v id reply := by
  simp [answerTo?, List.findSome?_eq_none_iff, RepliesTo, Option.filter_eq_none_iff]

theorem answerTo?_append (vs ws : List Json) (id : Nat) :
    answerTo? (vs ++ ws) id = (answerTo? vs id).or (answerTo? ws id) := by
  rw [answerTo?, List.findSome?_append]
  rfl

theorem answerTo?_cons_of_repliesTo (h : RepliesTo v id reply) (vs : List Json) :
    answerTo? (v :: vs) id = some reply :=
  answerTo?_eq_some.mpr ⟨[], v, vs, rfl, h, by simp⟩

theorem answerTo?_cons_of_not (h : ∀ reply, ¬ RepliesTo v id reply) (vs : List Json) :
    answerTo? (v :: vs) id = answerTo? vs id := by
  have hhead : answerTo? [v] id = none := answerTo?_eq_none.mpr (by simpa using h)
  rw [← List.singleton_append, answerTo?_append, hhead, Option.none_or]

/-- What is handed out depends on the replies to the exchanges in the table alone. -/
theorem handOut_congr (h : ∀ id ∈ c.pending, answerTo? vs id = answerTo? ws id) :
    c.handOut vs = c.handOut ws := by
  unfold handOut
  congr 1
  · exact List.filter_congr fun id hp => by rw [h id hp]
  · refine List.map_congr_left fun e _ => ?_
    split
    · rename_i hp
      rw [h e.id hp]
    · rfl

theorem handOut_nil (c : Client) : c.handOut [] = c := by
  simp [handOut, answerTo?, List.filter_eq_self.mpr]

theorem element_handOut (hopen : c.closed = false) (v : Json) (vs : List Json) :
    (c.element v).handOut vs = c.handOut (v :: vs) := by
  rcases c.element_cases v with hsame | ⟨reply, k, hv, hk, hp, -, hdelivered⟩
  · rw [hsame]
    refine handOut_congr fun id hp => (answerTo?_cons_of_not (fun reply hreply => ?_) vs).symm
    have hgone := hp
    rw [← hsame, element_deliver hopen hreply.1 hreply.2 hp, deliver, mem_pending_forget] at hgone
    exact hgone.2 rfl
  · have hother : ∀ id, id ≠ k → answerTo? (v :: vs) id = answerTo? vs id := fun id hid =>
      answerTo?_cons_of_not (fun other hother => hid
        (Option.some.inj ((Option.some.inj (hv.symm.trans hother.1) ▸ hother.2).symm.trans hk))) vs
    have hfirst : answerTo? (v :: vs) k = some reply := answerTo?_cons_of_repliesTo ⟨hv, hk⟩ vs
    rw [hdelivered]
    unfold handOut deliver forget modify
    simp only [List.filter_filter, List.map_map]
    congr 1
    · refine List.filter_congr fun id _ => ?_
      by_cases hid : id = k
      · simp [hid, hfirst]
      · simp [hid, hother id hid]
    · refine List.map_congr_left fun e _ => ?_
      by_cases hid : e.id = k
      · simp [hid, hfirst, hp]
      · simp [hid, hother e.id hid]

/-- Values that are routed one after the other are handed out. -/
theorem foldl_element (hopen : c.closed = false) (vs : List Json) :
    vs.foldl element c = c.handOut vs := by
  induction vs generalizing c with
  | nil => exact (handOut_nil c).symm
  | cons v vs ih =>
    have hstill : (c.element v).closed = false := by
      rcases c.element_cases v with hsame | ⟨_, _, -, -, -, -, hdelivered⟩
      · rw [hsame, hopen]
      · rw [hdelivered]
        exact hopen
    rw [List.foldl_cons, ih hstill, element_handOut hopen]

theorem answerTo?_idle {before after : List Json} (h : c.Idle before v) (hp : id ∈ c.pending) :
    answerTo? (before ++ v :: after) id = answerTo? (before ++ after) id := by
  rw [answerTo?_append, answerTo?_append]
  cases hbefore : answerTo? before id with
  | some reply => rfl
  | none =>
    -- nothing before replies to this exchange, so the value does not either
    rw [answerTo?_eq_none] at hbefore
    rw [answerTo?_cons_of_not fun reply hreply => ?_]
    obtain ⟨w, hw, other, hother⟩ := h id reply hreply hp
    exact hbefore w hw other hother

theorem repliedId?_eq_some : repliedId? v = some id ↔ ∃ reply, RepliesTo v id reply :=
  Option.bind_eq_some_iff

theorem repliedId?_of_answerTo? (h : answerTo? [v] id = some reply) : repliedId? v = some id := by
  simp only [answerTo?, List.findSome?_singleton, Option.filter_eq_some_iff, beq_iff_eq] at h
  exact repliedId?_eq_some.mpr ⟨reply, h⟩

theorem answerTo?_perm (h : vs.Perm ws) (hn : (vs.filterMap repliedId?).Nodup) (id : Nat) :
    answerTo? vs id = answerTo? ws id := by
  have hcons : ∀ v vs, answerTo? (v :: vs) id = (answerTo? [v] id).or (answerTo? vs id) :=
    fun v vs => answerTo?_append [v] vs id
  induction h with
  | nil => rfl
  | @cons v vs ws _ ih =>
    rw [hcons, hcons v ws, ih (hn.sublist ((List.sublist_cons_self v vs).filterMap _))]
  | swap v w vs =>
    rw [hcons w (v :: vs), hcons v vs, hcons v (w :: vs), hcons w vs]
    cases hv : answerTo? [v] id with
    | none => simp
    | some reply =>
      cases hw : answerTo? [w] id with
      | none => simp
      | some other =>
        -- both values would reply to one exchange
        simp [repliedId?_of_answerTo? hv, repliedId?_of_answerTo? hw] at hn
  | @trans vs ws xs hvs _ ih ih' =>
    exact (ih hn).trans (ih' ((hvs.filterMap _).nodup_iff.mp hn))

/-- The ids that leave the table are those to which a value of the frame replies, and their
exchanges get the first reply to them. The other values might as well not be in the frame, and
unless two reply to the same exchange their order does not matter. -/
theorem routed_frame (hopen : c.closed = false) (frame : String) :
    let vs := elementsOf frame
    let d := c.routeFrame frame
    (Json.parse frame = none → d = c) ∧
    (d.pending.Sublist c.pending ∧ ∀ id, id ∈ d.pending ↔
      id ∈ c.pending ∧ ¬ ∃ v ∈ vs, ∃ reply, RepliesTo v id reply) ∧
    (∃ f : Exchange → Exchange, d.exchanges = c.exchanges.map f ∧ ∀ e,
      (e.id ∈ c.pending → e.id ∉ d.pending → ∃ reply, FirstReply vs e.id reply ∧
        f e = { e with slot := .filled reply }) ∧
      ((e.id ∈ c.pending → e.id ∈ d.pending) → f e = e)) ∧
    (d.nextId = c.nextId ∧ d.closed = c.closed) ∧
    (∀ v id, (∃ reply, RepliesTo v id reply) ↔
      ∃ reply, Rpc.Reply.ofJson? v = some reply ∧ reply.id = .nat id ∧ id < limit64) ∧
    (∀ before v after, vs = before ++ v :: after → c.Idle before v →
      d = (before ++ after).foldl element c) ∧
    ∀ other, (elementsOf other).Perm vs → (vs.filterMap repliedId?).Nodup →
      c.routeFrame other = d := by
  intro vs d
  have hd : d = c.handOut vs := foldl_element hopen vs
  have hpending : ∀ id, id ∈ d.pending ↔ id ∈ c.pending ∧ answerTo? vs id = none := fun id => by
    rw [hd, handOut, List.mem_filter, Option.isNone_iff_eq_none]
  refine ⟨fun hparse => ?_, ⟨?_, fun id => ?_⟩, ⟨_, by rw [hd, handOut], fun e => ⟨?_, ?_⟩⟩, ?_, ?_,
    ?_, ?_⟩
  · have hnone : vs = [] := by simp only [vs, elementsOf, hparse]
    rw [hd, hnone, handOut_nil]
  · rw [hd]
    exact List.filter_sublist
  · rw [hpending, answerTo?_eq_none]
    simp
  · intro hp hgone
    cases hanswer : answerTo? vs e.id with
    | none => exact absurd ((hpending e.id).mpr ⟨hp, hanswer⟩) hgone
    | some reply => exact ⟨reply, answerTo?_eq_some.mp hanswer, by simp only [if_pos hp]⟩
  · intro hkept
    split
    · rename_i hp
      simp only [((hpending e.id).mp (hkept hp)).2]
    · rfl
  · rw [hd]
    exact ⟨rfl, rfl⟩
  · intro v id
    simp only [RepliesTo, correlationId_eq_some]
  · intro before v after hvs hidle
    rw [hd, foldl_element hopen, hvs]
    exact handOut_congr fun id hp => answerTo?_idle hidle hp
  · intro other hperm hn
    rw [hd, routeFrame, foldl_element hopen]
    exact handOut_congr fun id _ => (answerTo?_perm hperm.symm hn id).symm

theorem routed_batch :
    let c := run {} [.start "a" [], .start "b" [], .start "c" []]
    let frame := "[\x7b\"id\":2\x7d,5,\x7b\"id\":2\x7d,\x7b\"id\":1\x7d]"
    c.closed = false ∧ 1 ∉ (c.routeFrame frame).pending ∧ 2 ∉ (c.routeFrame frame).pending ∧
      3 ∈ (c.routeFrame frame).pending := by
  intro c frame
  have hframe : frame = (Json.array [.object [("id", .nat 2)], .nat 5, .object [("id", .nat 2)],
    .object [("id", .nat 1)]]).render := rfl
  have hvalues : elementsOf frame = [.object [("id", .nat 2)], .nat 5, .object [("id", .nat 2)],
      .object [("id", .nat 1)]] := by
    rw [elementsOf, hframe, Json.parse_render (by decide), Json.sorted_canonical _ (by decide)]
  obtain ⟨-, ⟨-, hpending⟩, -⟩ := routed_frame (c := c) rfl frame
  simp only [hpending, hvalues, ← repliedId?_eq_some]
  exact ⟨rfl, by decide, by decide, by decide⟩

end SealedChain.Client
