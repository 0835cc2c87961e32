import Mathlib.Algebra.BigOperators.Intervals
import Mathlib.Algebra.Order.Floor.Div
import SealedChain.Proofs.Call.Classification
import SealedChain.Proofs.Call.Transparency

/-!
# Polling for a block

A call that settles asks for the block of its acknowledgment until it is there. Here it is followed
on the clock: a poll takes as long as its exchange does, and a sleep exactly as long as it is told.
It asks at least once, and since every sleep brings the time limit nearer, only so often. What the
last poll heard is what the call ends with; the limit counts only after a poll that did not find the
block.
-/
namespace SealedChain

def pollAnswer (hash : Hash) :
    Except TransportError Rpc.Reply → Except ClientError (Option BlockRecord)
  | .error cause =>
    .error (.transport (Query.blockByHash hash).method (Query.blockByHash hash).params cause)
  | .ok reply => (Query.blockByHash hash).answer reply

structure Round where
  duration : Nat
  outcome : Except TransportError Rpc.Reply

structure Pursuit where
  now : Millis
  onward : Onward
  polls : Nat := 0

namespace Pursuit

/-- A call that sleeps before a poll wakes when the time is over, and goes on when the exchange of
the poll has ended. -/
def step (c : Pursuit) (r : Round) : Pursuit :=
  match c.onward with
  | .sleep delay (.poll polling) =>
    let now := c.now + delay + r.duration
    ⟨now, polling.onward now (pollAnswer polling.hash r.outcome), c.polls + 1⟩
  | .sleep _ (.answer _) | .ended _ => c

def after (c : Pursuit) (rounds : Nat → Round) : Nat → Pursuit
  | 0 => c
  | k + 1 => (c.after rounds k).step (rounds k)

end Pursuit

def begins (interval : Nat) (rounds : Nat → Round) (k : Nat) : Nat :=
  ∑ i ∈ Finset.range k, (rounds i).duration + k * interval

/-- How long after the first poll has begun a poll has ended. -/
def waited (interval : Nat) (rounds : Nat → Round) (k : Nat) : Nat :=
  begins interval rounds k + (rounds k).duration

/-- What polling ends with after a poll that heard this. -/
inductive Polling.Ends (polling : Polling) (waited duration : Millis) :
    Except ClientError (Option BlockRecord) → Except ClientError CallAnswer → Prop
  | visible (b : BlockRecord) : Ends polling waited duration (.ok (some b)) (.ok polling.answer)
  | failed (e : ClientError) : Ends polling waited duration (.error e) (.error e)
  | timedOut (late : polling.timeout ≤ waited)
      (soon : waited < polling.timeout + polling.interval + duration) :
      Ends polling waited duration (.ok none) (.error (.settleTimeout polling.hash waited))

theorem begins_succ (interval : Nat) (rounds : Nat → Round) (k : Nat) :
    begins interval rounds (k + 1) = waited interval rounds k + interval := by
  rw [begins, waited, begins, Finset.sum_range_succ, Nat.succ_mul]
  omega

theorem mul_le_waited (interval : Nat) (rounds : Nat → Round) (k : Nat) :
    interval * k ≤ waited interval rounds k := by
  rw [waited, begins, Nat.mul_comm]
  omega

theorem pollAnswer_ne_settleTimeout (hash : Hash) (outcome : Except TransportError Rpc.Reply)
    (h : Hash) (w : Millis) : pollAnswer hash outcome ≠ .error (.settleTimeout h w) := by
  cases outcome with
  | error cause => simp [pollAnswer]
  | ok reply =>
    rw [pollAnswer, Query.answer, Rpc.Reply.outcome]
    cases reply.payload with
    | error e => simp
    | empty => simp
    | result v =>
      simp only
      cases (Query.blockByHash hash).decode v <;> simp [Except.mapError]

theorem Polling.onward_since (polling : Polling) (w : Millis)
    (heard : Except ClientError (Option BlockRecord)) :
    polling.onward (polling.began + w) heard = match heard with
      | .error e => .ended (.error e)
      | .ok (some _) => .ended (.ok polling.answer)
      | .ok none =>
        if polling.timeout ≤ w then .ended (.error (.settleTimeout polling.hash w))
        else .sleep polling.interval (.poll polling) := by
  rw [Polling.onward, Nat.add_sub_cancel_left]
  cases heard with
  | error e => rfl
  | ok found =>
    cases found with
    | some b => rfl
    | none =>
      by_cases hlate : polling.timeout ≤ w
      · simp [PollVerdict.of, Except.map, hlate]
      · simp [PollVerdict.of, Except.map, hlate]

namespace Pursuit

/-- The call is about to make a poll, which is neither the first to find the block nor one that
comes too late. -/
structure Going (c : Pursuit) (polling : Polling) (rounds : Nat → Round) (k : Nat) : Prop where
  polls : c.polls = k
  due : ∃ delay, c.onward = .sleep delay (.poll polling) ∧
    c.now + delay = polling.began + begins polling.interval rounds k
  unseen : ∀ i < k, pollAnswer polling.hash (rounds i).outcome = .ok none
  early : ∀ i < k, waited polling.interval rounds i < polling.timeout

variable {c : Pursuit} {polling : Polling} {rounds : Nat → Round} {k : Nat}

theorem Going.not_ended (h : c.Going polling rounds k) (result : Except ClientError CallAnswer) :
    c.onward ≠ .ended result := by
  obtain ⟨delay, honward, -⟩ := h.due
  rw [honward]
  exact nofun

/-- Before the limit there is not more time than for so many sleeps. -/
theorem Going.lt_ceilDiv (h : c.Going polling rounds (k + 1)) (hinterval : 0 < polling.interval) :
    k < polling.timeout ⌈/⌉ polling.interval := by
  by_contra hge
  have hsleeps := (ceilDiv_le_iff_le_mul hinterval).mp (Nat.not_lt.mp hge)
  have hwaited := mul_le_waited polling.interval rounds k
  have hearly := h.early k (Nat.lt_succ_self k)
  exact Nat.not_le.mpr hearly (hsleeps.trans hwaited)

theorem Going.begins_lt (h : c.Going polling rounds k) (hinterval : 0 < polling.interval) :
    begins polling.interval rounds k < polling.timeout + polling.interval := by
  cases k with
  | zero =>
    have hfirst : begins polling.interval rounds 0 = 0 := by simp [begins]
    rw [hfirst]
    exact Nat.add_pos_right _ hinterval
  | succ k =>
    have hearly := h.early k (Nat.lt_succ_self k)
    rw [begins_succ]
    exact Nat.add_lt_add_right hearly _

theorem Going.step (h : c.Going polling rounds k) (hinterval : 0 < polling.interval) :
    (c.step (rounds k)).Going polling rounds (k + 1) ∨ ∃ result,
      c.step (rounds k) =
        ⟨polling.began + waited polling.interval rounds k, .ended result, k + 1⟩ ∧
      polling.Ends (waited polling.interval rounds k) (rounds k).duration
        (pollAnswer polling.hash (rounds k).outcome) result := by
  obtain ⟨delay, honward, hdue⟩ := h.due
  have hnow : c.now + delay + (rounds k).duration =
      polling.began + waited polling.interval rounds k := by
    rw [hdue, waited, Nat.add_assoc]
  have hstep : c.step (rounds k) = ⟨polling.began + waited polling.interval rounds k,
      polling.onward (polling.began + waited polling.interval rounds k)
        (pollAnswer polling.hash (rounds k).outcome), k + 1⟩ := by
    simp only [Pursuit.step, honward, hnow, h.polls]
  rw [hstep, Polling.onward_since]
  cases hheard : pollAnswer polling.hash (rounds k).outcome with
  | error e => exact .inr ⟨_, rfl, .failed e⟩
  | ok found =>
    cases found with
    | some b => exact .inr ⟨_, rfl, .visible b⟩
    | none =>
      by_cases hlate : polling.timeout ≤ waited polling.interval rounds k
      · refine .inr ⟨_, by simp only [if_pos hlate], .timedOut hlate ?_⟩
        rw [waited]
        exact Nat.add_lt_add_right (h.begins_lt hinterval) _
      · refine .inl ⟨rfl, ⟨polling.interval, by simp only [if_neg hlate], ?_⟩, ?_, ?_⟩
        · rw [begins_succ, Nat.add_assoc]
        · intro i hi
          rcases Nat.lt_succ_iff_lt_or_eq.mp hi with hi | rfl
          · exact h.unseen i hi
          · exact hheard
        · intro i hi
          rcases Nat.lt_succ_iff_lt_or_eq.mp hi with hi | rfl
          · exact h.early i hi
          · exact Nat.not_le.mp hlate

theorem Going.exists_last (h : c.Going polling rounds 0) (hinterval : 0 < polling.interval) :
    ∃ n ≤ polling.timeout ⌈/⌉ polling.interval,
      (∀ k ≤ n, (c.after rounds k).Going polling rounds k) ∧
        ¬ (c.after rounds (n + 1)).Going polling rounds (n + 1) := by
  classical
  have hstops : ∃ k, ¬ (c.after rounds k).Going polling rounds k :=
    ⟨_, fun hgoing => Nat.lt_irrefl _ (hgoing.lt_ceilDiv hinterval)⟩
  have hfirst : Nat.find hstops ≠ 0 := fun hzero => by
    have hnot := Nat.find_spec hstops
    rw [hzero] at hnot
    exact hnot h
  obtain ⟨n, hn⟩ := Nat.exists_eq_succ_of_ne_zero hfirst
  have hgoing : ∀ k ≤ n, (c.after rounds k).Going polling rounds k := fun k hk =>
    not_not.mp (Nat.find_min hstops (hn ▸ Nat.lt_succ_of_le hk))
  have hlast := Nat.find_spec hstops
  rw [hn] at hlast
  refine ⟨n, ?_, hgoing, hlast⟩
  cases n with
  | zero => exact Nat.zero_le _
  | succ n => exact (hgoing (n + 1) (Nat.le_refl _)).lt_ceilDiv hinterval

theorem after_ended {now : Millis} {result : Except ClientError CallAnswer} {polls n : Nat}
    (h : c.after rounds n = ⟨now, .ended result, polls⟩) (hk : n ≤ k) :
    c.after rounds k = ⟨now, .ended result, polls⟩ := by
  induction hk with
  | refl => exact h
  | step _ ih => rw [after, ih, Pursuit.step]

end Pursuit

/-! ### Turns of a session -/

namespace Session

/-- The call of a task has ended or sleeps, as it went on. -/
inductive Stands (s : Session) (n : Nat) : Onward → Prop
  | ended (result : Except ClientError CallAnswer) (told : (n, .call result) ∈ s.results) :
      Stands s n (.ended result)
  | sleeping (delay : Millis) (waking : Waking)
      (task : s.tasks[n]? = some (.call (.sleep waking)))
      (timer : 0 < delay → ⟨s.now + delay, .task n⟩ ∈ s.timers) :
      Stands s n (.sleep delay waking)

variable {s : Session} {n : Nat}

theorem stands_goOnward (hn : n < s.tasks.length) (onward : Onward) :
    (s.goOnward n onward).Stands n onward := by
  cases onward with
  | ended result => exact .ended result (by simp [goOnward])
  | sleep delay waking =>
    have htask : (s.tasks.set n (.call (.sleep waking)))[n]? = some (.call (.sleep waking)) :=
      List.getElem?_set_self hn
    by_cases hzero : delay = 0
    · have hturn : s.goOnward n (.sleep delay waking) =
          (s.setTask n (.call (.sleep waking))).goOn (.task n) := if_pos hzero
      rw [hturn]
      exact .sleeping delay waking htask fun hpos => absurd hzero hpos.ne'
    · have hturn : s.goOnward n (.sleep delay waking) =
          (s.setTask n (.call (.sleep waking))).setTimer (.task n) delay := if_neg hzero
      rw [hturn]
      exact .sleeping delay waking htask fun _ =>
        List.mem_append_right _ (List.mem_singleton_self _)

theorem now_finish (s : Session) (n : Nat) (result : TaskResult) :
    (s.finish n result).now = s.now := by
  unfold finish
  split <;> rfl

theorem now_goOnward (s : Session) (n : Nat) (onward : Onward) :
    (s.goOnward n onward).now = s.now := by
  cases onward with
  | ended result => exact now_finish s n _
  | sleep delay waking =>
    simp only [goOnward]
    split <;> rfl

theorem now_concludeExchange (s : Session) (n : Nat) (line : Line) (exchange : Running) :
    (s.concludeExchange n line exchange).now = s.now := by
  unfold concludeExchange
  split
  · exact now_finish s n _
  · exact now_goOnward (s.dropTimer (.task n)) n _
  · rfl

theorem stands_concludeExchange {line : Line} {x : Exchange} {limit : Millis} {polling : Polling}
    {outcome : Except TransportError Rpc.Reply} (hn : n < s.tasks.length)
    (hx : line.client.find? x.id = some x) (hmethod : x.method = polling.query.method)
    (hparams : x.params = polling.query.params) (hended : x.stage = .ended outcome) :
    (s.concludeExchange n line ⟨x.id, limit, .poll polling⟩).Stands n
      (polling.onward s.now (pollAnswer polling.hash outcome)) := by
  obtain ⟨id, method, params, stage, slot⟩ := x
  obtain rfl : stage = .ended outcome := hended
  obtain rfl : method = _ := hmethod
  obtain rfl : params = _ := hparams
  cases outcome with
  | error cause =>
    have honward : polling.onward s.now (pollAnswer polling.hash (.error cause)) = .ended
        (.error (.transport polling.query.method polling.query.params cause)) := rfl
    rw [honward]
    simp only [concludeExchange, hx]
    exact stands_goOnward hn
      (.ended (.error (.transport polling.query.method polling.query.params cause)))
  | ok reply =>
    simp only [concludeExchange, hx]
    exact stands_goOnward (s := s.dropTimer (.task n)) hn _

/-- What the session is when its task goes on the next time. Before a poll the task sleeps, and then
the poll takes as long as a round does and ends as that does. -/
inductive Turn (n : Nat) (s : Session) (r : Round) : Onward → Session → Prop
  | polled (delay : Millis) (polling : Polling) (t : Session) (line : Line) (x : Exchange)
      (limit : Millis) (clock : t.now = s.now + delay + r.duration) (task : n < t.tasks.length)
      (found : line.client.find? x.id = some x) (method : x.method = polling.query.method)
      (params : x.params = polling.query.params) (ended : x.stage = .ended r.outcome) :
      Turn n s r (.sleep delay (.poll polling))
        (t.concludeExchange n line ⟨x.id, limit, .poll polling⟩)
  | idle (onward : Onward) (none : ∀ delay polling, onward ≠ .sleep delay (.poll polling)) :
      Turn n s r onward s

/-- The session is as far as the pursuit. -/
structure Keeps (s : Session) (n : Nat) (c : Pursuit) : Prop where
  now : s.now = c.now
  stands : s.Stands n c.onward

theorem Keeps.step {c : Pursuit} {r : Round} {s' : Session} (h : s.Keeps n c)
    (hturn : Turn n s r c.onward s') : s'.Keeps n (c.step r) := by
  obtain ⟨now, onward, polls⟩ := c
  cases hturn with
  | polled delay polling t line x limit hclock htask hx hmethod hparams hended =>
    have hnow : t.now = now + delay + r.duration := hclock.trans (by rw [h.now])
    refine ⟨(now_concludeExchange t n line _).trans hnow, ?_⟩
    have hstands : (t.concludeExchange n line ⟨x.id, limit, .poll polling⟩).Stands n
        (polling.onward t.now (pollAnswer polling.hash r.outcome)) :=
      stands_concludeExchange htask hx hmethod hparams hended
    rw [hnow] at hstands
    exact hstands
  | idle _ hnone =>
    have hsame : (⟨now, onward, polls⟩ : Pursuit).step r = ⟨now, onward, polls⟩ := by
      cases onward with
      | ended => rfl
      | sleep delay waking =>
        cases waking with
        | answer => rfl
        | poll polling => exact absurd rfl (hnone delay polling)
    rw [hsame]
    exact h

end Session

/-- How the polling of a call ends that began to poll: with the last of its polls, all before which
heard that there is no block yet and came before the limit. -/
structure Pursuit.Settled (start : Pursuit) (polling : Polling) (rounds : Nat → Round) (last : Nat)
    (result : Except ClientError CallAnswer) : Prop where
  bound : last + 1 ≤ polling.timeout ⌈/⌉ polling.interval + 1
  going : ∀ k ≤ last,
    (start.after rounds k).polls = k ∧ ∀ r, (start.after rounds k).onward ≠ .ended r
  afterLast : ∀ k, last < k → start.after rounds k =
    ⟨polling.began + waited polling.interval rounds last, .ended result, last + 1⟩
  unseen : ∀ k < last, pollAnswer polling.hash (rounds k).outcome = .ok none ∧
    waited polling.interval rounds k < polling.timeout
  ends : polling.Ends (waited polling.interval rounds last) (rounds last).duration
    (pollAnswer polling.hash (rounds last).outcome) result
  timedOut : (∃ h w, result = .error (.settleTimeout h w)) →
    ∀ k ≤ last, pollAnswer polling.hash (rounds k).outcome = .ok none

theorem Pursuit.Going.settled {start : Pursuit} {polling : Polling} {rounds : Nat → Round}
    (h : start.Going polling rounds 0) (hinterval : 0 < polling.interval) :
    ∃ last result, start.Settled polling rounds last result := by
  obtain ⟨n, hbound, hgoing, hlast⟩ := h.exists_last hinterval
  have hn := hgoing n (Nat.le_refl n)
  rcases hn.step hinterval with hnext | ⟨result, hended, hends⟩
  · exact absurd hnext hlast
  · refine ⟨n, result, {
      bound := Nat.succ_le_succ hbound
      going := fun k hk => ⟨(hgoing k hk).polls, (hgoing k hk).not_ended⟩
      afterLast := fun k hk => after_ended (n := n + 1) hended hk
      unseen := fun i hi => ⟨hn.unseen i hi, hn.early i hi⟩
      ends := hends
      timedOut := ?_ }⟩
    rintro ⟨h, w, rfl⟩ i hi
    rcases Nat.lt_or_eq_of_le hi with hi | rfl
    · exact hn.unseen i hi
    · generalize hheard : pollAnswer polling.hash (rounds i).outcome = found at hends ⊢
      cases hends with
      | failed e => exact absurd hheard (pollAnswer_ne_settleTimeout _ _ _ _)
      | timedOut => rfl

end SealedChain
