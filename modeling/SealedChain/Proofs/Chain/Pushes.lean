import Mathlib.Data.List.Induction
import SealedChain.Proofs.Chain.Window

/-!
# A window under any pushes

Pushes come in any order and for any heights. Those that are accepted are for consecutive heights
from the first on, so the window is that of `Recent`, and the others leave it alone. A push can also
be followed step by step, in numbers of sixty-four bits: no sum or difference on the way leaves
their range, as long as the height after each pushed one is in it.
-/
namespace SealedChain.HashWindow

structure Push where
  height : Nat
  hash : Hash
  deriving DecidableEq

def pushed (w : HashWindow) (p : Push) : HashWindow :=
  match w.push p.height p.hash with
  | .ok w' => w'
  | .error _ => w

def pushAll (w : HashWindow) (ps : List Push) : HashWindow := ps.foldl pushed w

def accepted (w : HashWindow) : List Push → List Push
  | [] => []
  | p :: ps =>
    match w.push p.height p.hash with
    | .ok w' => p :: w'.accepted ps
    | .error _ => w.accepted ps

/-! ### In sixty-four bits -/

def add64? (a b : Nat) : Option Nat := if a + b < limit64 then some (a + b) else none

def sub64? (a b : Nat) : Option Nat := if b ≤ a then some (a - b) else none

/-- The head by its sum and difference; none if one of them is out of range. -/
def headBits (w : HashWindow) : Option (Option Nat) :=
  if w.hashes.isEmpty then some none
  else do
    let next ← add64? w.oldest w.hashes.length
    let head ← sub64? next 1
    return some head

def getBits (w : HashWindow) (height : Nat) : Option Hash :=
  if height < w.oldest then some sentinelHash
  else do
    let offset ← sub64? height w.oldest
    return (w.hashes[offset]?).getD sentinelHash

structure Fields where
  oldest : Nat
  hashes : List Hash
  deriving DecidableEq

def fields (w : HashWindow) : Fields := ⟨w.oldest, w.hashes⟩

/-- A hash is put behind the others, and then the first is dropped if they are too many. -/
def Fields.append (capacity : Nat) (f : Fields) (hash : Hash) : Option Fields :=
  let longer := f.hashes ++ [hash]
  if capacity < longer.length then do
    let oldest ← add64? f.oldest 1
    return ⟨oldest, longer.tail⟩
  else some ⟨f.oldest, longer⟩

/-- A push step by step: what it leaves behind and how it ends; none if a sum or difference is out
of range. -/
def pushBits (w : HashWindow) (p : Push) : Option (Fields × Except NotContiguous Unit) := do
  match ← w.headBits with
  | none =>
    let f ← Fields.append w.capacity ⟨p.height, w.hashes⟩ p.hash
    return (f, .ok ())
  | some head =>
    let expected ← add64? head 1
    if p.height ≠ expected then return (w.fields, .error ⟨expected, p.height⟩)
    else
      let f ← Fields.append w.capacity w.fields p.hash
      return (f, .ok ())

theorem add64?_eq {a b : Nat} (h : a + b < limit64) : add64? a b = some (a + b) := if_pos h

theorem sub64?_eq {a b : Nat} (h : b ≤ a) : sub64? a b = some (a - b) := if_pos h

theorem getBits_eq (w : HashWindow) (height : Nat) : w.getBits height = some (w.get height) := by
  unfold getBits get
  split
  · rfl
  · rename_i hge
    rw [sub64?_eq (Nat.not_lt.mp hge)]
    rfl

def InRange (w : HashWindow) : Prop := w.hashes ≠ [] → w.oldest + w.hashes.length < limit64

variable {w : HashWindow}

theorem headBits_eq (h : w.InRange) : w.headBits = some w.head? := by
  unfold headBits head?
  split
  · rfl
  · rename_i hne
    have hn : w.hashes ≠ [] := by simpa using hne
    have hpos := List.length_pos_iff.mpr hn
    have hone : 1 ≤ w.oldest + w.hashes.length := by omega
    rw [add64?_eq (h hn), Option.bind_eq_bind, Option.bind_some, sub64?_eq hone]
    rfl

theorem append_eq (w : HashWindow) {oldest : Nat} (hash : Hash) (h : oldest + 1 < limit64) :
    Fields.append w.capacity ⟨oldest, w.hashes⟩ hash = some (w.append oldest hash).fields := by
  have hle := w.length_le
  simp only [Fields.append, fields, hashes_append, oldest_append, List.length_append,
    List.length_singleton]
  by_cases hfull : w.hashes.length < w.capacity
  · have hroom : ¬ w.capacity < w.hashes.length + 1 := by omega
    rw [if_neg hroom, if_pos hfull, if_pos hfull]
  · have hover : w.capacity < w.hashes.length + 1 := by omega
    rw [if_pos hover, if_neg hfull, if_neg hfull, add64?_eq h]
    rfl

theorem head?_eq_some {head : Nat} (h : w.head? = some head) :
    w.hashes ≠ [] ∧ head + 1 = w.oldest + w.hashes.length := by
  unfold head? at h
  split at h
  · cases h
  · rename_i hne
    have hn : w.hashes ≠ [] := by simpa using hne
    have hpos := List.length_pos_iff.mpr hn
    have hhead := Option.some.inj h
    exact ⟨hn, by omega⟩

theorem pushBits_eq (h : w.InRange) {p : Push} (hp : p.height + 1 < limit64) :
    w.pushBits p = some ((w.pushed p).fields, (w.push p.height p.hash).map fun _ => ()) := by
  unfold pushBits pushed push
  rw [headBits_eq h, Option.bind_eq_bind, Option.bind_some]
  cases hhead : w.head? with
  | none =>
    simp only [append_eq w p.hash hp]
    rfl
  | some head =>
    obtain ⟨hn, hnext⟩ := head?_eq_some hhead
    have hexpected : head + 1 < limit64 := hnext ▸ h hn
    have holdest : w.oldest + 1 < limit64 := by
      have hpos := List.length_pos_iff.mpr hn
      omega
    simp only [add64?_eq hexpected, Option.bind_eq_bind, Option.bind_some]
    by_cases heq : p.height = head + 1
    · rw [if_neg (not_not.mpr heq), if_pos heq, fields, append_eq w p.hash holdest]
      rfl
    · rw [if_pos heq, if_neg heq]
      rfl

/-! ### What is accepted -/

theorem pushAll_concat (w : HashWindow) (ps : List Push) (p : Push) :
    w.pushAll (ps ++ [p]) = (w.pushAll ps).pushed p := by
  simp [pushAll]

theorem accepted_concat (w : HashWindow) (ps : List Push) (p : Push) :
    w.accepted (ps ++ [p]) = w.accepted ps ++
      match (w.pushAll ps).push p.height p.hash with
      | .ok _ => [p]
      | .error _ => [] := by
  induction ps generalizing w with
  | nil =>
    simp only [List.nil_append, accepted, pushAll, List.foldl_nil]
  | cons q ps ih =>
    have hall : w.pushAll (q :: ps) = (w.pushed q).pushAll ps := rfl
    rw [hall]
    simp only [List.cons_append, accepted, pushed]
    split
    · rw [ih, List.cons_append]
    · rw [ih]

theorem mem_of_mem_accepted {ps : List Push} {p : Push} (h : p ∈ w.accepted ps) : p ∈ ps := by
  induction ps generalizing w with
  | nil => exact h
  | cons q ps ih =>
    rw [accepted] at h
    split at h
    · rcases List.mem_cons.mp h with rfl | h
      · exact List.mem_cons_self
      · exact List.mem_cons_of_mem _ (ih h)
    · exact List.mem_cons_of_mem _ (ih h)

/-- The window holds what is left of the pushes taken in, which were for consecutive heights. -/
structure Holds (w : HashWindow) (capacity first : Nat) (taken : List Push) : Prop where
  capacity : w.capacity = capacity
  heights : taken.map (·.height) = List.range' first taken.length
  recent : w.Recent first (taken.map (·.hash))

namespace Holds

variable {capacity first : Nat} {taken : List Push}

theorem start (capacity first : Nat) : (empty capacity).Holds capacity first [] :=
  ⟨rfl, rfl, recent_empty capacity first⟩

theorem first_eq (h : w.Holds capacity first taken) {p : Push} (hp : taken.head? = some p) :
    p.height = first := by
  cases taken with
  | nil => cases hp
  | cons q rest =>
    obtain rfl := Option.some.inj hp
    have hheights := h.heights
    rw [List.map_cons, List.length_cons, List.range'_succ] at hheights
    exact (List.cons.inj hheights).1

theorem last_eq (h : w.Holds capacity first taken) {p : Push} (hp : taken.getLast? = some p) :
    p.height + 1 = first + taken.length := by
  obtain ⟨before, rfl⟩ := List.getLast?_eq_some_iff.mp hp
  have hheights := h.heights
  rw [List.map_append, List.length_append, List.length_singleton, List.range'_1_concat] at hheights
  have hlast := List.append_inj_right' hheights rfl
  have hheight : p.height = first + before.length := (List.cons.inj hlast).1
  rw [List.length_append, List.length_singleton, hheight, Nat.add_assoc]

theorem head?_eq (h : w.Holds capacity first taken) (hcapacity : 1 ≤ capacity) :
    w.head? = taken.getLast?.map (·.height) := by
  have hsize := h.recent.size
  rw [List.length_map, h.capacity, HashWindow.size] at hsize
  unfold head?
  cases hlast : taken.getLast? with
  | none =>
    rw [List.getLast?_eq_none_iff.mp hlast, List.length_nil, Nat.zero_min] at hsize
    rw [List.length_eq_zero_iff.mp hsize]
    rfl
  | some p =>
    have hnext := h.last_eq hlast
    have hne : taken ≠ [] := by
      rintro rfl
      cases hlast
    have hpos := List.length_pos_iff.mpr hne
    have holdest := h.recent.oldest (by simpa using hne)
    rw [List.length_map, h.capacity] at holdest
    have hn : ¬ w.hashes.isEmpty = true := by
      rw [List.isEmpty_iff_length_eq_zero]
      omega
    rw [if_neg hn, Option.map_some, Option.some.injEq]
    omega

theorem rebase (h : w.Holds capacity first []) (first' : Nat) : w.Holds capacity first' [] :=
  ⟨h.capacity, rfl, ⟨h.recent.hashes, fun hne => absurd rfl hne⟩⟩

theorem push (h : w.Holds capacity first taken) {p : Push}
    (hp : p.height = first + taken.length) :
    ∃ w', w.push p.height p.hash = .ok w' ∧ w'.Holds capacity first (taken ++ [p]) := by
  obtain ⟨w', hpush, hcapacity, hrecent⟩ := h.recent.push p.hash
  rw [List.length_map, ← hp] at hpush
  refine ⟨w', hpush, hcapacity.trans h.capacity, ?_, ?_⟩
  · rw [List.map_append, h.heights, List.length_append, List.length_singleton,
      List.range'_1_concat, ← hp]
    rfl
  · rwa [List.map_append]

theorem push_first (h : w.Holds capacity first []) (p : Push) :
    ∃ w', w.push p.height p.hash = .ok w' ∧ w'.Holds capacity p.height [p] :=
  (h.rebase p.height).push (by simp)

theorem push_misfit (h : w.Holds capacity first taken) (hcapacity : 1 ≤ capacity) {last p : Push}
    (hlast : taken.getLast? = some last) (hp : p.height ≠ last.height + 1) :
    w.push p.height p.hash = .error ⟨last.height + 1, p.height⟩ := by
  have hhead := h.head?_eq hcapacity
  rw [hlast, Option.map_some] at hhead
  simp only [HashWindow.push, hhead, if_neg hp]

theorem pushed_misfit (h : w.Holds capacity first taken) (hcapacity : 1 ≤ capacity) {last p : Push}
    (hlast : taken.getLast? = some last) (hp : p.height ≠ last.height + 1) : w.pushed p = w := by
  rw [pushed, h.push_misfit hcapacity hlast hp]

theorem inRange (h : w.Holds capacity first taken) (hcapacity : 1 ≤ capacity)
    (hrange : ∀ p ∈ taken, p.height + 1 < limit64) : w.InRange := by
  intro hn
  have hhead := h.head?_eq hcapacity
  cases hlast : taken.getLast? with
  | none =>
    have hsize := h.recent.size
    rw [List.getLast?_eq_none_iff.mp hlast, List.map_nil, List.length_nil, Nat.zero_min,
      HashWindow.size] at hsize
    exact absurd (List.length_eq_zero_iff.mp hsize) hn
  | some last =>
    rw [hlast, Option.map_some] at hhead
    have hnext := (head?_eq_some hhead).2
    have hlt := hrange last (List.mem_of_getLast? hlast)
    omega

theorem get_of_mem (h : w.Holds capacity first taken) {p : Push} (hp : p ∈ taken)
    (hkept : first + taken.length ≤ p.height + capacity) : w.get p.height = p.hash := by
  obtain ⟨i, hi, hget⟩ := List.getElem_of_mem hp
  have hheight : p.height = first + i := by
    have hheights := congrArg (·[i]?) h.heights
    simp only [List.getElem?_map, List.getElem?_eq_getElem hi, hget, Option.map_some,
      List.getElem?_range' hi] at hheights
    have := Option.some.inj hheights
    omega
  have hindex : p.height - first = i := by omega
  have hin : first ≤ p.height ∧ first + taken.length ≤ p.height + capacity :=
    ⟨by omega, hkept⟩
  rw [h.recent.get, List.length_map, h.capacity, if_pos hin, hindex, List.getElem?_map,
    List.getElem?_eq_getElem hi, hget]
  rfl

theorem get_outside (h : w.Holds capacity first taken) {height : Nat}
    (hout : height < first ∨ height + capacity < first + taken.length ∨
      first + taken.length ≤ height) : w.get height = sentinelHash := by
  rw [h.recent.get, List.length_map, h.capacity]
  split
  · have hend : (taken.map (·.hash)).length ≤ height - first := by
      rw [List.length_map]
      omega
    rw [List.getElem?_eq_none hend, Option.getD_none]
  · rfl

end Holds

theorem holds_pushAll {capacity : Nat} (hcapacity : 1 ≤ capacity) (ps : List Push) :
    ∃ first, ((empty capacity).pushAll ps).Holds capacity first ((empty capacity).accepted ps) := by
  induction ps using List.reverseRecOn with
  | nil => exact ⟨0, .start capacity 0⟩
  | append_singleton ps p ih =>
    obtain ⟨first, h⟩ := ih
    rw [pushAll_concat, accepted_concat]
    cases hlast : ((empty capacity).accepted ps).getLast? with
    | none =>
      rw [List.getLast?_eq_none_iff.mp hlast] at h ⊢
      obtain ⟨w', hpush, h'⟩ := h.push_first p
      rw [pushed, hpush]
      exact ⟨p.height, h'⟩
    | some last =>
      have hnext := h.last_eq hlast
      by_cases hp : p.height = last.height + 1
      · obtain ⟨w', hpush, h'⟩ := h.push (hp.trans hnext)
        rw [pushed, hpush]
        exact ⟨first, h'⟩
      · rw [h.pushed_misfit hcapacity hlast hp, h.push_misfit hcapacity hlast hp, List.append_nil]
        exact ⟨first, h⟩

/-- What a window with room for `capacity` hashes serves after these pushes were taken in: the
heights from `low` to that of the last push. -/
structure Serves (w : HashWindow) (capacity : Nat) (taken : List Push) (first last : Push)
    (low : Nat) : Prop where
  size : w.size = min taken.length capacity
  head : w.head? = some last.height
  oldest : w.oldest? = some low
  reach : low + min taken.length capacity = last.height + 1
  since : first.height ≤ low
  heights : taken.map (·.height) = List.range' first.height taken.length
  kept : ∀ q, low ≤ q → q ≤ last.height → ∃ p ∈ taken, p.height = q ∧ w.get q = p.hash
  gone : ∀ q, q < low ∨ last.height < q → w.get q = sentinelHash

theorem Holds.serves {capacity start : Nat} {taken : List Push} (hcapacity : 1 ≤ capacity)
    (h : w.Holds capacity start taken) {first last : Push} (hfirst : taken.head? = some first)
    (hlast : taken.getLast? = some last) : ∃ low, w.Serves capacity taken first last low := by
  have hstart := h.first_eq hfirst
  have hnext := h.last_eq hlast
  have hsize : w.size = min taken.length capacity := by
    rw [h.recent.size, List.length_map, h.capacity]
  have hhead : w.head? = some last.height := by
    rw [h.head?_eq hcapacity, hlast]
    rfl
  obtain ⟨hn, hend⟩ := head?_eq_some hhead
  have holdest : w.oldest? = some w.oldest := by
    unfold oldest?
    rw [if_neg (by simpa using hn)]
  have hlength : w.hashes.length = w.size := rfl
  refine ⟨w.oldest, hsize, hhead, holdest, by omega, by omega, hstart ▸ h.heights, ?_, ?_⟩
  · intro q hlow hhigh
    have hq : q ∈ taken.map (·.height) := by
      rw [h.heights, List.mem_range'_1]
      omega
    obtain ⟨p, hp, rfl⟩ := List.mem_map.mp hq
    exact ⟨p, hp, rfl, h.get_of_mem hp (by omega)⟩
  · intro q hq
    exact h.get_outside (by omega)

/-- Whatever is pushed, accepted are the first push and then those for the height after the last
accepted one, of which the window serves the last. No sum or difference on the way is out of range.
-/
theorem pushed_run {capacity : Nat} (hcapacity : 1 ≤ capacity) {ps : List Push}
    (hps : ∀ p ∈ ps, p.height + 1 < limit64) :
    let w := (empty capacity).pushAll ps
    let taken := (empty capacity).accepted ps
    (∀ p : Push, p.height + 1 < limit64 →
      (taken = [] → ∃ w', w.push p.height p.hash = .ok w') ∧
      (∀ last, taken.getLast? = some last →
        ((∃ w', w.push p.height p.hash = .ok w') ↔ p.height = last.height + 1) ∧
        (p.height ≠ last.height + 1 →
          w.push p.height p.hash = .error ⟨last.height + 1, p.height⟩ ∧ w.pushed p = w)) ∧
      w.pushBits p = some ((w.pushed p).fields, (w.push p.height p.hash).map fun _ => ())) ∧
    (∀ first last, taken.head? = some first → taken.getLast? = some last →
      ∃ low, w.Serves capacity taken first last low) ∧
    w.headBits = some w.head? ∧ ∀ q, w.getBits q = some (w.get q) := by
  intro w taken
  obtain ⟨start, h⟩ : ∃ start, w.Holds capacity start taken := holds_pushAll hcapacity ps
  have hrange : w.InRange :=
    h.inRange hcapacity fun p hp => hps p (mem_of_mem_accepted hp)
  refine ⟨fun p hp => ⟨fun hnone => ?_, fun last hlast => ⟨⟨?_, fun heq => ?_⟩, fun hne => ?_⟩,
    pushBits_eq hrange hp⟩, fun first last => h.serves hcapacity, headBits_eq hrange,
    getBits_eq w⟩
  · rw [hnone] at h
    obtain ⟨w', hpush, -⟩ := h.push_first p
    exact ⟨w', hpush⟩
  · rintro ⟨w', hpush⟩
    by_contra hne
    rw [h.push_misfit hcapacity hlast hne] at hpush
    cases hpush
  · obtain ⟨w', hpush, -⟩ := h.push (heq.trans (h.last_eq hlast))
    exact ⟨w', hpush⟩
  · exact ⟨h.push_misfit hcapacity hlast hne, h.pushed_misfit hcapacity hlast hne⟩

theorem pushed_to_the_end :
    let ps : List Push := [⟨limit64 - 4, .ofNat 32 1⟩, ⟨limit64 - 2, .ofNat 32 2⟩,
      ⟨limit64 - 3, .ofNat 32 3⟩, ⟨limit64 - 2, .ofNat 32 4⟩]
    let taken : List Push := [⟨limit64 - 4, .ofNat 32 1⟩, ⟨limit64 - 3, .ofNat 32 3⟩,
      ⟨limit64 - 2, .ofNat 32 4⟩]
    let w := (empty 2).pushAll ps
    1 ≤ 2 ∧ (∀ p ∈ ps, p.height + 1 < limit64) ∧ (empty 2).accepted ps = taken ∧
      w.Serves 2 taken ⟨limit64 - 4, .ofNat 32 1⟩ ⟨limit64 - 2, .ofNat 32 4⟩ (limit64 - 3) ∧
      w.push (limit64 - 2) (.ofNat 32 5) = .error ⟨limit64 - 1, limit64 - 2⟩ := by
  intro ps taken w
  have hps : ∀ p ∈ ps, p.height + 1 < limit64 := by decide
  have htaken : (empty 2).accepted ps = taken := by decide
  obtain ⟨hnext, hserves, -⟩ := pushed_run (by decide : 1 ≤ 2) hps
  rw [htaken] at hnext hserves
  obtain ⟨low, hlow⟩ := hserves ⟨limit64 - 4, .ofNat 32 1⟩ ⟨limit64 - 2, .ofNat 32 4⟩ rfl rfl
  have hreach := hlow.reach
  obtain rfl : low = limit64 - 3 := by
    simp only [taken, List.length_cons, List.length_nil, limit64] at hreach ⊢
    omega
  obtain ⟨-, hlast, -⟩ := hnext ⟨limit64 - 2, .ofNat 32 5⟩ (by decide)
  have hrefused := (hlast ⟨limit64 - 2, .ofNat 32 4⟩ rfl).2 (by decide)
  exact ⟨by decide, hps, htaken, hlow, hrefused.1⟩

end SealedChain.HashWindow
