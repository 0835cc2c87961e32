import SealedChain.Chain.Window

/-!
# The contents of a window

Pushing the hashes of consecutive heights onto an empty window never fails, and the window then
holds the last of them, as many as it has room for. `Recent` says so of a window and the list of
all hashes pushed; every look-up is answered from that list.
-/
namespace SealedChain.HashWindow

/-- The window after these hashes were pushed, the first of them for the height `first`. -/
structure Recent (w : HashWindow) (first : Nat) (pushed : List Hash) : Prop where
  hashes : w.hashes = pushed.drop (pushed.length - w.capacity)
  oldest : pushed ≠ [] → w.oldest = first + (pushed.length - w.capacity)

theorem recent_empty (capacity first : Nat) : (empty capacity).Recent first [] :=
  ⟨by simp [empty], fun h => absurd rfl h⟩

variable {w : HashWindow} {first : Nat} {pushed : List Hash}

theorem Recent.size (h : w.Recent first pushed) : w.size = min pushed.length w.capacity := by
  rw [HashWindow.size, h.hashes, List.length_drop]
  omega

theorem Recent.pushed_ne_nil (h : w.Recent first pushed) (hw : w.hashes ≠ []) : pushed ≠ [] := by
  intro he
  rw [h.hashes, he, List.drop_nil] at hw
  exact hw rfl

theorem Recent.head_succ (h : w.Recent first pushed) {head : Nat} (hw : w.head? = some head) :
    w.hashes ≠ [] ∧ head + 1 = first + pushed.length := by
  unfold head? at hw
  split at hw
  · exact absurd hw (by simp)
  · rename_i hne
    have hn : w.hashes ≠ [] := by simpa using hne
    have hpos := List.length_pos_iff.mpr hn
    have ho := h.oldest (h.pushed_ne_nil hn)
    have hs := h.size
    have hhead := Option.some.inj hw
    simp only [HashWindow.size] at hs
    exact ⟨hn, by omega⟩

theorem Recent.append (h : w.Recent first pushed) (oldest : Nat) (hash : Hash)
    (ho : oldest = first + (pushed.length - w.capacity)) :
    (w.append oldest hash).Recent first (pushed ++ [hash]) := by
  have hs := h.size
  simp only [HashWindow.size] at hs
  constructor
  · rw [hashes_append, capacity_append, List.length_append, List.length_singleton]
    split
    · have hz : pushed.length + 1 - w.capacity = 0 := by omega
      have hz' : pushed.length - w.capacity = 0 := by omega
      rw [h.hashes, hz, hz', List.drop_zero, List.drop_zero]
    · have hsucc : pushed.length + 1 - w.capacity = pushed.length - w.capacity + 1 := by omega
      have hle : pushed.length - w.capacity ≤ pushed.length := Nat.sub_le _ _
      rw [hsucc, ← List.tail_drop, List.drop_append_of_le_length hle, h.hashes]
  · intro _
    rw [oldest_append, capacity_append, List.length_append, List.length_singleton]
    split <;> omega

theorem Recent.push (h : w.Recent first pushed) (hash : Hash) :
    ∃ w', w.push (first + pushed.length) hash = .ok w' ∧ w'.capacity = w.capacity ∧
      w'.Recent first (pushed ++ [hash]) := by
  unfold HashWindow.push
  cases hh : w.head? with
  | none =>
    have he : w.hashes = [] := by
      unfold head? at hh
      split at hh
      · rename_i hn
        simpa using hn
      · exact absurd hh (by simp)
    have hs := h.size
    rw [HashWindow.size, he, List.length_nil] at hs
    exact ⟨_, rfl, capacity_append _ _ _, h.append _ hash (by omega)⟩
  | some head =>
    obtain ⟨hn, hnext⟩ := h.head_succ hh
    have ho := h.oldest (h.pushed_ne_nil hn)
    simp only [hnext, if_true]
    exact ⟨_, rfl, capacity_append _ _ _, h.append _ hash ho⟩

/-- What a look-up answers: the hash pushed for the height if it is among the last, or else the
sentinel. -/
theorem Recent.get (h : w.Recent first pushed) (height : Nat) :
    w.get height =
      (if first ≤ height ∧ first + pushed.length ≤ height + w.capacity
        then pushed[height - first]? else none).getD sentinelHash := by
  by_cases hp : pushed = []
  · have hw : w.hashes = [] := by rw [h.hashes, hp, List.drop_nil]
    simp [HashWindow.get, hw, hp]
  · have ho := h.oldest hp
    unfold HashWindow.get
    split
    · rename_i hlt
      have hn : ¬ (first ≤ height ∧ first + pushed.length ≤ height + w.capacity) := by omega
      rw [if_neg hn, Option.getD_none]
    · rename_i hge
      have hin : first ≤ height ∧ first + pushed.length ≤ height + w.capacity := by omega
      have hidx : pushed.length - w.capacity + (height - w.oldest) = height - first := by omega
      rw [if_pos hin, h.hashes, List.getElem?_drop, hidx]

end SealedChain.HashWindow
