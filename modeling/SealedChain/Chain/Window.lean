import SealedChain.Block.History

/-!
# The window of recent block hashes

A window keeps the hashes of the last heights pushed, at most `capacity` of them, and answers every
other height with the sentinel. The first push may start at any height; each later one has to
extend the head by one. A rejected push changes nothing.
-/
namespace SealedChain

structure HashWindow where
  capacity : Nat
  /-- The height of the first hash. It means nothing while there is none. -/
  oldest : Nat
  hashes : List Hash
  length_le : hashes.length ≤ capacity
  deriving DecidableEq

namespace HashWindow

structure NotContiguous where
  expected : Nat
  got : Nat
  deriving DecidableEq, Repr

def NotContiguous.message (e : NotContiguous) : String :=
  String.ofList ("Block height ".toList ++ Digits.decimal e.got ++
    " does not extend the window head, expected ".toList ++ Digits.decimal e.expected)

def empty (capacity : Nat) : HashWindow := ⟨capacity, 0, [], by simp⟩

def size (w : HashWindow) : Nat := w.hashes.length

def isEmpty (w : HashWindow) : Bool := w.hashes.isEmpty

def head? (w : HashWindow) : Option Nat :=
  if w.hashes.isEmpty then none else some (w.oldest + w.hashes.length - 1)

def oldest? (w : HashWindow) : Option Nat :=
  if w.hashes.isEmpty then none else some w.oldest

/-- The hash of a height, or the sentinel if the height is not kept. -/
def get (w : HashWindow) (height : Nat) : Hash :=
  if height < w.oldest then sentinelHash
  else (w.hashes[height - w.oldest]?).getD sentinelHash

theorem length_append_le (w : HashWindow) (hash : Hash) (h : w.hashes.length < w.capacity) :
    (w.hashes ++ [hash]).length ≤ w.capacity := by
  rw [List.length_append]
  exact h

theorem length_tail_le (w : HashWindow) (hash : Hash) :
    (w.hashes ++ [hash]).tail.length ≤ w.capacity := by
  rw [List.length_tail, List.length_append]
  exact w.length_le

/-- The window with one hash more at its end, starting at `oldest`; a full window loses its
oldest hash. -/
def append (w : HashWindow) (oldest : Nat) (hash : Hash) : HashWindow :=
  if h : w.hashes.length < w.capacity then
    ⟨w.capacity, oldest, w.hashes ++ [hash], w.length_append_le hash h⟩
  else
    ⟨w.capacity, oldest + 1, (w.hashes ++ [hash]).tail, w.length_tail_le hash⟩

def push (w : HashWindow) (height : Nat) (hash : Hash) : Except NotContiguous HashWindow :=
  match w.head? with
  | none => .ok (w.append height hash)
  | some head =>
    if height = head + 1 then .ok (w.append w.oldest hash)
    else .error ⟨head + 1, height⟩

@[simp] theorem size_empty (capacity : Nat) : (empty capacity).size = 0 := rfl

@[simp] theorem head?_empty (capacity : Nat) : (empty capacity).head? = none := rfl

@[simp] theorem capacity_append (w : HashWindow) (oldest : Nat) (hash : Hash) :
    (w.append oldest hash).capacity = w.capacity := by
  unfold append
  split <;> rfl

theorem hashes_append (w : HashWindow) (oldest : Nat) (hash : Hash) :
    (w.append oldest hash).hashes =
      if w.hashes.length < w.capacity then w.hashes ++ [hash] else (w.hashes ++ [hash]).tail := by
  unfold append
  split <;> rfl

theorem oldest_append (w : HashWindow) (oldest : Nat) (hash : Hash) :
    (w.append oldest hash).oldest =
      if w.hashes.length < w.capacity then oldest else oldest + 1 := by
  unfold append
  split <;> rfl

end HashWindow

end SealedChain
