import SealedChain.Bytes.Word

/-!
# Keccak-256

The sponge over the permutation Keccak-f[1600] with a rate of 136 bytes and the padding `0x01 …
0x80`, cut to thirty-two bytes. Lane `(x, y)` of the state stands at place `5 * y + x`.
-/
namespace SealedChain.Keccak

abbrev State := List UInt64

def lane (s : State) (i : Nat) : UInt64 := s.getD i 0

def ofLanes (f : Nat → UInt64) : State := (List.range 25).map f

def rotateLeft (w : UInt64) (k : Nat) : UInt64 :=
  w <<< UInt64.ofNat k ||| w >>> UInt64.ofNat (64 - k)

def roundConstants : List UInt64 :=
  [0x0000000000000001, 0x0000000000008082, 0x800000000000808A, 0x8000000080008000,
   0x000000000000808B, 0x0000000080000001, 0x8000000080008081, 0x8000000000008009,
   0x000000000000008A, 0x0000000000000088, 0x0000000080008009, 0x000000008000000A,
   0x000000008000808B, 0x800000000000008B, 0x8000000000008089, 0x8000000000008003,
   0x8000000000008002, 0x8000000000000080, 0x000000000000800A, 0x800000008000000A,
   0x8000000080008081, 0x8000000000008080, 0x0000000080000001, 0x8000000080008008]

def rotations : List Nat :=
  [0, 1, 62, 28, 27,
   36, 44, 6, 55, 20,
   3, 10, 43, 25, 39,
   41, 45, 15, 21, 8,
   18, 2, 61, 56, 14]

def parity (s : State) (x : Nat) : UInt64 :=
  lane s x ^^^ lane s (x + 5) ^^^ lane s (x + 10) ^^^ lane s (x + 15) ^^^ lane s (x + 20)

/-- Every lane takes in the parities of its two neighbouring columns. -/
def theta (s : State) : State :=
  let column := (List.range 5).map (parity s)
  let change := (List.range 5).map fun x =>
    column.getD ((x + 4) % 5) 0 ^^^ rotateLeft (column.getD ((x + 1) % 5) 0) 1
  ofLanes fun i => lane s i ^^^ change.getD (i % 5) 0

/-- Every lane is rotated and moved from `(x, y)` to `(y, 2 * x + 3 * y)`. -/
def rhoPi (s : State) : State :=
  ofLanes fun i =>
    let source := 5 * (i % 5) + (i % 5 + 3 * (i / 5)) % 5
    rotateLeft (lane s source) (rotations.getD source 0)

/-- Every lane is combined with the next two of its row. -/
def chi (s : State) : State :=
  ofLanes fun i =>
    let row := 5 * (i / 5)
    lane s i ^^^ (~~~ lane s (row + (i + 1) % 5) &&& lane s (row + (i + 2) % 5))

def iota (c : UInt64) : State → State
  | [] => []
  | w :: ws => (w ^^^ c) :: ws

def round (s : State) (c : UInt64) : State := iota c (chi (rhoPi (theta s)))

def permute (s : State) : State := roundConstants.foldl round s

def rate : Nat := 136

/-- The message, a one bit, and zeros up to a final one bit at the end of a block. -/
def pad (message : Bytes) : Bytes :=
  let room := rate - message.length % rate
  if room = 1 then message ++ [0x81]
  else message ++ 0x01 :: (List.replicate (room - 2) 0 ++ [0x80])

def laneOfBytes (bs : Bytes) : UInt64 :=
  (bs.take 8).foldr (fun b acc => acc <<< 8 ||| b.toUInt64) 0

def bytesOfLane (w : UInt64) : Bytes :=
  (List.range 8).map fun k => (w >>> UInt64.ofNat (8 * k)).toUInt8

def lanesOfBlock : Nat → Bytes → List UInt64
  | 0, _ => []
  | k + 1, bs => laneOfBytes bs :: lanesOfBlock k (bs.drop 8)

def absorbBlock (s : State) (block : Bytes) : State :=
  let lanes := lanesOfBlock (rate / 8) block
  permute (List.zipWith (· ^^^ ·) s (lanes ++ List.replicate (25 - rate / 8) 0))

/-- The state takes in that many blocks. -/
def absorb : Nat → State → Bytes → State
  | 0, s, _ => s
  | k + 1, s, bs => absorb k (absorbBlock s (bs.take rate)) (bs.drop rate)

def digest (message : Bytes) : Bytes :=
  let padded := pad message
  let s := absorb (padded.length / rate) (List.replicate 25 0) padded
  (List.range 4).flatMap fun i => bytesOfLane (lane s i)

theorem length_digest (message : Bytes) : (digest message).length = 32 := by
  simp [digest, bytesOfLane, List.flatMap, List.range_succ]

end SealedChain.Keccak

namespace SealedChain

def keccak256 (message : Bytes) : Hash := ⟨Keccak.digest message, Keccak.length_digest message⟩

end SealedChain
