/-!
# Byte strings of a fixed length

A word is a byte string with its length in its type. Block hashes, transaction hashes and the
sentinel are words of thirty-two bytes; account addresses are words of twenty. Numbers become
words by their big-endian bytes.
-/
namespace SealedChain

abbrev Bytes := List UInt8

/-- The last `width` bytes of the big-endian notation of `n`. -/
def Bytes.bigEndian : (width n : Nat) → Bytes
  | 0, _ => []
  | width + 1, n => bigEndian width (n / 256) ++ [UInt8.ofNat (n % 256)]

def Bytes.toNat (bs : Bytes) : Nat := bs.foldl (fun acc b => acc * 256 + b.toNat) 0

/-- How many numbers so many bytes denote. -/
def Bytes.range : (width : Nat) → Nat
  | 0 => 1
  | width + 1 => 256 * range width

structure Word (n : Nat) where
  toBytes : Bytes
  length_toBytes : toBytes.length = n
  deriving DecidableEq

abbrev Hash := Word 32

abbrev Address := Word 20

namespace Bytes

@[simp] theorem length_bigEndian (width n : Nat) : (bigEndian width n).length = width := by
  induction width generalizing n with
  | zero => rfl
  | succ width ih => simp [bigEndian, ih]

theorem toNat_append_singleton (bs : Bytes) (b : UInt8) :
    toNat (bs ++ [b]) = toNat bs * 256 + b.toNat := by
  simp [toNat, List.foldl_append]

theorem toNat_bigEndian (width n : Nat) : toNat (bigEndian width n) = n % range width := by
  induction width generalizing n with
  | zero => simp [bigEndian, toNat, range, Nat.mod_one]
  | succ width ih =>
    rw [bigEndian, toNat_append_singleton, ih]
    have hb : (UInt8.ofNat (n % 256)).toNat = n % 256 := by
      simp
    rw [hb, range, Nat.mod_mul]
    omega

end Bytes

namespace Word

variable {n : Nat}

/-- The word that holds exactly these bytes. -/
def ofBytes? (n : Nat) (bs : Bytes) : Option (Word n) :=
  if h : bs.length = n then some ⟨bs, h⟩ else none

def zero (n : Nat) : Word n := ⟨List.replicate n 0, by simp⟩

/-- The low `n` bytes of a number, most significant first. -/
def ofNat (n value : Nat) : Word n := ⟨Bytes.bigEndian n value, by simp⟩

def toNat (w : Word n) : Nat := w.toBytes.toNat

instance : Inhabited (Word n) := ⟨zero n⟩

@[ext] theorem ext {v w : Word n} (h : v.toBytes = w.toBytes) : v = w := by
  cases v
  cases w
  cases h
  rfl

@[simp] theorem ofBytes?_toBytes (w : Word n) : ofBytes? n w.toBytes = some w := by
  simp [ofBytes?, w.length_toBytes]

theorem toNat_ofNat (n value : Nat) : (ofNat n value).toNat = value % Bytes.range n :=
  Bytes.toNat_bigEndian n value

end Word

end SealedChain
