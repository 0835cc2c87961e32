import SealedChain.Bytes.Word
import SealedChain.Text.Digits

/-!
# Byte strings as hexadecimal text

Two digits a byte, high digit first, after `0x`. Writing uses lower case; reading takes either
case and either spelling of the marker, which may also be missing. Reading back what was written
returns the bytes.
-/
namespace SealedChain.Hex

def encodeByte (b : UInt8) : List Char :=
  [Nat.digitChar (b.toNat / 16), Nat.digitChar (b.toNat % 16)]

def digits (bs : Bytes) : List Char := bs.flatMap encodeByte

def encode (bs : Bytes) : List Char := '0' :: 'x' :: digits bs

/-- The text after `0x` or `0X`, or all of it if it has neither. -/
def dropMarker : List Char → List Char
  | '0' :: 'x' :: rest => rest
  | '0' :: 'X' :: rest => rest
  | text => text

def ofDigits? : List Char → Option Bytes
  | [] => some []
  | [_] => none
  | high :: low :: rest =>
    match Digits.digit? 16 high, Digits.digit? 16 low with
    | some h, some l => (ofDigits? rest).map (UInt8.ofNat (16 * h + l) :: ·)
    | _, _ => none

/-- The bytes that a text stands for, with or without its marker. -/
def decode? (text : List Char) : Option Bytes := ofDigits? (dropMarker text)

def decodeWord? (n : Nat) (text : List Char) : Option (Word n) :=
  (decode? text).bind (Word.ofBytes? n)

theorem ofDigits?_encodeByte (b : UInt8) (rest : List Char) :
    ofDigits? (encodeByte b ++ rest) = (ofDigits? rest).map (b :: ·) := by
  have key : ∀ v : Fin 256, ofDigits? (encodeByte (UInt8.ofNat v.val)) = some [UInt8.ofNat v.val] ∧
      Digits.digit? 16 (Nat.digitChar (v.val / 16)) = some (v.val / 16) ∧
      Digits.digit? 16 (Nat.digitChar (v.val % 16)) = some (v.val % 16) := by decide +kernel
  obtain ⟨-, hh, hl⟩ := key ⟨b.toNat, b.toNat_lt⟩
  have hb : UInt8.ofNat (16 * (b.toNat / 16) + b.toNat % 16) = b := by
    rw [Nat.div_add_mod]
    exact UInt8.ofNat_toNat
  simp only [encodeByte, List.cons_append, List.nil_append, ofDigits?, hh, hl, hb]

@[simp] theorem ofDigits?_digits (bs : Bytes) : ofDigits? (digits bs) = some bs := by
  induction bs with
  | nil => rfl
  | cons b bs ih =>
    simp only [digits, List.flatMap_cons] at ih ⊢
    rw [ofDigits?_encodeByte, ih]
    rfl

@[simp] theorem decode?_encode (bs : Bytes) : decode? (encode bs) = some bs := by
  simp [decode?, encode, dropMarker]

@[simp] theorem decodeWord?_encode {n : Nat} (w : Word n) :
    decodeWord? n (encode w.toBytes) = some w := by
  simp [decodeWord?]

end SealedChain.Hex
