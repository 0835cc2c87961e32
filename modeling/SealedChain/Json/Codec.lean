import SealedChain.Bytes.Hex
import SealedChain.Json.Printer

/-!
# Byte strings, words and quantities as values

Byte strings and words are written as hexadecimal strings and read from such strings or from arrays
of bytes. Quantities are written in hexadecimal without leading zeros and read from integers or
from strings in one of four bases. A record is read by its members, or by position from an array.
Byte strings, words and quantities read back as what was written.
-/
namespace SealedChain

def Bytes.hex (bs : Bytes) : String := String.ofList (Hex.encode bs)

def Word.hex {n : Nat} (w : Word n) : String := Bytes.hex w.toBytes

namespace Json

def ofBytes (bs : Bytes) : Json := .string bs.hex

def ofWord {n : Nat} (w : Word n) : Json := .string w.hex

def quantityText (n : Nat) : String := String.ofList (Digits.hexadecimal n)

def ofQuantity (n : Nat) : Json := .string (quantityText n)

def byte? (v : Json) : Option UInt8 :=
  match v with
  | .integer i => if 0 ≤ i ∧ i < 256 then some (UInt8.ofNat i.toNat) else none
  | _ => none

def bytes? : Json → Option Bytes
  | .string s => Hex.decode? s.toList
  | .array items => items.mapM byte?
  | _ => none

/-- The word that an array stands for: its bytes, with at most one more item, which is no byte. -/
def wordOfItems? (n : Nat) (items : List Json) : Option (Word n) :=
  match items.drop n with
  | [] => ((items.take n).mapM byte?).bind (Word.ofBytes? n)
  | [extra] =>
    if (byte? extra).isSome then none
    else ((items.take n).mapM byte?).bind (Word.ofBytes? n)
  | _ => none

def word? (n : Nat) : Json → Option (Word n)
  | .string s => Hex.decodeWord? n s.toList
  | .array items => wordOfItems? n items
  | _ => none

/-- The base that a quantity's marker names, and the digits after it. -/
def quantityBase : List Char → Nat × List Char
  | '0' :: 'x' :: rest | '0' :: 'X' :: rest => (16, rest)
  | '0' :: 'o' :: rest | '0' :: 'O' :: rest => (8, rest)
  | '0' :: 'b' :: rest | '0' :: 'B' :: rest => (2, rest)
  | text => (10, text)

/-- The quantity that a value stands for. Underscores between digits do not count. -/
def quantity? : Json → Option Nat
  | .string s =>
    let (base, digits) := quantityBase s.toList
    match Digits.value? base (digits.filter (· != '_')) with
    | some v => if v < limit64 then some v else none
    | none => none
  | v => v.unsigned?

/-- The values of every item of an array. -/
def list? {α : Type} (item? : Json → Option α) : Json → Option (List α)
  | .array items => items.mapM item?
  | _ => none

def optional? {α : Type} (read? : Json → Option α) : Json → Option (Option α)
  | .null => some none
  | v => (read? v).map some

/-- The members of a record: those of an object, or the items of an array by position. -/
def fields? (names : List String) : Json → Option (List (String × Json))
  | .object members => some members
  | .array items => if items.length ≤ names.length then some (names.zip items) else none
  | _ => none

def required? {α : Type} (key : String) (read? : Json → Option α)
    (members : List (String × Json)) : Option α :=
  (lookup key members).bind read?

def optionalField? {α : Type} (key : String) (read? : Json → Option α)
    (members : List (String × Json)) : Option (Option α) :=
  match lookup key members with
  | none => some none
  | some v => optional? read? v

mutual

/-- The value with the members of every object in the order of their keys. -/
def sorted : Json → Json
  | .array items => .array (sortedItems items)
  | .object members => ofMembers (sortedMembers members)
  | v => v

def sortedItems : List Json → List Json
  | [] => []
  | v :: rest => v.sorted :: sortedItems rest

def sortedMembers : List (String × Json) → List (String × Json)
  | [] => []
  | (k, v) :: rest => (k, v.sorted) :: sortedMembers rest

end

@[simp] theorem bytes?_ofBytes (bs : Bytes) : (ofBytes bs).bytes? = some bs := by
  simp [bytes?, ofBytes, Bytes.hex]

@[simp] theorem word?_ofWord {n : Nat} (w : Word n) : (ofWord w).word? n = some w := by
  simp [word?, ofWord, Word.hex, Bytes.hex]

theorem filter_underscore_toDigits (n : Nat) :
    (Nat.toDigits 16 n).filter (· != '_') = Nat.toDigits 16 n := by
  rw [List.filter_eq_self]
  intro c hc
  have h := Digits.isSome_digit?_of_valueFrom?
    (Digits.value?_toDigits (by decide) (by decide) n) c hc
  rw [bne_iff_ne]
  intro he
  subst he
  exact absurd h (by decide)

theorem quantity?_ofQuantity {n : Nat} (h : n < limit64) : (ofQuantity n).quantity? = some n := by
  simp [ofQuantity, quantity?, quantityText, Digits.hexadecimal, quantityBase,
    filter_underscore_toDigits, Digits.value?_toDigits, h]

end Json

end SealedChain
