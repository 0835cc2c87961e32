/-!
# Finite double-precision numbers

A finite double is a sign and the code of its magnitude: the biased exponent above the fifty-two
bits of the fraction, so that codes are ordered as magnitudes are. The code of a positive rational
is that of the nearest double, a tie going to the even code; products and quotients are rounded
once, from their exact value.
-/
namespace SealedChain

namespace Binary64

/-- The first code that stands for no finite magnitude. -/
def infinity : Nat := 0x7ff0000000000000

def leadingBit : Nat := 0x10000000000000

end Binary64

structure Binary64 where
  negative : Bool
  code : Nat
  finite : code < Binary64.infinity
  deriving DecidableEq

namespace Binary64

/-- The coefficient of a magnitude: it is `coefficient code * 2 ^ exponent code`. -/
def coefficient (code : Nat) : Nat :=
  if code < leadingBit then code else code % leadingBit + leadingBit

def exponent (code : Nat) : Int :=
  if code < leadingBit then -1074 else (code / leadingBit : Nat) - 1075

/-- The code of `m * 2 ^ q`, for `m` of at most fifty-three bits that has all of them unless `q`
is the least exponent. A carry out of `m` moves into the exponent by itself. -/
def encode (m : Nat) (q : Int) : Nat := (q + 1074).toNat * leadingBit + m

/-- A quotient rounded to the nearest number, a tie going to the even one. -/
def nearest (num den : Nat) : Nat :=
  let k := num / den
  let r := num % den
  if den < 2 * r ∨ (2 * r = den ∧ k % 2 = 1) then k + 1 else k

/-- Numerator and denominator of `num / den * 2 ^ shift`. -/
def shifted (num den : Nat) (shift : Int) : Nat × Nat :=
  if 0 ≤ shift then (num <<< shift.toNat, den) else (num, den <<< (-shift).toNat)

/-- The exponent at which a positive quotient has fifty-three bits, or the least exponent. -/
def exponentOf (num den : Nat) : Int :=
  let guess : Int := max ((Nat.log2 num : Int) - Nat.log2 den - 53) (-1074)
  let s := shifted num den (-guess)
  if s.1 / s.2 < 2 * leadingBit then guess else guess + 1

def codeOf (num den : Nat) : Nat :=
  if num = 0 then 0
  else
    let q := exponentOf num den
    let s := shifted num den (-q)
    encode (nearest s.1 s.2) q

def product (a b : Nat) : Nat :=
  let s := shifted (coefficient a * coefficient b) 1 (exponent a + exponent b)
  codeOf s.1 s.2

def quotient (a b : Nat) : Nat :=
  let s := shifted (coefficient a) (coefficient b) (exponent a - exponent b)
  codeOf s.1 s.2

def ofCode? (negative : Bool) (code : Nat) : Option Binary64 :=
  if h : code < infinity then some ⟨negative, code, h⟩ else none

def zero (negative : Bool) : Binary64 := ⟨negative, 0, by decide⟩

def isZero (x : Binary64) : Bool := x.code == 0

end Binary64

end SealedChain
