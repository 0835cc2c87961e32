import SealedChain.Binary64.Basic

/-!
# A number times a power of ten

The double read from a significand and a decimal exponent. The significand is rounded first and
then multiplied or divided by the rounded power of ten, so the result can miss the nearest double
by a rounding. Exponents below the table of powers are worked off in steps of the largest power.
-/
namespace SealedChain.Binary64

def largestPower : Nat := 308

def powerOfTen (k : Nat) : Nat := codeOf (Nat.pow 10 k) 1

def timesPower (code : Nat) (e : Int) : Option Nat :=
  if 0 ≤ e then
    let scaled := product code (powerOfTen e.toNat)
    if scaled < infinity then some scaled else none
  else some (quotient code (powerOfTen (-e).toNat))

/-- The magnitude times any power of ten; none if that is too large. The first argument bounds the
number of steps of the largest power. -/
def timesAnyPower : Nat → Nat → Int → Option Nat
  | 0, code, e => timesPower code e
  | steps + 1, code, e =>
    if e.natAbs ≤ largestPower then timesPower code e
    else if code = 0 then some 0
    else if 0 ≤ e then none
    else timesAnyPower steps (quotient code (powerOfTen largestPower)) (e + largestPower)

/-- The double that `significand * 10 ^ e` is read as; none if that is too large. -/
def ofScaled? (negative : Bool) (significand : Nat) (e : Int) : Option Binary64 :=
  (timesAnyPower (e.natAbs / largestPower + 1) (codeOf significand 1) e).bind (ofCode? negative)

end SealedChain.Binary64
