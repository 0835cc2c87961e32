import SealedChain.Binary64.Basic

/-!
# The fewest digits that read back

Every double is the nearest double to an interval of reals around it, ends included when its
coefficient is even. Among the decimals with the fewest digits inside that interval, the shortest
notation is the one nearest to the double.
-/
namespace SealedChain.Binary64

structure Decimal where
  digits : Nat
  exponent : Int
  deriving DecidableEq, Repr

/-- Numerator and denominator of `n * base ^ e`. -/
def power (n base : Nat) (e : Int) : Nat × Nat :=
  if 0 ≤ e then (n * base.pow e.toNat, 1) else (n, base.pow (-e).toNat)

def digitCount (n : Nat) : Nat := (Nat.toDigits 10 n).length

/-- The least `p` such that a positive quotient is below `10 ^ p`. -/
def magnitude (num den : Nat) : Int :=
  if den ≤ num then digitCount (num / den) else 1 - (digitCount ((den - 1) / num) : Int)

/-- The ends of the interval of reals nearest to the magnitude, in quarters of its unit. -/
def ends (code : Nat) : Nat × Nat :=
  let m := coefficient code
  let below := if m = leadingBit ∧ 2 * leadingBit ≤ code then 1 else 2
  (4 * m - below, 4 * m + 2)

/-- Whether a decimal lies in the interval of reals nearest to the magnitude. -/
def readsBack (code : Nat) (d : Decimal) : Bool :=
  let (low, high) := ends code
  let unit := power 1 2 (exponent code - 2)
  let point := power d.digits 10 d.exponent
  let x := point.1 * unit.2
  let a := low * unit.1 * point.2
  let b := high * unit.1 * point.2
  if coefficient code % 2 = 0 then a ≤ x ∧ x ≤ b else a < x ∧ x < b

def Decimal.trim : Nat → Decimal → Decimal
  | 0, d => d
  | fuel + 1, d =>
    if d.digits % 10 = 0 then trim fuel ⟨d.digits / 10, d.exponent + 1⟩ else d

/-- The decimal with this exponent nearest to the magnitude, among its two neighbours there that
read back. -/
def onGrid (code : Nat) (k : Int) : Option Decimal :=
  let value := power (coefficient code) 2 (exponent code)
  let grid := power 1 10 k
  let num := value.1 * grid.2
  let den := value.2 * grid.1
  let below : Decimal := ⟨num / den, k⟩
  let above : Decimal := ⟨num / den + 1, k⟩
  match readsBack code below, readsBack code above with
  | true, true => some ⟨nearest num den, k⟩
  | true, false => some below
  | false, true => some above
  | false, false => none

def firstGrid (code : Nat) (p : Int) : (tries count : Nat) → Decimal
  | 0, count => (onGrid code (p - count)).getD ⟨0, 0⟩
  | tries + 1, count =>
    match onGrid code (p - count) with
    | some d => d
    | none => firstGrid code p tries (count + 1)

/-- The shortest decimal that reads back as the magnitude. Seventeen digits always suffice. -/
def shortest (code : Nat) : Decimal :=
  if code = 0 then ⟨0, 0⟩
  else
    let value := power (coefficient code) 2 (exponent code)
    (firstGrid code (magnitude value.1 value.2) 17 1).trim 20

end SealedChain.Binary64
