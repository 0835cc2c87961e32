import SealedChain.Binary64.Shortest
import Mathlib.Algebra.Order.Field.Power
import Mathlib.Algebra.Order.Field.Rat
import Mathlib.Order.Monotone.Basic
import Mathlib.Tactic.Linarith
import Mathlib.Tactic.LinearCombination
import Mathlib.Tactic.Ring

/-!
# Rounding to the nearest magnitude

Successive codes stand for magnitudes that differ by the unit of the lower one, also where the
exponent changes. The interval that a decimal is compared with therefore ends halfway to the
neighbours of the magnitude, and what lies in it is nearer to the magnitude than to any other, but
for a tie at an end, which belongs to the even code.
-/
namespace SealedChain.Binary64

def value (code : Nat) : ℚ := coefficient code * 2 ^ exponent code

def Decimal.value (d : Decimal) : ℚ := d.digits * 10 ^ d.exponent

def midpoint (code : Nat) : ℚ := (value code + value (code + 1)) / 2

/-- A number rounds to the nearest magnitude, and to the one with the even code at a tie. Codes that
are not finite count as the magnitudes that would follow. -/
def Rounds (x : ℚ) (code : Nat) : Prop :=
  ∀ other, other ≠ code → |x - value code| < |x - value other| ∨
    |x - value code| = |x - value other| ∧ code % 2 = 0

theorem coefficient_parity (code : Nat) : coefficient code % 2 = code % 2 := by
  unfold coefficient leadingBit
  split <;> omega

/-- The coefficient grows by one, or the largest one starts again under the next exponent. -/
theorem succ_cases (code : Nat) :
    (coefficient (code + 1) = coefficient code + 1 ∧ exponent (code + 1) = exponent code ∧
      ¬ (coefficient (code + 1) = leadingBit ∧ 2 * leadingBit ≤ code + 1)) ∨
    (coefficient (code + 1) = leadingBit ∧ exponent (code + 1) = exponent code + 1 ∧
      coefficient code + 1 = 2 * leadingBit ∧ 2 * leadingBit ≤ code + 1) := by
  unfold coefficient exponent leadingBit
  split <;> split <;> omega

theorem value_quarters (code : Nat) :
    value code = 4 * coefficient code * 2 ^ (exponent code - 2) := by
  unfold value
  rw [← sub_add_cancel (exponent code) 2, zpow_add₀ two_ne_zero, sub_add_cancel]
  norm_num
  ring

theorem value_succ (code : Nat) :
    value (code + 1) = value code + 4 * 2 ^ (exponent code - 2) := by
  rw [value_quarters, value_quarters]
  obtain ⟨hm, he, -⟩ | ⟨hm, he, hlast, -⟩ := succ_cases code
  · rw [hm, he]
    push_cast
    ring
  · have hlast' : (coefficient code : ℚ) + 1 = 2 * leadingBit := by exact_mod_cast hlast
    rw [hm, he, add_sub_right_comm, zpow_add_one₀ two_ne_zero]
    linear_combination -4 * (2 : ℚ) ^ (exponent code - 2) * hlast'

theorem value_strictMono : StrictMono value :=
  strictMono_nat_of_lt_succ fun code => by
    have hunit : (0 : ℚ) < 2 ^ (exponent code - 2) := zpow_pos two_pos _
    rw [value_succ]
    linarith

theorem value_zero : value 0 = 0 := by simp [value, coefficient, leadingBit]

theorem midpoint_between (code : Nat) :
    value code < midpoint code ∧ midpoint code < value (code + 1) := by
  have hlt := value_strictMono (Nat.lt_add_one code)
  unfold midpoint
  constructor <;> linarith

theorem midpoint_pos (code : Nat) : 0 < midpoint code := by
  refine lt_of_le_of_lt ?_ (midpoint_between code).1
  rw [← value_zero]
  exact value_strictMono.monotone (Nat.zero_le code)

/-! ### The interval of a magnitude -/

theorem ends_high (code : Nat) :
    ((ends code).2 : ℚ) * 2 ^ (exponent code - 2) = midpoint code := by
  simp only [midpoint, value_succ, value_quarters, ends]
  push_cast
  ring

/-- The lower end, a quarter of the unit nearer where that unit is new. -/
theorem ends_low (code : Nat) :
    ((ends (code + 1)).1 : ℚ) * 2 ^ (exponent (code + 1) - 2) = midpoint code := by
  rw [← ends_high]
  simp only [ends]
  obtain ⟨hm, he, hinside⟩ | ⟨hm, he, hlast, hlarge⟩ := succ_cases code
  · have hhigh : 4 * (coefficient code + 1) - 2 = 4 * coefficient code + 2 := by omega
    rw [if_neg hinside, hm, he, hhigh]
  · have hhigh : 4 * coefficient code + 2 = (4 * leadingBit - 1) * 2 := by
      unfold leadingBit at *
      omega
    rw [if_pos ⟨hm, hlarge⟩, hm, he, hhigh, add_sub_right_comm, zpow_add_one₀ two_ne_zero]
    push_cast
    ring

theorem cast_power (n : Nat) {base : Nat} (hb : 0 < base) (e : Int) :
    0 < (power n base e).2 ∧ ((power n base e).1 : ℚ) = n * base ^ e * (power n base e).2 := by
  have hne : (base : ℚ) ≠ 0 := by exact_mod_cast hb.ne'
  have hcast : ∀ i : Int, 0 ≤ i → ((base.pow i.toNat : Nat) : ℚ) = base ^ i := by
    intro i hi
    rw [Nat.pow_eq, Nat.cast_pow, ← zpow_natCast, Int.toNat_of_nonneg hi]
  unfold power
  split
  · rename_i he
    refine ⟨Nat.one_pos, ?_⟩
    rw [Nat.cast_mul, hcast e he, Nat.cast_one, mul_one]
  · rename_i he
    refine ⟨Nat.pow_pos hb, ?_⟩
    rw [hcast (-e) (by omega), mul_assoc, ← zpow_add₀ hne, add_neg_cancel, zpow_zero, mul_one]

/-- A decimal reads back between the midpoints on the two sides, at an end only if the code is
even. -/
theorem readsBack_iff (code : Nat) (d : Decimal) :
    readsBack (code + 1) d = true ↔
      if (code + 1) % 2 = 0 then midpoint code ≤ d.value ∧ d.value ≤ midpoint (code + 1)
      else midpoint code < d.value ∧ d.value < midpoint (code + 1) := by
  obtain ⟨hunit, hunitValue⟩ := cast_power 1 (by decide : 0 < 2) (exponent (code + 1) - 2)
  obtain ⟨hpoint, hpointValue⟩ := cast_power d.digits (by decide : 0 < 10) d.exponent
  rw [← ends_low, ← ends_high]
  simp only [readsBack, coefficient_parity]
  generalize power 1 2 (exponent (code + 1) - 2) = unit at *
  generalize power d.digits 10 d.exponent = point at *
  -- both sides of a comparison are scaled by the two denominators
  have hscale : (0 : ℚ) < unit.2 * point.2 := by exact_mod_cast Nat.mul_pos hunit hpoint
  have hx : ((point.1 * unit.2 : Nat) : ℚ) = d.value * (unit.2 * point.2) := by
    push_cast
    rw [hpointValue, Decimal.value]
    push_cast
    ring
  have hend : ∀ n : Nat, ((n * unit.1 * point.2 : Nat) : ℚ) =
      n * 2 ^ (exponent (code + 1) - 2) * (unit.2 * point.2) := by
    intro n
    push_cast
    rw [hunitValue]
    push_cast
    ring
  have hle : ∀ m n : Nat, m ≤ n ↔ (m : ℚ) ≤ n := fun m n => Nat.cast_le.symm
  have hlt : ∀ m n : Nat, m < n ↔ (m : ℚ) < n := fun m n => Nat.cast_lt.symm
  split <;> simp only [decide_eq_true_eq, hle, hlt, hx, hend, mul_le_mul_iff_left₀ hscale,
    mul_lt_mul_iff_left₀ hscale]

theorem readsBack_of_between {code : Nat} {d : Decimal} (hlow : midpoint code < d.value)
    (hhigh : d.value < midpoint (code + 1)) : readsBack (code + 1) d = true := by
  rw [readsBack_iff]
  split
  · exact ⟨hlow.le, hhigh.le⟩
  · exact ⟨hlow, hhigh⟩

/-! ### Nearest magnitudes -/

theorem nearer_right {x a b : ℚ} (hab : a < b) (h : (a + b) / 2 < x) : |x - b| < |x - a| := by
  rw [abs_of_pos (by linarith : 0 < x - a), abs_lt]
  constructor <;> linarith

theorem nearer_left {x a b : ℚ} (hab : a < b) (h : x < (a + b) / 2) : |x - a| < |x - b| := by
  rw [abs_of_neg (by linarith : x - b < 0), abs_lt]
  constructor <;> linarith

theorem halfway {x a b : ℚ} (h : (a + b) / 2 = x) : |x - a| = |x - b| := by
  rw [← h, ← abs_neg]
  congr 1
  ring

theorem rounds_of_readsBack {code : Nat} {d : Decimal} (h : readsBack (code + 1) d = true) :
    Rounds d.value (code + 1) := by
  have hlow : midpoint code < d.value ∨ midpoint code = d.value ∧ (code + 1) % 2 = 0 := by
    rw [readsBack_iff] at h
    split at h
    · exact h.1.lt_or_eq.imp_right (⟨·, ‹_›⟩)
    · exact .inl h.1
  have hhigh : d.value < midpoint (code + 1) ∨
      midpoint (code + 1) = d.value ∧ (code + 1) % 2 = 0 := by
    rw [readsBack_iff] at h
    split at h
    · exact h.2.lt_or_eq.imp_right (⟨·.symm, ‹_›⟩)
    · exact .inl h.2
  intro other hother
  -- another magnitude is at least as far off as the neighbour on its side
  obtain hbelow | habove := Nat.lt_or_gt_of_ne hother
  · have hle : value other ≤ value code := value_strictMono.monotone (Nat.le_of_lt_succ hbelow)
    have hlt := value_strictMono hbelow
    have hmid : (value other + value (code + 1)) / 2 ≤ midpoint code := by
      unfold midpoint
      linarith
    obtain hlow | ⟨hlow, heven⟩ := hlow
    · exact .inl (nearer_right hlt (hmid.trans_lt hlow))
    · exact (hmid.trans_eq hlow).lt_or_eq.imp (nearer_right hlt)
        fun heq => ⟨(halfway heq).symm, heven⟩
  · have hle : value (code + 1 + 1) ≤ value other := value_strictMono.monotone habove
    have hlt := value_strictMono habove
    have hmid : midpoint (code + 1) ≤ (value (code + 1) + value other) / 2 := by
      unfold midpoint
      linarith
    obtain hhigh | ⟨hhigh, heven⟩ := hhigh
    · exact .inl (nearer_left hlt (hhigh.trans_le hmid))
    · exact (hhigh.symm.trans_le hmid).lt_or_eq.imp (nearer_left hlt)
        fun heq => ⟨halfway heq.symm, heven⟩

/-- Codes on the two sides of a tie are even, so one lies between them, and it is nearer. -/
theorem Rounds.not_lt {x : ℚ} {a b : Nat} (ha : Rounds x a) (hb : Rounds x b) : ¬ a < b := by
  intro hab
  obtain hlt | ⟨htie, heven⟩ := ha b hab.ne'
  · obtain hgt | ⟨heq, -⟩ := hb a hab.ne
    · exact lt_asymm hlt hgt
    · exact hlt.ne heq.symm
  · obtain hgt | ⟨-, heven'⟩ := hb a hab.ne
    · exact hgt.ne htie.symm
    · have hlow := value_strictMono (Nat.lt_add_one a)
      have hhigh := value_strictMono (by omega : a + 1 < b)
      have hmid : x = (value a + value b) / 2 := by
        obtain heq | heq := abs_eq_abs.mp htie <;> linarith
      have hle : |x - value a| ≤ |x - value (a + 1)| :=
        (ha (a + 1) (by omega)).elim le_of_lt fun h => h.1.le
      refine hle.not_gt ?_
      rw [abs_of_pos (by linarith : 0 < x - value a), abs_lt]
      constructor <;> linarith

theorem Rounds.unique {x : ℚ} {a b : Nat} (ha : Rounds x a) (hb : Rounds x b) : a = b :=
  Nat.le_antisymm (Nat.le_of_not_lt (hb.not_lt ha)) (Nat.le_of_not_lt (ha.not_lt hb))

end SealedChain.Binary64
