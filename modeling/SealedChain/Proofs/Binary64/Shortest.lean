import SealedChain.Proofs.Binary64.Rounding

/-!
# The shortest digits read back

A grid finer than the interval of a magnitude has a point in it, one of the two neighbours of the
magnitude. With seventeen digits the grid is that fine whatever the magnitude, so the search for a
decimal that reads back ends with one.
-/
namespace SealedChain.Binary64

theorem coefficient_pos {code : Nat} (h : code ≠ 0) : 0 < coefficient code := by
  unfold coefficient leadingBit
  split <;> omega

theorem power_pos {n base : Nat} (hn : 0 < n) (hb : 0 < base) (e : Int) :
    0 < (power n base e).1 := by
  unfold power
  split
  · exact Nat.mul_pos hn (Nat.pow_pos hb)
  · exact hn

theorem lt_pow_digitCount (n : Nat) : n < 10 ^ digitCount n :=
  (Nat.length_toDigits_le_iff (by decide) Nat.length_toDigits_pos).mp (Nat.le_refl _)

theorem pow_digitCount_le {n : Nat} (hn : n ≠ 0) : 10 ^ (digitCount n - 1) ≤ n := by
  by_contra hlt
  obtain hone | hmany : digitCount n ≤ 1 ∨ 0 < digitCount n - 1 := by omega
  · have : digitCount n - 1 = 0 := by omega
    rw [this] at hlt
    omega
  · have hle := (Nat.length_toDigits_le_iff (by decide) hmany).mpr (Nat.lt_of_not_le hlt)
    unfold digitCount at *
    omega

theorem pow_magnitude_le {num den : Nat} (hnum : 0 < num) (hden : 0 < den) :
    (10 : ℚ) ^ (magnitude num den - 1) ≤ num / den := by
  have hden' : (0 : ℚ) < den := by exact_mod_cast hden
  rw [le_div_iff₀ hden']
  unfold magnitude
  split
  · rename_i hle
    have hq : num / den ≠ 0 := (Nat.div_pos hle hden).ne'
    have hcount : 0 < digitCount (num / den) := Nat.length_toDigits_pos
    have hpow := Nat.mul_le_of_le_div den _ _ (pow_digitCount_le hq)
    have hexponent : ((digitCount (num / den) : Int) - 1) = (digitCount (num / den) - 1 : Nat) := by
      omega
    rw [hexponent, zpow_natCast]
    exact_mod_cast hpow
  · have hlt := (Nat.div_lt_iff_lt_mul hnum).mp (lt_pow_digitCount ((den - 1) / num))
    have hpow : den ≤ 10 ^ digitCount ((den - 1) / num) * num := by omega
    rw [show (1 - (digitCount ((den - 1) / num) : Int) - 1) = -(digitCount ((den - 1) / num) : Int)
      by omega, zpow_neg, zpow_natCast, inv_mul_le_iff₀ (by positivity)]
    exact_mod_cast hpow

/-! ### The neighbours on a grid -/

theorem nearest_cases (num den : Nat) :
    nearest num den = num / den ∨ nearest num den = num / den + 1 := by
  simp only [nearest]
  split <;> simp

theorem readsBack_onGrid {code : Nat} {k : Int} {d : Decimal} (h : onGrid code k = some d) :
    readsBack code d = true := by
  simp only [onGrid] at h
  split at h
  · rename_i hbelow habove
    obtain rfl := Option.some.inj h
    obtain hn | hn := nearest_cases ((power (coefficient code) 2 (exponent code)).1 *
      (power 1 10 k).2) ((power (coefficient code) 2 (exponent code)).2 * (power 1 10 k).1)
    · rw [hn]
      exact hbelow
    · rw [hn]
      exact habove
  · rename_i hbelow _
    obtain rfl := Option.some.inj h
    exact hbelow
  · rename_i habove
    obtain rfl := Option.some.inj h
    exact habove
  · cases h

/-- A magnitude lies between its neighbours on a grid. -/
theorem grid_neighbours (code : Nat) (k : Int) :
    let num := (power (coefficient code) 2 (exponent code)).1 * (power 1 10 k).2
    let den := (power (coefficient code) 2 (exponent code)).2 * (power 1 10 k).1
    ((num / den : Nat) : ℚ) * 10 ^ k ≤ value code ∧
      value code < ((num / den + 1 : Nat) : ℚ) * 10 ^ k := by
  intro num den
  obtain ⟨s, hs, hnum, hden⟩ : ∃ s : ℚ, 0 < s ∧ num = value code * s ∧ den = 10 ^ k * s := by
    obtain ⟨hvalue, hvalueCast⟩ :=
      cast_power (coefficient code) (by decide : 0 < 2) (exponent code)
    obtain ⟨hgrid, hgridCast⟩ := cast_power 1 (by decide : 0 < 10) k
    refine ⟨(power (coefficient code) 2 (exponent code)).2 * (power 1 10 k).2,
      by exact_mod_cast Nat.mul_pos hvalue hgrid, ?_, ?_⟩
    · simp only [num, Nat.cast_mul, hvalueCast, value, Nat.cast_ofNat]
      ring
    · simp only [den, Nat.cast_mul, hgridCast, Nat.cast_one, Nat.cast_ofNat]
      ring
  have hpos : 0 < den := by
    have : (0 : ℚ) < den := by
      rw [hden]
      exact mul_pos (zpow_pos (by norm_num) k) hs
    exact_mod_cast this
  have hle : ((num / den : Nat) : ℚ) * den ≤ num := by exact_mod_cast Nat.div_mul_le_self num den
  have hlt : (num : ℚ) < (num / den + 1 : Nat) * den := by
    exact_mod_cast Nat.lt_mul_of_div_lt (Nat.lt_add_one _) hpos
  rw [hnum, hden, ← mul_assoc] at hle hlt
  exact ⟨le_of_mul_le_mul_right hle hs, lt_of_mul_lt_mul_right hlt hs.le⟩

/-- A grid finer than the interval has a decimal that reads back. -/
theorem isSome_onGrid {code : Nat} {k : Int}
    (hfine : (10 : ℚ) ^ k < midpoint (code + 1) - midpoint code) :
    (onGrid (code + 1) k).isSome = true := by
  obtain ⟨hbelow, habove⟩ := grid_neighbours (code + 1) k
  have hlow := (midpoint_between code).2
  have hhigh := (midpoint_between (code + 1)).1
  simp only [onGrid]
  generalize (power (coefficient (code + 1)) 2 (exponent (code + 1))).1 * (power 1 10 k).2 /
    ((power (coefficient (code + 1)) 2 (exponent (code + 1))).2 * (power 1 10 k).1) = q at *
  have hone : readsBack (code + 1) ⟨q, k⟩ = true ∨ readsBack (code + 1) ⟨q + 1, k⟩ = true := by
    have hstep : ((q + 1 : Nat) : ℚ) * 10 ^ k = q * 10 ^ k + 10 ^ k := by
      push_cast
      ring
    obtain hin | hout := lt_or_ge (midpoint code) ((⟨q, k⟩ : Decimal).value)
    · exact .inl (readsBack_of_between hin (hbelow.trans_lt hhigh))
    · refine .inr (readsBack_of_between (hlow.trans habove) ?_)
      unfold Decimal.value at *
      linarith
  obtain h | h := hone
  · rw [h]
    cases readsBack (code + 1) ⟨q + 1, k⟩ <;> rfl
  · rw [h]
    cases readsBack (code + 1) ⟨q, k⟩ <;> rfl

/-- The interval is wider than a seventeenth digit of the magnitude. -/
theorem seventeen_digits (code : Nat) :
    value (code + 1) < 10 ^ 16 * (midpoint (code + 1) - midpoint code) := by
  have hunit : (0 : ℚ) < 2 ^ (exponent (code + 1) - 2) := zpow_pos two_pos _
  have hwide : 4 * coefficient (code + 1) + 10 ^ 16 * (ends (code + 1)).1 <
      10 ^ 16 * (ends (code + 1)).2 := by
    have hm := coefficient_pos (Nat.succ_ne_zero code)
    have hbound : coefficient (code + 1) < 2 * leadingBit := by
      unfold coefficient leadingBit
      split <;> omega
    unfold leadingBit at hbound
    simp only [ends]
    split
    · rename_i hstart
      have := hstart.1
      unfold leadingBit at this
      omega
    · omega
  have hwide' : (4 : ℚ) * coefficient (code + 1) + 10 ^ 16 * (ends (code + 1)).1 <
      10 ^ 16 * (ends (code + 1)).2 := by exact_mod_cast hwide
  rw [value_quarters, ← ends_high, ← ends_low]
  calc 4 * (coefficient (code + 1) : ℚ) * 2 ^ (exponent (code + 1) - 2)
      < (10 ^ 16 * (ends (code + 1)).2 - 10 ^ 16 * (ends (code + 1)).1) *
          2 ^ (exponent (code + 1) - 2) := mul_lt_mul_of_pos_right (by linarith) hunit
    _ = _ := by ring

/-! ### The search -/

theorem readsBack_firstGrid {code : Nat} {p : Int} {tries count n : Nat} (hle : count ≤ n)
    (htries : n ≤ count + tries) (hn : (onGrid code (p - n)).isSome = true) :
    readsBack code (firstGrid code p tries count) = true := by
  induction tries generalizing count with
  | zero =>
    obtain rfl : n = count := by omega
    obtain ⟨d, hd⟩ := Option.isSome_iff_exists.mp hn
    rw [firstGrid, hd]
    exact readsBack_onGrid hd
  | succ tries ih =>
    rw [firstGrid]
    cases h : onGrid code (p - count) with
    | some d => exact readsBack_onGrid h
    | none =>
      have hne : count ≠ n := by
        rintro rfl
        simp [h] at hn
      exact ih (by omega) (by omega)

theorem value_trim (fuel : Nat) (d : Decimal) : (d.trim fuel).value = d.value := by
  induction fuel generalizing d with
  | zero => rfl
  | succ fuel ih =>
    rw [Decimal.trim]
    split
    · rename_i hzero
      have hdigits : (d.digits : ℚ) = (d.digits / 10 : Nat) * 10 := by
        exact_mod_cast (Nat.div_mul_cancel (Nat.dvd_of_mod_eq_zero hzero)).symm
      rw [ih, Decimal.value, Decimal.value, hdigits, zpow_add_one₀ (by norm_num)]
      ring
    · rfl

theorem readsBack_shortest (code : Nat) : readsBack (code + 1) (shortest (code + 1)) = true := by
  obtain ⟨hden, hcast⟩ :=
    cast_power (coefficient (code + 1)) (by decide : 0 < 2) (exponent (code + 1))
  have hnum := power_pos (coefficient_pos (Nat.succ_ne_zero code)) (by decide : 0 < 2)
    (exponent (code + 1))
  have hmagnitude := pow_magnitude_le hnum hden
  rw [shortest, if_neg (Nat.succ_ne_zero code)]
  simp only
  generalize power (coefficient (code + 1)) 2 (exponent (code + 1)) = quotient at *
  generalize magnitude quotient.1 quotient.2 = p at *
  have hfine : (10 : ℚ) ^ (p - (17 : Nat)) < midpoint (code + 1) - midpoint code := by
    have hvalue : (quotient.1 : ℚ) / quotient.2 = value (code + 1) := by
      rw [hcast, mul_div_cancel_right₀ _ (by exact_mod_cast hden.ne'), value]
      push_cast
      rfl
    have hsplit : (10 : ℚ) ^ (p - 1) = 10 ^ 16 * 10 ^ (p - (17 : Nat)) := by
      rw [← zpow_natCast, ← zpow_add₀ (by norm_num)]
      congr 1
      push_cast
      ring
    have hseventeen := seventeen_digits code
    rw [hvalue, hsplit] at hmagnitude
    linarith
  have hread := readsBack_firstGrid (by decide : 1 ≤ 17) (by decide : 17 ≤ 1 + 17)
    (isSome_onGrid hfine)
  rw [readsBack_iff] at hread ⊢
  rwa [value_trim]

theorem rounds_shortest (code : Nat) : Rounds (shortest code).value code := by
  cases code with
  | zero =>
    intro other hother
    have hvalue : (shortest 0).value = 0 := by simp [shortest, Decimal.value]
    have hpos := value_strictMono (Nat.pos_of_ne_zero hother)
    rw [value_zero] at hpos
    left
    rw [hvalue, value_zero, sub_zero, abs_zero]
    exact abs_pos.mpr (by linarith)
  | succ code => exact rounds_of_readsBack (readsBack_shortest code)

theorem digits_shortest_pos {code : Nat} (h : code ≠ 0) : 0 < (shortest code).digits := by
  obtain ⟨code, rfl⟩ := Nat.exists_eq_succ_of_ne_zero h
  have hread := (readsBack_iff code _).mp (readsBack_shortest code)
  have hpos := midpoint_pos code
  refine Nat.pos_of_ne_zero fun hzero => ?_
  have hvalue : (shortest (code + 1)).value = 0 := by simp [Decimal.value, hzero]
  split at hread <;> linarith [hread.1]

end SealedChain.Binary64
