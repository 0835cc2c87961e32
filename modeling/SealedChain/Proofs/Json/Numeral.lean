import SealedChain.Proofs.Binary64.Shortest
import SealedChain.Proofs.Json.Lexeme

/-!
# Doubles as numbers

The text of a double is a number to the reader, whatever value it then gives it: digits of which no
zero leads others, with a point or an exponent. The exact magnitude of that number is the one that
the shortest digits of the double stand for, so it rounds to the double and to no other.
-/
namespace SealedChain

namespace Json.Reader

/-- The magnitude that digit groups stand for, before any rounding. -/
def Numeral.magnitude (n : Numeral) : ℚ :=
  let places := n.fraction.getD []
  let power : Int := match n.exponent with
    | none => 0
    | some (true, es) => -((Digits.value? 10 es).getD 0 : Nat)
    | some (false, es) => ((Digits.value? 10 es).getD 0 : Nat)
  ((Digits.value? 10 (n.whole ++ places)).getD 0 : Nat) * 10 ^ (power - places.length)

theorem value?_zeros_append (n : Nat) (cs : List Char) :
    Digits.value? 10 (List.replicate n '0' ++ cs) = Digits.value? 10 cs := by
  induction n with
  | zero => rfl
  | succ n ih => exact ih

theorem value?_append_zeros {cs : List Char} {v : Nat} (h : Digits.value? 10 cs = some v)
    (n : Nat) : Digits.value? 10 (cs ++ List.replicate n '0') = some (v * 10 ^ n) := by
  have hzeros : ∀ acc, Digits.valueFrom? 10 acc (List.replicate n '0') = some (acc * 10 ^ n) := by
    induction n with
    | zero => simp [Digits.valueFrom?]
    | succ n ih =>
      intro acc
      rw [List.replicate_succ, Digits.valueFrom?]
      simp only [(by decide : Digits.digit? 10 '0' = some 0), Nat.add_zero, ih, Nat.pow_succ']
      rw [Nat.mul_assoc]
  rw [Digits.value?] at h ⊢
  rw [Digits.valueFrom?_append, h]
  exact hzeros v

theorem fraction_point {digits : List Char} (tail : List Char) (hne : digits ≠ [])
    (hd : ∀ c ∈ digits, c.isDigit = true) (ht : NoDigit tail) :
    fraction ('.' :: (digits ++ tail)) = some (some digits, tail) := by
  rw [fraction, spanDigits_append hd ht]
  simp [hne]

theorem fraction_mark (s : List Char) : fraction ('e' :: s) = some (none, 'e' :: s) := rfl

theorem exponent_mark {digits rest : List Char} (negative : Bool) (hne : digits ≠ [])
    (hd : ∀ c ∈ digits, c.isDigit = true) (hs : Stops rest) :
    exponent ('e' :: (if negative then '-' else '+') :: (digits ++ rest)) =
      some (some (negative, digits), rest) := by
  cases negative <;> simp [exponent, spanDigits_append hd hs.noDigit, hne]

theorem lead_of_head? {digits : List Char} (h : digits.head? ≠ some '0') (x : Char)
    (xs : List Char) : digits ≠ '0' :: x :: xs := by
  rintro rfl
  exact h rfl

theorem isDigit_zeros (n : Nat) : ∀ c ∈ List.replicate n '0', c.isDigit = true := by
  intro c hc
  rw [(List.mem_replicate.mp hc).2]
  decide

/-- Without its sign, the text is a number of this sign and magnitude when `rest` comes after it. -/
def Written (negative : Bool) (text rest : List Char) (x : ℚ) : Prop :=
  ∃ n, digitGroups negative (text ++ rest) = some (n, rest) ∧ n.negative = negative ∧
    n.magnitude = x

section Written

variable {digits rest : List Char} {v : Nat} (negative : Bool)

theorem written_places {whole places : List Char} (hwhole : whole ≠ []) (hplaces : places ≠ [])
    (hd : ∀ c ∈ whole ++ places, c.isDigit = true) (hlead : ∀ x xs, whole ≠ '0' :: x :: xs)
    (hv : Digits.value? 10 (whole ++ places) = some v) (hs : Stops rest) :
    Written negative (whole ++ '.' :: places) rest (v * 10 ^ (-(places.length : Int))) := by
  have hfraction := fraction_point rest hplaces
    (fun c hc => hd c (List.mem_append_right whole hc)) hs.noDigit
  have hgroups := digitGroups_append negative hwhole
    (fun c hc => hd c (List.mem_append_left places hc)) hlead (noDigit_cons (by decide) _)
    hfraction hs.exponent
  refine ⟨⟨negative, whole, some places, none⟩, ?_, rfl, ?_⟩
  · rw [List.append_assoc]
    exact hgroups
  · simp only [Numeral.magnitude, Option.getD_some, hv, zero_sub]

theorem written_withPoint (hv : Digits.value? 10 digits = some v) (hne : digits ≠ [])
    (hd : ∀ c ∈ digits, c.isDigit = true) (hlead : digits.head? ≠ some '0') (count : Int)
    (hs : Stops rest) :
    Written negative (withPoint digits count) rest (v * 10 ^ (count - digits.length)) := by
  unfold withPoint
  split
  · have hplaces : List.replicate (-count).toNat '0' ++ digits ≠ [] := by simp [hne]
    have hzeros : ∀ c ∈ List.replicate ((-count).toNat + 1) '0' ++ digits, c.isDigit = true :=
      fun c hc => (List.mem_append.mp hc).elim (isDigit_zeros _ c) (hd c)
    have hvalue := (value?_zeros_append ((-count).toNat + 1) digits).trans hv
    have hexponent : count - digits.length =
        -((List.replicate (-count).toNat '0' ++ digits).length : Int) := by
      rw [List.length_append, List.length_replicate]
      omega
    rw [hexponent]
    exact written_places negative (List.cons_ne_nil '0' []) hplaces hzeros (by simp) hvalue hs
  · split
    · have htake : digits.take count.toNat ≠ [] := by
        simp only [ne_eq, List.take_eq_nil_iff, hne, or_false]
        omega
      have hdrop : digits.drop count.toNat ≠ [] := by
        simp only [ne_eq, List.drop_eq_nil_iff]
        omega
      have hhead : (digits.take count.toNat).head? ≠ some '0' := by
        rw [List.head?_take, if_neg (by omega)]
        exact hlead
      have hexponent : count - digits.length = -((digits.drop count.toNat).length : Int) := by
        rw [List.length_drop]
        omega
      rw [hexponent]
      rw [← List.take_append_drop count.toNat digits] at hd hv
      exact written_places negative htake hdrop hd (lead_of_head? hhead) hv hs
    · have hwhole : digits ++ List.replicate (count.toNat - digits.length) '0' ≠ [] := by
        simp [hne]
      have hhead : (digits ++ List.replicate (count.toNat - digits.length) '0').head? ≠
          some '0' := by
        obtain ⟨c, cs, rfl⟩ := List.exists_cons_of_ne_nil hne
        exact hlead
      -- one of the zeros stands behind the point
      have hsplit : digits ++ List.replicate (count.toNat - digits.length) '0' ++ ['0'] =
          digits ++ List.replicate (count.toNat - digits.length + 1) '0' := by
        rw [List.append_assoc, List.replicate_succ']
      have hvalue := value?_append_zeros hv (count.toNat - digits.length + 1)
      have hzeros : ∀ c ∈ digits ++ List.replicate (count.toNat - digits.length + 1) '0',
          c.isDigit = true := fun c hc =>
        (List.mem_append.mp hc).elim (hd c) (isDigit_zeros _ c)
      have hexponent : count - digits.length = (count.toNat - digits.length + 1 : Nat) - 1 := by
        omega
      rw [← hsplit] at hvalue hzeros
      rw [hexponent, zpow_sub₀ (by norm_num), zpow_natCast]
      have hwritten := written_places negative hwhole (List.cons_ne_nil '0' []) hzeros
        (lead_of_head? hhead) hvalue hs
      rw [Nat.cast_mul, Nat.cast_pow, Nat.cast_ofNat, mul_assoc] at hwritten
      exact hwritten

theorem magnitude_exponent (whole : List Char) (frac : Option (List Char))
    (hv : Digits.value? 10 (whole ++ frac.getD []) = some v) (e : Int) :
    (⟨negative, whole, frac, some (decide (e < 0), Digits.decimal e.natAbs)⟩ :
      Numeral).magnitude = v * 10 ^ (e - (frac.getD []).length) := by
  have hpower : Digits.value? 10 (Digits.decimal e.natAbs) = some e.natAbs :=
    Digits.value?_toDigits (by decide) (by decide) _
  by_cases hneg : e < 0
  · have habs : -(e.natAbs : Int) = e := by omega
    simp only [Numeral.magnitude, hv, hneg, decide_true, hpower, Option.getD_some, habs]
  · have habs : (e.natAbs : Int) = e := by omega
    simp only [Numeral.magnitude, hv, hneg, decide_false, hpower, Option.getD_some, habs]

theorem written_scientific (hv : Digits.value? 10 digits = some v) (hne : digits ≠ [])
    (hd : ∀ c ∈ digits, c.isDigit = true) (e : Int) (hs : Stops rest) :
    Written negative (scientific digits e) rest (v * 10 ^ (e + 1 - digits.length)) := by
  have hexponent : exponent ('e' :: (if e < 0 then '-' else '+') ::
      (Digits.decimal e.natAbs ++ rest)) =
      some (some (decide (e < 0), Digits.decimal e.natAbs), rest) := by
    have hmark := exponent_mark (decide (e < 0)) Nat.toDigits_ne_nil (isDigit_decimal e.natAbs) hs
    simp only [decide_eq_true_eq] at hmark
    exact hmark
  have hmark := noDigit_cons (by decide : 'e'.isDigit = false)
    ((if e < 0 then '-' else '+') :: (Digits.decimal e.natAbs ++ rest))
  obtain ⟨first, others, rfl⟩ := List.exists_cons_of_ne_nil hne
  cases others with
  | nil =>
    have hgroups := digitGroups_append negative hne hd (by simp) hmark (fraction_mark _) hexponent
    refine ⟨⟨negative, [first], none, some (decide (e < 0), Digits.decimal e.natAbs)⟩, ?_, rfl, ?_⟩
    · simpa only [scientific, List.cons_append, List.nil_append] using hgroups
    · rw [magnitude_exponent negative [first] none hv]
      simp
  | cons second others =>
    have hfraction := fraction_point _ (List.cons_ne_nil second others)
      (fun c hc => hd c (List.mem_cons_of_mem _ hc)) hmark
    have hfirst : ∀ c ∈ [first], c.isDigit = true := fun c hc => hd c (by simp_all)
    have hgroups := digitGroups_append negative (List.cons_ne_nil first []) hfirst (by simp)
      (noDigit_cons (by decide) _) hfraction hexponent
    refine ⟨⟨negative, [first], some (second :: others),
      some (decide (e < 0), Digits.decimal e.natAbs)⟩, ?_, rfl, ?_⟩
    · simpa only [scientific, List.cons_append, List.nil_append, List.append_assoc] using hgroups
    · rw [magnitude_exponent negative [first] (some (second :: others)) hv]
      congr 2
      simp only [Option.getD_some, List.length_cons]
      omega

theorem written_decimal {d : Binary64.Decimal} (hpos : 0 < d.digits) (hs : Stops rest) :
    let digits := Digits.decimal d.digits
    let count := digits.length + d.exponent
    Written negative (if -4 ≤ count ∧ count ≤ 16 then withPoint digits count
      else scientific digits (count - 1)) rest d.value := by
  intro digits count
  have hv : Digits.value? 10 digits = some d.digits :=
    Digits.value?_toDigits (by decide) (by decide) _
  have hvalue : d.value = d.digits * 10 ^ (count - digits.length) := by
    simp only [count, add_sub_cancel_left, Binary64.Decimal.value]
  rw [hvalue]
  split
  · exact written_withPoint negative hv Nat.toDigits_ne_nil (isDigit_decimal _)
      (head?_decimal hpos) count hs
  · have hscientific := written_scientific negative hv Nat.toDigits_ne_nil (isDigit_decimal _)
      (count - 1) hs
    rwa [sub_add_cancel] at hscientific

end Written

theorem numeral_of_digitGroups {s : List Char} {r : Numeral × List Char}
    (h : digitGroups false s = some r) : numeral s = some r := by
  unfold numeral
  split
  · simp [digitGroups, spanDigits] at h
  · exact h

theorem numeral_head {s : List Char} {r : Numeral × List Char} (h : numeral s = some r) :
    ∃ c cs, s = c :: cs ∧ (c = '-' ∨ c.isDigit = true) := by
  cases s with
  | nil => simp [numeral, digitGroups, spanDigits] at h
  | cons c cs =>
    refine ⟨c, cs, rfl, ?_⟩
    unfold numeral at h
    split at h
    · rename_i heq
      exact .inl (List.cons.inj heq).1
    · cases hc : c.isDigit with
      | true => exact .inr rfl
      | false => simp [digitGroups, spanDigits, hc] at h

theorem numeral_of_written {body rest : List Char} {x : ℚ} (negative : Bool)
    (h : Written negative body rest x) :
    ∃ n, numeral ((if negative then ['-'] else []) ++ body ++ rest) = some (n, rest) ∧
      n.negative = negative ∧ n.magnitude = x := by
  obtain ⟨n, hgroups, hrest⟩ := h
  cases negative with
  | true => exact ⟨n, hgroups, hrest⟩
  | false => exact ⟨n, numeral_of_digitGroups hgroups, hrest⟩

/-- The text of a double is a number of its sign, and its magnitude rounds to the double alone. -/
theorem numeral_realChars (x : Binary64) {rest : List Char} (hs : Stops rest) :
    ∃ n, numeral (realChars x ++ rest) = some (n, rest) ∧ n.negative = x.negative ∧
      ∀ code, Binary64.Rounds n.magnitude code ↔ code = x.code := by
  have hwritten : ∃ body, realChars x = (if x.negative then ['-'] else []) ++ body ∧
      Written x.negative body rest (Binary64.shortest x.code).value := by
    unfold realChars
    cases hzero : x.isZero with
    | true =>
      have hcode : x.code = 0 := by simpa [Binary64.isZero] using hzero
      refine ⟨_, rfl, ?_⟩
      have hpoint := written_places (v := 0) x.negative (List.cons_ne_nil '0' [])
        (List.cons_ne_nil '0' []) (by simp) (by simp) (by decide) hs
      simpa [hcode, Binary64.shortest, Binary64.Decimal.value] using hpoint
    | false =>
      have hcode : x.code ≠ 0 := by simpa [Binary64.isZero] using hzero
      exact ⟨_, rfl, written_decimal x.negative (Binary64.digits_shortest_pos hcode) hs⟩
  obtain ⟨body, hbody, h⟩ := hwritten
  obtain ⟨n, hn, hnegative, hmagnitude⟩ := numeral_of_written x.negative h
  have hrounds := Binary64.rounds_shortest x.code
  rw [← hmagnitude] at hrounds
  exact ⟨n, hbody ▸ hn, hnegative, fun code => ⟨fun h => h.unique hrounds, fun h => h ▸ hrounds⟩⟩

end Json.Reader

end SealedChain
