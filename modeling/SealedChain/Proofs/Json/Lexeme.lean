import SealedChain.Json.Lexeme
import SealedChain.Json.Printer

/-!
# Strings and integers read back

The string reader returns the characters that the printer wrote between quotes, whatever they are.
The number reader returns an integer of sixty-four bits from its decimal notation, as long as the
text does not go on like a number.
-/
namespace SealedChain.Json.Reader

open StringState

theorem digit?_toNat {c : Char} {d : Nat} (h : Digits.digit? 10 c = some d) :
    c.toNat - '0'.toNat = d := by
  unfold Digits.digit? Digits.symbol? at h
  split at h
  · rename_i v hs
    split at h
    · rename_i hlt
      obtain rfl := Option.some.inj h
      split at hs
      · exact Option.some.inj hs
      · split at hs
        · have := Option.some.inj hs
          omega
        · split at hs
          · have := Option.some.inj hs
            omega
          · simp at hs
    · simp at h
  · simp at h

theorem stringRest_escape (c : Char) (acc rest : List Char) :
    stringRest .plain acc (escape c ++ rest) = stringRest .plain (c :: acc) rest := by
  unfold escape
  split
  · subst_vars; simp [stringRest, step, ofLetter?]
  split
  · subst_vars; simp [stringRest, step, ofLetter?]
  split
  · subst_vars; simp [stringRest, step, ofLetter?]
  split
  · subst_vars; simp [stringRest, step, ofLetter?]
  split
  · subst_vars; simp [stringRest, step, ofLetter?]
  split
  · subst_vars; simp [stringRest, step, ofLetter?]
  split
  · subst_vars; simp [stringRest, step, ofLetter?]
  split
  · rename_i hc
    have hzero : Digits.digit? 16 '0' = some 0 := by decide
    have hhigh := Digits.digit?_digitChar (by decide : 16 ≤ 16) (by omega : c.toNat / 16 < 16)
    have hlow := Digits.digit?_digitChar (by decide : 16 ≤ 16) (by omega : c.toNat % 16 < 16)
    have hvalue : c.toNat / 16 * 16 + c.toNat % 16 = c.toNat := by omega
    have hunit : ofUnit? c.toNat none = some (.plain, some c) := by
      unfold ofUnit?
      rw [if_neg (by omega), if_neg (by omega), Char.ofNat_toNat]
    simp [stringRest, step, hzero, hhigh, hlow, hvalue, hunit]
  · rename_i hquote hslash _ _ _ _ _ hc
    simp [stringRest, step, hquote, hslash, hc]

theorem stringRest_flatMap (cs acc rest : List Char) :
    stringRest .plain acc (cs.flatMap escape ++ '"' :: rest) = some (acc.reverse ++ cs, rest) := by
  induction cs generalizing acc with
  | nil => simp [stringRest]
  | cons c cs ih =>
    rw [List.flatMap_cons, List.append_assoc, stringRest_escape, ih]
    simp

theorem string_quoted (s : String) (rest : List Char) :
    string (s.toList.flatMap escape ++ '"' :: rest) = some (s, rest) := by
  rw [string, stringRest_flatMap]
  simp

/-- Text after a number that cannot belong to it. -/
def Stops (rest : List Char) : Prop := ∀ c ∈ rest.head?, c ∈ [',', ']', '}']

theorem stops_nil : Stops [] := by simp [Stops]

theorem stops_comma (rest : List Char) : Stops (',' :: rest) := by simp [Stops]

theorem stops_bracket (rest : List Char) : Stops (']' :: rest) := by simp [Stops]

theorem stops_brace (rest : List Char) : Stops ('}' :: rest) := by simp [Stops]

/-- Text that goes on otherwise than with a digit. -/
def NoDigit (s : List Char) : Prop := ∀ c ∈ s.head?, c.isDigit = false

theorem noDigit_cons {c : Char} (h : c.isDigit = false) (s : List Char) : NoDigit (c :: s) := by
  simpa [NoDigit] using h

theorem Stops.noDigit {rest : List Char} (h : Stops rest) : NoDigit rest := by
  intro c hc
  have hmem := h c hc
  simp only [List.mem_cons, List.not_mem_nil, or_false] at hmem
  rcases hmem with rfl | rfl | rfl <;> decide

theorem spanDigits_append {digits tail : List Char} (hd : ∀ c ∈ digits, c.isDigit = true)
    (ht : NoDigit tail) : spanDigits (digits ++ tail) = (digits, tail) := by
  have htail : tail.takeWhile Char.isDigit = [] ∧ tail.dropWhile Char.isDigit = tail := by
    cases tail with
    | nil => exact ⟨rfl, rfl⟩
    | cons c cs =>
      have hc : c.isDigit = false := ht c (by simp)
      simp [hc]
  rw [spanDigits, List.takeWhile_append_of_pos hd, List.dropWhile_append_of_pos hd, htail.1,
    htail.2, List.append_nil]

/-- Digits are a number with what follows them, unless a zero leads others. -/
theorem digitGroups_append {whole tail middle rest : List Char} {frac : Option (List Char)}
    {exp : Option (Bool × List Char)} (negative : Bool) (hne : whole ≠ [])
    (hd : ∀ c ∈ whole, c.isDigit = true) (hlead : ∀ x xs, whole ≠ '0' :: x :: xs)
    (ht : NoDigit tail) (hfraction : fraction tail = some (frac, middle))
    (hexponent : exponent middle = some (exp, rest)) :
    digitGroups negative (whole ++ tail) = some (⟨negative, whole, frac, exp⟩, rest) := by
  unfold digitGroups
  simp only [spanDigits_append hd ht, hfraction, hexponent]

theorem Stops.fraction {rest : List Char} (h : Stops rest) :
    fraction rest = some (none, rest) := by
  unfold Reader.fraction
  split
  · simp [Stops] at h
  · rfl

theorem Stops.exponent {rest : List Char} (h : Stops rest) :
    exponent rest = some (none, rest) := by
  unfold Reader.exponent
  split
  · rename_i c cs
    have hc : c ∈ [',', ']', '}'] := h c (by simp)
    have hn : ¬ (c = 'e' ∨ c = 'E') := by
      rintro (rfl | rfl) <;> simp at hc
    rw [if_neg hn]
  · rfl

theorem head?_decimal {n : Nat} (hn : 0 < n) : (Digits.decimal n).head? ≠ some '0' := by
  rw [Digits.decimal]
  induction n using Nat.strongRecOn with
  | ind n ih =>
    by_cases hlt : n < 10
    · have key : ∀ v : Fin 10, 0 < v.val → Nat.digitChar v.val ≠ '0' := by decide
      rw [Nat.toDigits_of_lt_base hlt]
      simpa using key ⟨n, hlt⟩ hn
    · have hpos : 0 < n / 10 := Nat.div_pos (by omega) (by decide)
      have hsplit := Nat.toDigits_append_toDigits (by decide : 1 < 10) hpos
        (Nat.mod_lt n (by decide))
      rw [Nat.div_add_mod] at hsplit
      obtain ⟨c, cs, hcons⟩ := List.exists_cons_of_ne_nil
        (Nat.toDigits_ne_nil : Nat.toDigits 10 (n / 10) ≠ [])
      have hrest := ih (n / 10) (by omega) hpos
      rw [← hsplit, hcons]
      rwa [hcons] at hrest

theorem le_of_valueFrom? {acc v : Nat} {cs : List Char}
    (h : Digits.valueFrom? 10 acc cs = some v) : acc ≤ v := by
  induction cs generalizing acc with
  | nil => exact Nat.le_of_eq (Option.some.inj h)
  | cons c cs ih =>
    rw [Digits.valueFrom?] at h
    cases hd : Digits.digit? 10 c with
    | none => simp [hd] at h
    | some d =>
      rw [hd] at h
      have := ih h
      omega

/-- Digits whose value fits are gathered whole. -/
theorem gather_eq {acc v : Nat} {cs : List Char} (h : Digits.valueFrom? 10 acc cs = some v)
    (hv : v < limit64) : gather acc cs = (v, []) := by
  induction cs generalizing acc with
  | nil => rw [gather, Option.some.inj h]
  | cons c cs ih =>
    rw [Digits.valueFrom?] at h
    cases hd : Digits.digit? 10 c with
    | none => simp [hd] at h
    | some d =>
      rw [hd] at h
      have hle := le_of_valueFrom? h
      rw [gather, digit?_toNat hd, if_pos (Nat.lt_of_le_of_lt hle hv)]
      exact ih h

theorem isDigit_decimal (n : Nat) : ∀ c ∈ Digits.decimal n, c.isDigit = true :=
  fun _ hc => Nat.isDigit_of_mem_toDigits (by decide) (by decide) hc

theorem decimal_zero : Digits.decimal 0 = ['0'] := by decide

theorem digitGroups_decimal (negative : Bool) (n : Nat) {rest : List Char} (hs : Stops rest) :
    digitGroups negative (Digits.decimal n ++ rest) =
      some (⟨negative, Digits.decimal n, none, none⟩, rest) := by
  have hlead : ∀ x xs, Digits.decimal n ≠ '0' :: x :: xs := by
    intro x xs heq
    by_cases hz : 0 < n
    · exact head?_decimal hz (by rw [heq]; rfl)
    · obtain rfl : n = 0 := by omega
      simp [decimal_zero] at heq
  exact digitGroups_append negative Nat.toDigits_ne_nil (isDigit_decimal n) hlead hs.noDigit
    hs.fraction hs.exponent

theorem numeral_signed (i : Int) {rest : List Char} (hs : Stops rest) :
    numeral (Digits.signed i ++ rest) =
      some (⟨decide (i < 0), Digits.decimal i.natAbs, none, none⟩, rest) := by
  unfold Digits.signed
  by_cases hi : i < 0
  · simp only [hi, if_true, List.cons_append, numeral, decide_true]
    exact digitGroups_decimal true i.natAbs hs
  · simp only [hi, if_false, decide_false]
    unfold numeral
    split
    · rename_i heq
      obtain ⟨c, cs, hcons⟩ := List.exists_cons_of_ne_nil
        (Nat.toDigits_ne_nil : Nat.toDigits 10 i.natAbs ≠ [])
      have hdigit := isDigit_decimal i.natAbs c (by rw [Digits.decimal, hcons]; simp)
      rw [Digits.decimal, hcons] at heq
      obtain rfl := (List.cons.inj heq).1
      simp at hdigit
    · exact digitGroups_decimal false i.natAbs hs

theorem number_signed {i : Int} (hlow : -0x8000000000000000 ≤ i) (hhigh : i < limit64)
    {rest : List Char} (hs : Stops rest) :
    number (Digits.signed i ++ rest) = some (.integer i, rest) := by
  have hvalue : Digits.valueFrom? 10 0 (Digits.decimal i.natAbs) = some i.natAbs :=
    Digits.value?_toDigits (by decide) (by decide) _
  have hgather := gather_eq hvalue (by unfold limit64 at *; omega)
  rw [number, numeral_signed i hs]
  simp only [Numeral.value?, hgather]
  have hinteger : (⟨decide (i < 0), Digits.decimal i.natAbs, none, none⟩ : Numeral).integer?
      i.natAbs [] = some i := by
    unfold Numeral.integer?
    by_cases hi : i < 0
    · have hrange : 0 < i.natAbs ∧ i.natAbs ≤ 0x8000000000000000 := by omega
      have hneg : -(i.natAbs : Int) = i := by omega
      simp only [hi, hrange, hneg, decide_true, Option.isSome_none, Bool.false_eq_true, ne_eq,
        not_true_eq_false, or_self, if_false, Bool.not_true, and_self, if_true]
    · have hpos : (i.natAbs : Int) = i := by omega
      simp only [hi, hpos, decide_false, Option.isSome_none, Bool.false_eq_true, ne_eq,
        not_true_eq_false, or_self, if_false, Bool.not_false, if_true]
  simp only [hinteger, Option.map_some]

end SealedChain.Json.Reader
