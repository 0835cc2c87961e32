/-!
# Numbers in positional notation

The value of a digit and of a digit list in a base up to thirty-six, and the plain decimal and
hexadecimal notation of a number. Reading takes either case of a letter; writing uses lower case
and no leading zero. Reading the notation of a number returns the number.
-/
namespace SealedChain

def limit64 : Nat := 0x10000000000000000

end SealedChain

namespace SealedChain.Digits

/-- The value of a decimal digit or of a letter, letters counting from ten in either case. -/
def symbol? (c : Char) : Option Nat :=
  if '0' ≤ c ∧ c ≤ '9' then some (c.toNat - '0'.toNat)
  else if 'a' ≤ c ∧ c ≤ 'z' then some (c.toNat - 'a'.toNat + 10)
  else if 'A' ≤ c ∧ c ≤ 'Z' then some (c.toNat - 'A'.toNat + 10)
  else none

def digit? (base : Nat) (c : Char) : Option Nat :=
  match symbol? c with
  | some v => if v < base then some v else none
  | none => none

def valueFrom? (base : Nat) : Nat → List Char → Option Nat
  | acc, [] => some acc
  | acc, c :: cs =>
    match digit? base c with
    | some v => valueFrom? base (acc * base + v) cs
    | none => none

/-- The value of a digit list; the empty list is worth zero. -/
def value? (base : Nat) (cs : List Char) : Option Nat := valueFrom? base 0 cs

/-- The value of one or more digits after an optional plus sign. -/
def unsigned? (base : Nat) (cs : List Char) : Option Nat :=
  let digits := match cs with
    | '+' :: rest => rest
    | _ => cs
  if digits.isEmpty then none else value? base digits

def below? (limit base : Nat) (cs : List Char) : Option Nat :=
  match unsigned? base cs with
  | some v => if v < limit then some v else none
  | none => none

def decimal (n : Nat) : List Char := Nat.toDigits 10 n

def signed (i : Int) : List Char :=
  if i < 0 then '-' :: decimal i.natAbs else decimal i.natAbs

def hexadecimal (n : Nat) : List Char := '0' :: 'x' :: Nat.toDigits 16 n

theorem valueFrom?_append (base acc : Nat) (xs ys : List Char) :
    valueFrom? base acc (xs ++ ys) = (valueFrom? base acc xs).bind (valueFrom? base · ys) := by
  induction xs generalizing acc with
  | nil => rfl
  | cons c cs ih =>
    simp only [List.cons_append, valueFrom?]
    cases digit? base c with
    | none => rfl
    | some v => exact ih _

@[simp] theorem value?_nil (base : Nat) : value? base [] = some 0 := rfl

theorem digit?_digitChar {base d : Nat} (hb : base ≤ 16) (hd : d < base) :
    digit? base (Nat.digitChar d) = some d := by
  have key : ∀ v : Fin 16, symbol? (Nat.digitChar v.val) = some v.val := by decide
  have hs := key ⟨d, Nat.lt_of_lt_of_le hd hb⟩
  simp only [digit?]
  rw [hs]
  simp [hd]

theorem value?_toDigits {base : Nat} (hl : 1 < base) (hb : base ≤ 16) (n : Nat) :
    value? base (Nat.toDigits base n) = some n := by
  induction n using Nat.strongRecOn with
  | ind n ih =>
    by_cases hn : n < base
    · rw [Nat.toDigits_of_lt_base hn, value?, valueFrom?, digit?_digitChar hb hn]
      simp [valueFrom?]
    · have hpos : 0 < n / base := Nat.div_pos (Nat.le_of_not_lt hn) (by omega)
      have hmod : n % base < base := Nat.mod_lt _ (by omega)
      have hsplit := Nat.toDigits_append_toDigits hl hpos hmod
      rw [Nat.div_add_mod] at hsplit
      have hrest := ih (n / base) (Nat.div_lt_self (by omega) hl)
      rw [value?] at hrest
      rw [← hsplit, value?, valueFrom?_append, hrest, Nat.toDigits_of_lt_base hmod,
        Option.bind_some, valueFrom?, digit?_digitChar hb hmod]
      simp [valueFrom?, Nat.div_add_mod']

theorem isSome_digit?_of_valueFrom? {base acc v : Nat} {cs : List Char}
    (h : valueFrom? base acc cs = some v) : ∀ c ∈ cs, (digit? base c).isSome := by
  induction cs generalizing acc with
  | nil => simp
  | cons c cs ih =>
    rw [valueFrom?] at h
    cases hd : digit? base c with
    | none => simp [hd] at h
    | some d =>
      rw [hd] at h
      simpa [hd] using ih h

end SealedChain.Digits
