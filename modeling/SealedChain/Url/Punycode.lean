import SealedChain.Text.Digits

/-!
# Labels in letters and digits

The characters of a label that are not ASCII are written behind its other characters, lowest first:
for each, how far the insertion point has to move, in digits of a mixed base that adapts to the
moves before it.
-/
namespace SealedChain.Url.Punycode

def digitChar (d : Nat) : Char := Char.ofNat (if d < 26 then 97 + d else 22 + d)

def digitValue? (c : Char) : Option Nat :=
  (Digits.symbol? c).map fun v => if v < 10 then v + 26 else v - 10

/-- The least digit at a place that does not end a number. -/
def threshold (place bias : Nat) : Nat :=
  if place ≤ bias then 1 else if bias + 26 ≤ place then 26 else place - bias

theorem threshold_bounds (place bias : Nat) :
    1 ≤ threshold place bias ∧ threshold place bias ≤ 26 := by
  unfold threshold
  split
  · omega
  · split <;> omega

def scale (delta place : Nat) : Nat :=
  if 455 < delta then scale (delta / 35) (place + 36) else place + 36 * delta / (delta + 38)
termination_by delta
decreasing_by omega

/-- The bias after a move to one of `count` places. -/
def adapt (delta count : Nat) (first : Bool) : Nat :=
  let delta := if first then delta / 700 else delta / 2
  scale (delta + delta / count) 0

def moveDigits (bias place n : Nat) : List Char :=
  let t := threshold place bias
  if n < t then [digitChar n]
  else digitChar (t + (n - t) % (36 - t)) :: moveDigits bias (place + 36) ((n - t) / (36 - t))
termination_by n
decreasing_by
  have := threshold_bounds place bias
  calc (n - threshold place bias) / (36 - threshold place bias)
      ≤ n - threshold place bias := Nat.div_le_self _ _
    _ < n := by omega

/-- What has been written of a label. -/
structure Writing where
  out : List Char
  delta : Nat := 0
  bias : Nat := 72
  count : Nat
  first : Bool := true

/-- Passes a character of the label while those of code `code` are written. -/
def Writing.pass (code : Nat) (w : Writing) (c : Char) : Writing :=
  if c.toNat < code then { w with delta := w.delta + 1 }
  else if c.toNat = code then
    { out := w.out ++ moveDigits w.bias 36 w.delta, delta := 0,
      bias := adapt w.delta (w.count + 1) w.first, count := w.count + 1, first := false }
  else w

/-- Writes the characters of each code, lowest code first. -/
def writeCodes (label : List Char) (next : Nat) (w : Writing) : List Nat → List Char
  | [] => w.out
  | code :: rest =>
    let w := { w with delta := w.delta + (code - next) * (w.count + 1) }
    let w := label.foldl (Writing.pass code) w
    writeCodes label (code + 1) { w with delta := w.delta + 1 } rest

def encode (label : List Char) : List Char :=
  let basic := label.filter (·.toNat < 128)
  let codes := ((label.map Char.toNat).filter (128 ≤ ·)).mergeSort.eraseReps
  writeCodes label 128
    { out := basic ++ if basic.isEmpty then [] else ['-'], count := basic.length } codes

/-- The number that the digits at the start of a text add to `acc`. -/
def readMove? (bias : Nat) : List Char → (place weight acc : Nat) → Option (Nat × List Char)
  | [], _, _, _ => none
  | c :: rest, place, weight, acc =>
    match digitValue? c with
    | none => none
    | some d =>
      let t := threshold place bias
      if d < t then some (acc + d * weight, rest)
      else readMove? bias rest (place + 36) (weight * (36 - t)) (acc + d * weight)

/-- Inserts the characters that a text moves to, for at most `fuel` of them. -/
def insertMoves? : (fuel bias code place : Nat) → List Char → List Char → Option (List Char)
  | 0, _, _, _, _, _ => none
  | fuel + 1, bias, code, place, out, s =>
    if s.isEmpty then some out
    else match readMove? bias s 36 1 place with
      | none => none
      | some (moved, rest) =>
        let count := out.length + 1
        let code' := code + moved / count
        if h : code'.isValidChar then
          insertMoves? fuel (adapt (moved - place) count (place == 0 && code == 128)) code'
            (moved % count + 1)
            (out.take (moved % count) ++ Char.ofNatAux code' h :: out.drop (moved % count)) rest
        else none

def decode? (s : List Char) : Option (List Char) :=
  let tail := (s.reverse.takeWhile (· != '-')).reverse
  let basic := s.take (s.length - tail.length - 1)
  insertMoves? (s.length + 1) 72 128 0 basic tail

end SealedChain.Url.Punycode
