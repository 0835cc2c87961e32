import SealedChain.Text.Digits

/-!
# Internet addresses

The text of the two kinds of address, and the strict notation that options are read in: four
decimal octets without leading zeros, or up to eight groups of hexadecimal digits, of which the last
two may be written as four octets and one run of zeros may be left out.
-/
namespace SealedChain.Net

structure Ipv4 where
  a : Nat
  b : Nat
  c : Nat
  d : Nat
  deriving DecidableEq, Repr

structure Ipv6 where
  groups : List Nat
  deriving DecidableEq, Repr

namespace Ipv4

def text (ip : Ipv4) : List Char :=
  Digits.decimal ip.a ++ '.' :: (Digits.decimal ip.b ++ '.' :: (Digits.decimal ip.c ++
    '.' :: Digits.decimal ip.d))

def groups (ip : Ipv4) : List Nat := [ip.a * 256 + ip.b, ip.c * 256 + ip.d]

def ofNat (n : Nat) : Ipv4 :=
  ⟨n / 0x1000000 % 256, n / 0x10000 % 256, n / 0x100 % 256, n % 256⟩

end Ipv4

namespace Ipv6

def zeros : List Nat → Nat
  | 0 :: rest => zeros rest + 1
  | _ => 0

def longestRun : List Nat → Nat × Nat
  | [] => (0, 0)
  | g :: rest =>
    let (place, length) := longestRun rest
    let here := zeros (g :: rest)
    if length ≤ here ∧ 0 < here then (0, here) else (place + 1, length)

def groupText : List Nat → List Char
  | [] => []
  | [g] => Nat.toDigits 16 g
  | g :: rest => Nat.toDigits 16 g ++ ':' :: groupText rest

/-- The groups in hexadecimal; the first longest run of at least two zeros is left out. -/
def text (ip : Ipv6) : List Char :=
  let (place, length) := longestRun ip.groups
  if 1 < length then
    groupText (ip.groups.take place) ++ ':' :: ':' :: groupText (ip.groups.drop (place + length))
  else groupText ip.groups

/-- The address that a mapped one stands for. -/
def mapped? : Ipv6 → Option Ipv4
  | ⟨[0, 0, 0, 0, 0, 0xffff, high, low]⟩ =>
    some ⟨high / 256, high % 256, low / 256, low % 256⟩
  | _ => none

/-- The text of an address; a mapped one shows its octets. -/
def mixedText (ip : Ipv6) : List Char :=
  match ip.mapped? with
  | some v4 => [':', ':', 'f', 'f', 'f', 'f', ':'] ++ v4.text
  | none => ip.text

end Ipv6

namespace Read

def digits? (base : Nat) (s : List Char) : Option (List Char × List Char) :=
  let isDigit := fun c => (Digits.digit? base c).isSome
  match s.takeWhile isDigit with
  | [] => none
  | ds => some (ds, s.dropWhile isDigit)

def number? (base limit : Nat) (s : List Char) : Option (Nat × List Char) := do
  let (ds, rest) ← digits? base s
  let n ← Digits.value? base ds
  if n < limit then some (n, rest) else none

def octet? (s : List Char) : Option (Nat × List Char) := do
  let (ds, rest) ← digits? 10 s
  if 3 < ds.length ∨ (1 < ds.length ∧ ds.head? = some '0') then none
  let n ← Digits.value? 10 ds
  if n < 256 then some (n, rest) else none

def after? (c : Char) : List Char → Option (List Char)
  | [] => none
  | d :: rest => if d = c then some rest else none

def ipv4? (s : List Char) : Option (Ipv4 × List Char) := do
  let (a, s) ← octet? s
  let (b, s) ← octet? (← after? '.' s)
  let (c, s) ← octet? (← after? '.' s)
  let (d, s) ← octet? (← after? '.' s)
  some (⟨a, b, c, d⟩, s)

def group? (s : List Char) : Option (Nat × List Char) := do
  let (ds, rest) ← digits? 16 s
  if 4 < ds.length then none
  let n ← Digits.value? 16 ds
  some (n, rest)

/-- Groups with colons between them, at most `limit` of them, with whether the last two were
octets. Every group but the first of all needs its colon. -/
def groups : (limit : Nat) → (first : Bool) → List Char → List Nat × Bool × List Char
  | 0, _, s => ([], false, s)
  | limit + 1, first, s =>
    match if first then some s else after? ':' s with
    | none => ([], false, s)
    | some r =>
      match if 0 < limit then ipv4? r else none with
      | some (ip, rest) => (ip.groups, true, rest)
      | none =>
        match group? r with
        | none => ([], false, s)
        | some (g, rest) =>
          let (gs, octets, rest) := groups limit false rest
          (g :: gs, octets, rest)

def ipv6? (s : List Char) : Option (Ipv6 × List Char) :=
  match groups 8 true s with
  | (head, octets, rest) =>
    if head.length = 8 then some (⟨head⟩, rest)
    else if octets then none
    else match rest with
      | ':' :: ':' :: rest =>
        match groups (7 - head.length) true rest with
        | (tail, _, rest) =>
          some (⟨head ++ List.replicate (8 - head.length - tail.length) 0 ++ tail⟩, rest)
      | _ => none

end Read

end SealedChain.Net
