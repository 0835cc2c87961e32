import SealedChain.Binary64.Scaled
import SealedChain.Json.Basic
import SealedChain.Text.Digits

/-!
# Strings and numbers in the text of a value

Each reader takes the text that is left and returns what it read with the rest. Strings are read
one character at a time by a machine whose state says where in an escape it stands. Numbers are
split into their digit groups first; their value is computed from the groups.
-/
namespace SealedChain.Json.Reader

def isBlank (c : Char) : Bool := c == ' ' || c == '\n' || c == '\r' || c == '\t'

def skipBlanks (s : List Char) : List Char := s.dropWhile isBlank

/-- Where in a string the reader stands. -/
inductive StringState where
  | plain
  | escape
  | units (left value : Nat) (high : Option Nat)
  | lowEscape (high : Nat)
  | lowUnits (high : Nat)
  deriving DecidableEq, Repr

namespace StringState

def ofLetter? (c : Char) : Option Char :=
  if c = '"' ∨ c = '\\' ∨ c = '/' then some c
  else if c = 'b' then some '\x08'
  else if c = 'f' then some '\x0c'
  else if c = 'n' then some '\n'
  else if c = 'r' then some '\r'
  else if c = 't' then some '\t'
  else none

/-- The state after the last digit of a four-digit escape. A high surrogate waits for its low one;
a low surrogate without a high one is refused. -/
def ofUnit? (unit : Nat) (high : Option Nat) : Option (StringState × Option Char) :=
  match high with
  | none =>
    if 0xDC00 ≤ unit ∧ unit ≤ 0xDFFF then none
    else if 0xD800 ≤ unit ∧ unit ≤ 0xDBFF then some (.lowEscape unit, none)
    else some (.plain, some (Char.ofNat unit))
  | some h =>
    if 0xDC00 ≤ unit ∧ unit ≤ 0xDFFF then
      some (.plain, some (Char.ofNat (0x10000 + (h - 0xD800) * 0x400 + (unit - 0xDC00))))
    else none

def step (c : Char) : StringState → Option (StringState × Option Char)
  | .plain =>
    if c = '\\' then some (.escape, none)
    else if c.toNat < 0x20 then none
    else some (.plain, some c)
  | .escape =>
    if c = 'u' then some (.units 4 0 none, none)
    else (ofLetter? c).map fun x => (.plain, some x)
  | .units left value high =>
    match Digits.digit? 16 c with
    | none => none
    | some d =>
      if left ≤ 1 then ofUnit? (value * 16 + d) high
      else some (.units (left - 1) (value * 16 + d) high, none)
  | .lowEscape high => if c = '\\' then some (.lowUnits high, none) else none
  | .lowUnits high => if c = 'u' then some (.units 4 0 (some high), none) else none

end StringState

/-- The characters of a string up to its closing quote, after those in `acc` (last one first). -/
def stringRest : StringState → List Char → List Char → Option (List Char × List Char)
  | _, _, [] => none
  | state, acc, c :: rest =>
    if c = '"' ∧ state = .plain then some (acc.reverse, rest)
    else match state.step c with
      | none => none
      | some (next, none) => stringRest next acc rest
      | some (next, some x) => stringRest next (x :: acc) rest

def string (s : List Char) : Option (String × List Char) :=
  (stringRest .plain [] s).map fun (cs, rest) => (String.ofList cs, rest)

structure Numeral where
  negative : Bool
  whole : List Char
  fraction : Option (List Char)
  exponent : Option (Bool × List Char)
  deriving DecidableEq, Repr

def spanDigits (s : List Char) : List Char × List Char :=
  (s.takeWhile Char.isDigit, s.dropWhile Char.isDigit)

def fraction (s : List Char) : Option (Option (List Char) × List Char) :=
  match s with
  | '.' :: rest =>
    let (digits, rest) := spanDigits rest
    if digits.isEmpty then none else some (some digits, rest)
  | _ => some (none, s)

def exponent (s : List Char) : Option (Option (Bool × List Char) × List Char) :=
  match s with
  | c :: rest =>
    if c = 'e' ∨ c = 'E' then
      let (negative, rest) := match rest with
        | '+' :: r => (false, r)
        | '-' :: r => (true, r)
        | r => (false, r)
      let (digits, rest) := spanDigits rest
      if digits.isEmpty then none else some (some (negative, digits), rest)
    else some (none, s)
  | [] => some (none, s)

/-- The digit groups that a text without a sign starts with. A zero may not lead other digits. -/
def digitGroups (negative : Bool) (s : List Char) : Option (Numeral × List Char) :=
  let (whole, s) := spanDigits s
  match whole with
  | [] => none
  | '0' :: _ :: _ => none
  | _ =>
    match fraction s with
    | none => none
    | some (frac, s) =>
      match exponent s with
      | none => none
      | some (exp, s) => some (⟨negative, whole, frac, exp⟩, s)

def numeral (s : List Char) : Option (Numeral × List Char) :=
  match s with
  | '-' :: rest => digitGroups true rest
  | _ => digitGroups false s

/-- The number that digits make after those of `acc`, up to the first that no longer fits
sixty-four bits, and the digits from that one on. -/
def gather : (acc : Nat) → List Char → Nat × List Char
  | acc, [] => (acc, [])
  | acc, c :: cs =>
    let next := acc * 10 + (c.toNat - '0'.toNat)
    if next < limit64 then gather next cs else (acc, c :: cs)

namespace Numeral

/-- The integer that a number without point and exponent is, if it fits sixty-four bits. Minus
zero is not one. -/
def integer? (n : Numeral) (value : Nat) (beyond : List Char) : Option Int :=
  if n.fraction.isSome ∨ n.exponent.isSome ∨ beyond ≠ [] then none
  else if !n.negative then some value
  else if 0 < value ∧ value ≤ 0x8000000000000000 then some (-value)
  else none

/-- The value of a number. Digits beyond the sixty-four bits of the significand count as a power of
ten before the point and not at all after it. None if the number is too large for a double. -/
def value? (n : Numeral) : Option Json :=
  let (significand, beyond) := gather 0 n.whole
  match n.integer? significand beyond with
  | some i => some (.integer i)
  | none =>
    let digits := n.fraction.getD []
    let (significand, dropped) := gather significand digits
    let exponent : Int := match n.exponent with
      | none => 0
      | some (negative, es) =>
        let e := (Digits.value? 10 es).getD 0
        if negative then -(e : Int) else e
    let scale := (beyond.length : Int) - (digits.length - dropped.length) + exponent
    (Binary64.ofScaled? n.negative significand scale).map .real

end Numeral

def number (s : List Char) : Option (Json × List Char) :=
  match numeral s with
  | none => none
  | some (n, rest) => n.value?.map (·, rest)

end SealedChain.Json.Reader
