import SealedChain.Json.Lexeme

/-!
# Surplus items

A word may be written as the array of its bytes, and the array may hold one item too many, so long as
that item is no byte. The surplus item is not read as a value but only as far as it takes to see
that it is none: `afterSurplus` is the text from there on, in which the array has to end.
-/
namespace SealedChain.Json.Reader

def byteItem? (s : List Char) : Option (Json × List Char) :=
  match number (skipBlanks s) with
  | some (.integer i, rest) => if 0 ≤ i ∧ i < 256 then some (.integer i, rest) else none
  | _ => none

def dropBytes : Nat → List Char → Option (List Char)
  | 0, s => some s
  | _ + 1, [] => none
  | n + 1, c :: rest => if c.utf8Size ≤ n + 1 then dropBytes (n + 1 - c.utf8Size) rest else none

/-- How many bytes are taken before a state refuses what it is given: the digits of an escape are
looked at together. -/
def StringState.width : StringState → Nat
  | .units left _ _ => left
  | _ => 1

/-- The text after a string, or after what spoils it. -/
def afterString : StringState → List Char → Option (List Char)
  | _, [] => none
  | state, c :: rest =>
    if c = '"' ∧ state = .plain then some rest
    else match state.step c with
      | some (next, _) => afterString next rest
      | none => dropBytes state.width (c :: rest)

def afterLetters : List Char → List Char → Option (List Char)
  | [], s => some s
  | _ :: _, [] => none
  | letter :: letters, c :: rest =>
    if c = letter then afterLetters letters rest else dropBytes 1 (c :: rest)

/-- The text after the digits of an exponent, or after the first that makes it larger than any
exponent can be. -/
def afterLargeExponent : (acc : Nat) → List Char → List Char
  | _, [] => []
  | acc, c :: rest =>
    if c.isDigit then
      let next := acc * 10 + (c.toNat - '0'.toNat)
      if 0x7fffffff < next then rest else afterLargeExponent next rest
    else c :: rest

def afterExponent (zero : Bool) (s : List Char) : Option (List Char) :=
  match s with
  | [] => some []
  | mark :: signed =>
    if mark ≠ 'e' ∧ mark ≠ 'E' then some s
    else
      let (negative, digits) := match signed with
        | '+' :: r => (false, r)
        | '-' :: r => (true, r)
        | r => (false, r)
      if (spanDigits digits).1.isEmpty then dropBytes 1 digits
      else if zero ∨ negative then some (spanDigits digits).2
      else some (afterLargeExponent 0 digits)

/-- The text after the number that starts with these digits. A zero may not lead other digits, and
a point may not be without digits after it. -/
def afterDigits (s : List Char) : Option (List Char) :=
  let (whole, rest) := spanDigits s
  match whole, rest with
  | '0' :: _ :: _, _ => none
  | whole, '.' :: rest =>
    let (fraction, after) := spanDigits rest
    if fraction.isEmpty then some rest
    else afterExponent ((whole ++ fraction).all (· == '0')) after
  | whole, rest => afterExponent (whole.all (· == '0')) rest

/-- The text after a surplus item, or after what spoils it; none if nothing of it is taken. -/
def afterSurplus (s : List Char) : Option (List Char) :=
  match s with
  | [] => none
  | '"' :: rest => afterString .plain rest
  | 'n' :: rest => afterLetters ['u', 'l', 'l'] rest
  | 't' :: rest => afterLetters ['r', 'u', 'e'] rest
  | 'f' :: rest => afterLetters ['a', 'l', 's', 'e'] rest
  | '-' :: rest =>
    if (rest.head?.map Char.isDigit) = some true then afterDigits rest else dropBytes 1 rest
  | c :: rest => if c.isDigit then afterDigits (c :: rest) else none

def endOfWord (s : List Char) : Option (List Char) :=
  match skipBlanks s with
  | ']' :: rest => some rest
  | ',' :: rest =>
    match skipBlanks rest with
    | ']' :: rest => some rest
    | item =>
      match byteItem? item, (afterSurplus item).map skipBlanks with
      | none, some (']' :: rest) => some rest
      | _, _ => none
  | _ => none

def wordItems : (size : Nat) → (acc : List Json) → List Char → Option (Json × List Char)
  | 0, acc, s => (endOfWord s).map (.array acc.reverse, ·)
  | size + 1, acc, s =>
    match acc, skipBlanks s with
    | [], rest | _ :: _, ',' :: rest =>
      match byteItem? rest with
      | some (byte, rest) => wordItems size (byte :: acc) rest
      | none => none
    | _ :: _, _ => none

end SealedChain.Json.Reader
