import SealedChain.Binary64.Shortest
import SealedChain.Json.Basic
import SealedChain.Text.Digits

/-!
# Values as text

The text of a value has no blanks. Strings escape the quote, the backslash and the control
characters below the space, and nothing else. Doubles are written with the fewest digits that read
back, in plain notation from `1e-5` up to `1e16` and in scientific notation outside.
-/
namespace SealedChain.Json

def escape (c : Char) : List Char :=
  if c = '"' then ['\\', '"']
  else if c = '\\' then ['\\', '\\']
  else if c = '\n' then ['\\', 'n']
  else if c = '\r' then ['\\', 'r']
  else if c = '\t' then ['\\', 't']
  else if c = '\x08' then ['\\', 'b']
  else if c = '\x0c' then ['\\', 'f']
  else if c.toNat < 0x20 then
    ['\\', 'u', '0', '0', Nat.digitChar (c.toNat / 16), Nat.digitChar (c.toNat % 16)]
  else [c]

def quoted (s : String) : List Char := '"' :: (s.toList.flatMap escape ++ ['"'])

/-- Digits with a point after the first `count` of them, both sides holding at least one digit. -/
def withPoint (digits : List Char) (count : Int) : List Char :=
  if count ≤ 0 then '0' :: '.' :: (List.replicate (-count).toNat '0' ++ digits)
  else if count < digits.length then
    digits.take count.toNat ++ '.' :: digits.drop count.toNat
  else digits ++ List.replicate (count.toNat - digits.length) '0' ++ ['.', '0']

def scientific (digits : List Char) (e : Int) : List Char :=
  let mantissa := match digits with
    | first :: second :: rest => first :: '.' :: second :: rest
    | _ => digits
  mantissa ++ 'e' :: (if e < 0 then '-' else '+') :: Digits.decimal e.natAbs

/-- The text of a double: plain when the point falls at most four places before the digits or
sixteen places into them. -/
def realChars (x : Binary64) : List Char :=
  let sign := if x.negative then ['-'] else []
  if x.isZero then sign ++ ['0', '.', '0']
  else
    let d := Binary64.shortest x.code
    let digits := Digits.decimal d.digits
    let count := digits.length + d.exponent
    sign ++ if -4 ≤ count ∧ count ≤ 16 then withPoint digits count
      else scientific digits (count - 1)

mutual

def chars : Json → List Char
  | .null => ['n', 'u', 'l', 'l']
  | .bool true => ['t', 'r', 'u', 'e']
  | .bool false => ['f', 'a', 'l', 's', 'e']
  | .integer i => Digits.signed i
  | .real x => realChars x
  | .string s => quoted s
  | .array items => '[' :: (itemChars items ++ [']'])
  | .object members => '{' :: (memberChars members ++ ['}'])

def itemChars : List Json → List Char
  | [] => []
  | [v] => chars v
  | v :: rest => chars v ++ ',' :: itemChars rest

def memberChars : List (String × Json) → List Char
  | [] => []
  | [(k, v)] => quoted k ++ ':' :: chars v
  | (k, v) :: rest => quoted k ++ ':' :: (chars v ++ ',' :: memberChars rest)

end

def render (v : Json) : String := String.ofList (chars v)

/-- The text of a structure: its members in the order given. -/
def renderStruct (members : List (String × Json)) : String := (Json.object members).render

end SealedChain.Json
