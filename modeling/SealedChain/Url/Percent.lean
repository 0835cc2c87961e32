import SealedChain.Bytes.Word
import SealedChain.Text.Digits

/-!
# Percent escapes

A character that its part of a URL cannot hold is written as its UTF-8 bytes, each as two
upper-case digits after a percent sign.
-/
namespace SealedChain.Url

/-- The part of a URL that a character stands in. -/
inductive Part where
  | bare
  | fragment
  | query (special : Bool)
  | path
  | userInfo
  deriving DecidableEq, Repr

namespace Part

def reserved : Part → List Char
  | .bare => []
  | .fragment => [' ', '"', '<', '>', '\x60']
  | .query special => [' ', '"', '#', '<', '>'] ++ if special then ['\''] else []
  | .path => [' ', '"', '<', '>', '\x60', '#', '?', '{', '}']
  | .userInfo => [' ', '"', '<', '>', '\x60', '#', '?', '{', '}', '/', ':', ';', '=', '@', '[',
      '\\', ']', '^', '|']

def escapes (part : Part) (c : Char) : Bool :=
  c.toNat < 0x20 || 0x7e < c.toNat || part.reserved.contains c

end Part

def utf8 (cs : List Char) : Bytes := (String.ofList cs).toUTF8.toList

def escapeByte (b : UInt8) : List Char :=
  ['%', (Nat.digitChar (b.toNat / 16)).toUpper, (Nat.digitChar (b.toNat % 16)).toUpper]

/-- A text with the escapes that its part needs. -/
def escape (part : Part) (cs : List Char) : List Char :=
  cs.flatMap fun c => if part.escapes c then (utf8 [c]).flatMap escapeByte else [c]

def digitOf? (b : UInt8) : Option Nat := Digits.digit? 16 (Char.ofNat b.toNat)

/-- Bytes with each complete escape replaced by the byte that it stands for. -/
def unescape : Bytes → Bytes
  | [] => []
  | 0x25 :: high :: low :: rest =>
    match digitOf? high, digitOf? low with
    | some h, some l => UInt8.ofNat (16 * h + l) :: unescape rest
    | _, _ => 0x25 :: unescape (high :: low :: rest)
  | b :: rest => b :: unescape rest

def unescapedText? (cs : List Char) : Option (List Char) :=
  (String.fromUTF8? ⟨(unescape (utf8 cs)).toArray⟩).map String.toList

end SealedChain.Url
