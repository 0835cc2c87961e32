import SealedChain.Json.Codec

/-!
# Block tags

A tag names a block by its role or by its height. A height is written in hexadecimal after `0x`
and may be read with a plus sign before its digits.
-/
namespace SealedChain

inductive BlockTag where
  | latest
  | finalized
  | safe
  | earliest
  | pending
  | number (n : Nat)
  deriving DecidableEq, Repr

namespace BlockTag

inductive ParseError where
  | unknownTag (text : String)
  | badNumber (text : String)
  deriving DecidableEq, Repr

def ParseError.message : ParseError → String
  | .unknownTag text => "Invalid block tag: " ++ text
  | .badNumber text => "Invalid block number: " ++ text

def display : BlockTag → String
  | .latest => "latest"
  | .finalized => "finalized"
  | .safe => "safe"
  | .earliest => "earliest"
  | .pending => "pending"
  | .number n => Json.quantityText n

def parse (text : String) : Except ParseError BlockTag :=
  if text = "latest" then .ok .latest
  else if text = "finalized" then .ok .finalized
  else if text = "safe" then .ok .safe
  else if text = "earliest" then .ok .earliest
  else if text = "pending" then .ok .pending
  else match text.toList with
    | '0' :: 'x' :: digits =>
      match Digits.below? limit64 16 digits with
      | some n => .ok (.number n)
      | none => .error (.badNumber text)
    | _ => .error (.unknownTag text)

def toJson (t : BlockTag) : Json := .string t.display

def ofJson? : Json → Option BlockTag
  | .string s => (parse s).toOption
  | _ => none

end BlockTag

end SealedChain
