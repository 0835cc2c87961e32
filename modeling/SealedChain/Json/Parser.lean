import SealedChain.Json.Lexeme

/-!
# Values from text

`parse` reads a whole text as one value: arrays and objects nest at most `maxDepth` deep, nothing
but blanks may follow, and of two members with one key the later counts. The fuel of the readers
is twice the length of the text, since every second step takes a character.
-/
namespace SealedChain.Json.Reader

def maxDepth : Nat := 127

mutual

def value : (fuel depth : Nat) → List Char → Option (Json × List Char)
  | 0, _, _ => none
  | fuel + 1, depth, s =>
    match skipBlanks s with
    | '"' :: rest => (string rest).map fun (x, rest) => (.string x, rest)
    | '[' :: rest =>
      match depth with
      | 0 => none
      | depth + 1 =>
        match skipBlanks rest with
        | ']' :: rest => some (.array [], rest)
        | rest => items fuel depth [] rest
    | '{' :: rest =>
      match depth with
      | 0 => none
      | depth + 1 =>
        match skipBlanks rest with
        | '}' :: rest => some (.object [], rest)
        | rest => members fuel depth [] rest
    | 'n' :: 'u' :: 'l' :: 'l' :: rest => some (.null, rest)
    | 't' :: 'r' :: 'u' :: 'e' :: rest => some (.bool true, rest)
    | 'f' :: 'a' :: 'l' :: 's' :: 'e' :: rest => some (.bool false, rest)
    | rest => number rest

/-- The items of an array up to its end, after those in `acc` (last one first). -/
def items : (fuel depth : Nat) → List Json → List Char → Option (Json × List Char)
  | 0, _, _, _ => none
  | fuel + 1, depth, acc, s =>
    match value fuel depth s with
    | none => none
    | some (v, rest) =>
      match skipBlanks rest with
      | ',' :: rest => items fuel depth (v :: acc) rest
      | ']' :: rest => some (.array (v :: acc).reverse, rest)
      | _ => none

def members : (fuel depth : Nat) → List (String × Json) → List Char → Option (Json × List Char)
  | 0, _, _, _ => none
  | fuel + 1, depth, acc, s =>
    match skipBlanks s with
    | '"' :: rest =>
      match string rest with
      | none => none
      | some (key, rest) =>
        match skipBlanks rest with
        | ':' :: rest =>
          match value fuel depth rest with
          | none => none
          | some (v, rest) =>
            match skipBlanks rest with
            | ',' :: rest => members fuel depth ((key, v) :: acc) rest
            | '}' :: rest => some (ofMembers ((key, v) :: acc).reverse, rest)
            | _ => none
        | _ => none
    | _ => none

end

end SealedChain.Json.Reader

namespace SealedChain.Json

open Reader

def parseChars (s : List Char) : Option Json :=
  match value (2 * s.length + 2) maxDepth s with
  | some (v, rest) => if (skipBlanks rest).isEmpty then some v else none
  | none => none

def parse (text : String) : Option Json := parseChars text.toList

/-- The value that a byte string stands for: it has to be UTF-8 text. -/
def parseBytes (bytes : ByteArray) : Option Json :=
  match String.fromUTF8? bytes with
  | some text => parse text
  | none => none

end SealedChain.Json
