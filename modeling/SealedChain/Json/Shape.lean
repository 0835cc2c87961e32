import SealedChain.Json.Parser
import SealedChain.Json.Surplus

/-!
# Records straight from text

A record read straight from its text differs from one read by way of a dynamic value: a member that
it knows may not come twice, and a member that it does not know is passed over by its brackets
alone, at any depth, whatever its numbers and escapes. `parseAs` reads a text this way and returns
the members that the record knows, as the dynamic value that its decoder takes.
-/
namespace SealedChain.Json

/-- What a reader knows of a value before it reads it. -/
inductive Shape where
  | any
  | word (size : Nat)
  | list (item : Shape)
  | record (fields : List (String × Shape))

namespace Shape

def field? (key : String) : List (String × Shape) → Option Shape
  | [] => none
  | (k, shape) :: rest => if k = key then some shape else field? key rest

end Shape

end SealedChain.Json

namespace SealedChain.Json.Reader

inductive Bracket where
  | array
  | object
  deriving DecidableEq, Repr

/-- What comes next in a value that is passed over. -/
inductive Expected where
  | value
  | key
  | rest
  deriving DecidableEq, Repr

/-- The rest of the text after a string that is passed over: its escapes have to be complete, but
surrogates need no partner. -/
def skipString : (hex : Nat) → (escaped : Bool) → List Char → Option (List Char)
  | _, _, [] => none
  | hex + 1, _, c :: rest => if (Digits.digit? 16 c).isSome then skipString hex false rest else none
  | 0, true, c :: rest =>
    if c = 'u' then skipString 4 false rest
    else if (StringState.ofLetter? c).isSome then skipString 0 false rest
    else none
  | 0, false, c :: rest =>
    if c = '"' then some rest
    else if c = '\\' then skipString 0 true rest
    else if c.toNat < 0x20 then none
    else skipString 0 false rest

def skip : (fuel : Nat) → Expected → List Bracket → List Char → Option (List Char)
  | 0, _, _, _ => none
  | _ + 1, .rest, [], s => some s
  | fuel + 1, .rest, b :: outer, s =>
    match b, skipBlanks s with
    | .array, ',' :: r => skip fuel .value (b :: outer) r
    | .array, ']' :: r => skip fuel .rest outer r
    | .object, ',' :: r => skip fuel .key (b :: outer) r
    | .object, '}' :: r => skip fuel .rest outer r
    | _, _ => none
  | fuel + 1, .key, brackets, s =>
    match skipBlanks s with
    | '"' :: r =>
      match skipString 0 false r with
      | some r =>
        match skipBlanks r with
        | ':' :: r => skip fuel .value brackets r
        | _ => none
      | none => none
    | _ => none
  | fuel + 1, .value, brackets, s =>
    match skipBlanks s with
    | '"' :: r =>
      match skipString 0 false r with
      | some r => skip fuel .rest brackets r
      | none => none
    | '[' :: r =>
      match skipBlanks r with
      | ']' :: r => skip fuel .rest brackets r
      | r => skip fuel .value (.array :: brackets) r
    | '{' :: r =>
      match skipBlanks r with
      | '}' :: r => skip fuel .rest brackets r
      | r => skip fuel .key (.object :: brackets) r
    | 'n' :: 'u' :: 'l' :: 'l' :: r => skip fuel .rest brackets r
    | 't' :: 'r' :: 'u' :: 'e' :: r => skip fuel .rest brackets r
    | 'f' :: 'a' :: 'l' :: 's' :: 'e' :: r => skip fuel .rest brackets r
    | r =>
      match numeral r with
      | some (_, r) => skip fuel .rest brackets r
      | none => none

mutual

def shaped : (fuel depth : Nat) → Shape → List Char → Option (Json × List Char)
  | 0, _, _, _ => none
  | fuel + 1, depth, shape, s =>
    match shape, depth, skipBlanks s with
    | .record fields, depth + 1, '{' :: rest =>
      match skipBlanks rest with
      | '}' :: rest => some (.object [], rest)
      | rest => shapedMembers fuel depth fields [] rest
    | .record fields, depth + 1, '[' :: rest =>
      match skipBlanks rest with
      | ']' :: rest => some (.array [], rest)
      | rest => shapedItems fuel depth (fields.map (·.2)) .any [] rest
    | .list item, depth + 1, '[' :: rest =>
      match skipBlanks rest with
      | ']' :: rest => some (.array [], rest)
      | rest => shapedItems fuel depth [] item [] rest
    | .word size, _ + 1, '[' :: rest => wordItems size [] rest
    | _, depth, rest => value (fuel + 1) depth rest

/-- The items of an array, of the given shapes and then all of the last one. -/
def shapedItems : (fuel depth : Nat) → List Shape → Shape → List Json → List Char →
    Option (Json × List Char)
  | 0, _, _, _, _, _ => none
  | fuel + 1, depth, shapes, last, acc, s =>
    match shaped fuel depth (shapes.headD last) s with
    | none => none
    | some (v, rest) =>
      match skipBlanks rest with
      | ',' :: rest => shapedItems fuel depth shapes.tail last (v :: acc) rest
      | ']' :: rest => some (.array (v :: acc).reverse, rest)
      | _ => none

/-- The known members of a record, after those in `acc`. -/
def shapedMembers : (fuel depth : Nat) → List (String × Shape) → List (String × Json) →
    List Char → Option (Json × List Char)
  | 0, _, _, _, _ => none
  | fuel + 1, depth, fields, acc, s =>
    match skipBlanks s with
    | '"' :: rest =>
      match string rest with
      | none => none
      | some (key, rest) =>
        match skipBlanks rest with
        | ':' :: rest =>
          let read := match Shape.field? key fields with
            | some shape =>
              if (lookup key acc).isSome then none
              else (shaped fuel depth shape rest).map fun (v, rest) => ((key, v) :: acc, rest)
            | none => (skip fuel .value [] rest).map (acc, ·)
          match read with
          | none => none
          | some (acc, rest) =>
            match skipBlanks rest with
            | ',' :: rest => shapedMembers fuel depth fields acc rest
            | '}' :: rest => some (ofMembers acc, rest)
            | _ => none
        | _ => none
    | _ => none

end

end SealedChain.Json.Reader

namespace SealedChain.Json

open Reader

def parseAs (shape : Shape) (text : String) : Option Json :=
  let s := text.toList
  match shaped (2 * s.length + 2) maxDepth shape s with
  | some (v, rest) => if (skipBlanks rest).isEmpty then some v else none
  | none => none

end SealedChain.Json
