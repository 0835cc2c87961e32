import SealedChain.Binary64.Basic
import SealedChain.Text.Digits

/-!
# Dynamic values

The values that requests and replies carry. Integers keep apart from doubles, so `1` and `1.0` are
two values. An object is a list of members in the order of their keys, each key once: `ofMembers`
builds it from members in any order, a later member taking the place of an earlier one.
-/
namespace SealedChain

inductive Json where
  | null
  | bool (b : Bool)
  | integer (i : Int)
  | real (x : Binary64)
  | string (s : String)
  | array (items : List Json)
  | object (members : List (String × Json))
  deriving Inhabited

namespace Json

mutual

def decEq : (v w : Json) → Decidable (v = w)
  | .null, w => match w with
    | .null => .isTrue rfl
    | .bool _ | .integer _ | .real _ | .string _ | .array _ | .object _ => .isFalse nofun
  | .bool a, w => match w with
    | .bool b => if h : a = b then .isTrue (h ▸ rfl) else .isFalse fun e => h (Json.bool.inj e)
    | .null | .integer _ | .real _ | .string _ | .array _ | .object _ => .isFalse nofun
  | .integer a, w => match w with
    | .integer b =>
      if h : a = b then .isTrue (h ▸ rfl) else .isFalse fun e => h (Json.integer.inj e)
    | .null | .bool _ | .real _ | .string _ | .array _ | .object _ => .isFalse nofun
  | .real a, w => match w with
    | .real b => if h : a = b then .isTrue (h ▸ rfl) else .isFalse fun e => h (Json.real.inj e)
    | .null | .bool _ | .integer _ | .string _ | .array _ | .object _ => .isFalse nofun
  | .string a, w => match w with
    | .string b => if h : a = b then .isTrue (h ▸ rfl) else .isFalse fun e => h (Json.string.inj e)
    | .null | .bool _ | .integer _ | .real _ | .array _ | .object _ => .isFalse nofun
  | .array a, w => match w with
    | .array b => match decEqItems a b with
      | .isTrue h => .isTrue (h ▸ rfl)
      | .isFalse h => .isFalse fun e => h (Json.array.inj e)
    | .null | .bool _ | .integer _ | .real _ | .string _ | .object _ => .isFalse nofun
  | .object a, w => match w with
    | .object b => match decEqMembers a b with
      | .isTrue h => .isTrue (h ▸ rfl)
      | .isFalse h => .isFalse fun e => h (Json.object.inj e)
    | .null | .bool _ | .integer _ | .real _ | .string _ | .array _ => .isFalse nofun

def decEqItems : (xs ys : List Json) → Decidable (xs = ys)
  | [], [] => .isTrue rfl
  | [], _ :: _ | _ :: _, [] => .isFalse nofun
  | x :: xs, y :: ys =>
    match decEq x y, decEqItems xs ys with
    | .isTrue h, .isTrue t => .isTrue (h ▸ t ▸ rfl)
    | .isFalse h, _ => .isFalse fun e => h (List.cons.inj e).1
    | _, .isFalse t => .isFalse fun e => t (List.cons.inj e).2

def decEqMembers : (xs ys : List (String × Json)) → Decidable (xs = ys)
  | [], [] => .isTrue rfl
  | [], _ :: _ | _ :: _, [] => .isFalse nofun
  | (j, x) :: xs, (k, y) :: ys =>
    if hk : j = k then
      match decEq x y, decEqMembers xs ys with
      | .isTrue h, .isTrue t => .isTrue (hk ▸ h ▸ t ▸ rfl)
      | .isFalse h, _ => .isFalse fun e => h (Prod.mk.inj (List.cons.inj e).1).2
      | _, .isFalse t => .isFalse fun e => t (List.cons.inj e).2
    else .isFalse fun e => hk (Prod.mk.inj (List.cons.inj e).1).1

end

instance : DecidableEq Json := decEq

def nat (n : Nat) : Json := .integer n

/-- The members with one more, in the place of any with the same key. -/
def insertMember (key : String) (value : Json) : List (String × Json) → List (String × Json)
  | [] => [(key, value)]
  | (k, v) :: rest =>
    if key < k then (key, value) :: (k, v) :: rest
    else if key = k then (key, value) :: rest
    else (k, v) :: insertMember key value rest

/-- The object with these members; of two with one key the later counts. -/
def ofMembers (members : List (String × Json)) : Json :=
  .object (members.foldl (fun acc (k, v) => insertMember k v acc) [])

/-- The first member with a key. -/
def lookup (key : String) : List (String × Json) → Option Json
  | [] => none
  | (k, v) :: rest => if key = k then some v else lookup key rest

/-- The member of an object with a key; other values have no members. -/
def get? (key : String) : Json → Option Json
  | .object members => lookup key members
  | _ => none

def isNumber : Json → Bool
  | .integer _ | .real _ => true
  | _ => false

def isString : Json → Bool
  | .string _ => true
  | _ => false

def unsigned? : Json → Option Nat
  | .integer i => if 0 ≤ i ∧ i < limit64 then some i.toNat else none
  | _ => none

def signed? : Json → Option Int
  | .integer i => if -0x8000000000000000 ≤ i ∧ i < 0x8000000000000000 then some i else none
  | _ => none

def bool? : Json → Option Bool
  | .bool b => some b
  | _ => none

def string? : Json → Option String
  | .string s => some s
  | _ => none

def array? : Json → Option (List Json)
  | .array items => some items
  | _ => none

theorem lookup_insertMember (j k : String) (v : Json) (members : List (String × Json)) :
    lookup j (insertMember k v members) = if j = k then some v else lookup j members := by
  induction members with
  | nil => simp [insertMember, lookup]
  | cons m rest ih =>
    obtain ⟨k', v'⟩ := m
    simp only [insertMember]
    split
    · simp [lookup]
    · split
      · rename_i h
        subst h
        by_cases hj : j = k <;> simp [lookup, hj]
      · rename_i h
        by_cases hj : j = k'
        · subst hj
          simp [lookup, Ne.symm h]
        · simp [lookup, hj, ih]

end Json

end SealedChain
