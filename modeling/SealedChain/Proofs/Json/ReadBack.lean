import SealedChain.Json.Codec
import SealedChain.Json.Parser
import SealedChain.Proofs.Json.Numeral

/-!
# Values read back

The text of a value without doubles, whose integers have sixty-four bits and whose arrays and
objects nest no deeper than the reader goes, is read as that value with the members of every object
in the order of their keys. The induction follows the printer; the fuel left is always twice the
text left.
-/
namespace SealedChain.Json

mutual

/-- Whether a value nests at most so deep and holds no doubles and only integers of sixty-four
bits. -/
def fits : Json → (depth : Nat) → Bool
  | .null, _ | .bool _, _ | .string _, _ => true
  | .integer i, _ => -0x8000000000000000 ≤ i ∧ i < limit64
  | .real _, _ => false
  | .array _, 0 | .object _, 0 => false
  | .array items, depth + 1 => fitsItems items depth
  | .object members, depth + 1 => fitsMembers members depth

def fitsItems : List Json → (depth : Nat) → Bool
  | [], _ => true
  | v :: rest, depth => v.fits depth && fitsItems rest depth

def fitsMembers : List (String × Json) → (depth : Nat) → Bool
  | [], _ => true
  | (_, v) :: rest, depth => v.fits depth && fitsMembers rest depth

end

theorem fits_nat {n : Nat} (h : n < limit64) (depth : Nat) : (nat n).fits depth = true := by
  rw [nat, fits]
  simp only [decide_eq_true_eq]
  omega

end SealedChain.Json

namespace SealedChain.Json.Reader

theorem skipBlanks_cons {c : Char} (h : isBlank c = false) (cs : List Char) :
    skipBlanks (c :: cs) = c :: cs := by
  simp [skipBlanks, h]

theorem isBlank_of_isDigit {c : Char} (h : c.isDigit = true) : isBlank c = false := by
  cases hb : isBlank c with
  | false => rfl
  | true =>
    simp only [isBlank, Bool.or_eq_true, beq_iff_eq] at hb
    rcases hb with ((rfl | rfl) | rfl) | rfl <;> simp at h

theorem signed_head (i : Int) :
    ∃ c cs, Digits.signed i = c :: cs ∧ (c = '-' ∨ c.isDigit = true) := by
  obtain ⟨c, cs, hcons⟩ := List.exists_cons_of_ne_nil
    (Nat.toDigits_ne_nil : Nat.toDigits 10 i.natAbs ≠ [])
  unfold Digits.signed
  split
  · exact ⟨_, _, rfl, .inl rfl⟩
  · refine ⟨c, cs, hcons, .inr (isDigit_decimal i.natAbs c ?_)⟩
    rw [Digits.decimal, hcons]
    exact List.mem_cons_self

theorem number_head {c : Char} (h : c = '-' ∨ c.isDigit = true) : isBlank c = false ∧ c ≠ ']' := by
  constructor
  · rcases h with rfl | h
    · decide
    · exact isBlank_of_isDigit h
  · rintro rfl
    simp at h

theorem chars_head (v : Json) : ∃ c cs, chars v = c :: cs ∧ isBlank c = false ∧ c ≠ ']' := by
  cases v with
  | null => exact ⟨_, _, rfl, by decide, by decide⟩
  | bool b => cases b <;> exact ⟨_, _, rfl, by decide, by decide⟩
  | integer i =>
    obtain ⟨c, cs, hcs, hc⟩ := signed_head i
    exact ⟨c, cs, hcs, number_head hc⟩
  | real x =>
    obtain ⟨n, hn, -⟩ := numeral_realChars x stops_nil
    obtain ⟨c, cs, hcs, hc⟩ := numeral_head hn
    rw [List.append_nil] at hcs
    exact ⟨c, cs, hcs, number_head hc⟩
  | string s => exact ⟨_, _, by rw [chars, quoted], by decide, by decide⟩
  | array items => exact ⟨_, _, by rw [chars], by decide, by decide⟩
  | object members => exact ⟨_, _, by rw [chars], by decide, by decide⟩

theorem itemChars_head (v : Json) (items : List Json) :
    ∃ c cs, itemChars (v :: items) = c :: cs ∧ isBlank c = false ∧ c ≠ ']' := by
  obtain ⟨c, cs, hcs, hblank, hclose⟩ := chars_head v
  cases items with
  | nil => exact ⟨c, cs, by rw [itemChars, hcs], hblank, hclose⟩
  | cons w rest =>
    exact ⟨c, cs ++ ',' :: itemChars (w :: rest), by simp [itemChars, hcs], hblank, hclose⟩

theorem value_number {c : Char} (hc : c = '-' ∨ c.isDigit = true) (fuel depth : Nat)
    (cs : List Char) : value (fuel + 1) depth (c :: cs) = number (c :: cs) := by
  rw [value, skipBlanks_cons (number_head hc).1]
  split
  all_goals first
    | rfl
    | rename_i heq
      obtain ⟨rfl, -⟩ := List.cons.inj heq
      simp at hc

theorem value_string (fuel depth : Nat) (s : String) (rest : List Char) :
    value (fuel + 1) depth (quoted s ++ rest) = some (.string s, rest) := by
  rw [quoted, List.cons_append, value, skipBlanks_cons rfl]
  simp only [List.append_assoc, List.singleton_append, string_quoted, Option.map_some]

theorem memberChars_head (k : String) (v : Json) (members : List (String × Json)) :
    ∃ cs, memberChars ((k, v) :: members) = '"' :: cs := by
  cases members with
  | nil => exact ⟨_, by rw [memberChars, quoted, List.cons_append]⟩
  | cons m rest => exact ⟨_, by simp only [memberChars, quoted, List.cons_append]; rfl⟩

theorem value_items {s rest : List Char} {c : Char} (hs : s = c :: rest)
    (hblank : isBlank c = false) (hclose : c ≠ ']') (fuel depth : Nat) :
    value (fuel + 1) (depth + 1) ('[' :: s) = Reader.items fuel depth [] s := by
  subst hs
  rw [value, skipBlanks_cons rfl]
  simp only [skipBlanks_cons hblank]
  split
  · rename_i heq
    exact absurd (List.cons.inj heq).1 hclose
  · rfl

theorem value_members {s rest : List Char} (hs : s = '"' :: rest) (fuel depth : Nat) :
    value (fuel + 1) (depth + 1) ('{' :: s) = Reader.members fuel depth [] s := by
  subst hs
  rw [value, skipBlanks_cons rfl]
  simp only [skipBlanks_cons (c := '"') rfl]
  split
  · rename_i heq
    simp at heq
  · rfl

theorem items_last {fuel depth : Nat} {s rest : List Char} {v : Json} (acc : List Json)
    (h : value fuel depth s = some (v, ']' :: rest)) :
    Reader.items (fuel + 1) depth acc s = some (.array (v :: acc).reverse, rest) := by
  rw [Reader.items, h]
  simp only [skipBlanks_cons (c := ']') rfl]

theorem items_next {fuel depth : Nat} {s rest : List Char} {v : Json} (acc : List Json)
    (h : value fuel depth s = some (v, ',' :: rest)) :
    Reader.items (fuel + 1) depth acc s = Reader.items fuel depth (v :: acc) rest := by
  rw [Reader.items, h]
  simp only [skipBlanks_cons (c := ',') rfl]

theorem members_none {fuel depth : Nat} {s : List Char} (k : String) (acc : List (String × Json))
    (h : value fuel depth s = none) :
    Reader.members (fuel + 1) depth acc (quoted k ++ ':' :: s) = none := by
  rw [quoted, List.cons_append, Reader.members, skipBlanks_cons rfl]
  simp only [List.append_assoc, List.singleton_append, string_quoted,
    skipBlanks_cons (c := ':') rfl, h]

theorem members_last {fuel depth : Nat} {s rest : List Char} {v : Json} (k : String)
    (acc : List (String × Json)) (h : value fuel depth s = some (v, '}' :: rest)) :
    Reader.members (fuel + 1) depth acc (quoted k ++ ':' :: s) =
      some (ofMembers ((k, v) :: acc).reverse, rest) := by
  rw [quoted, List.cons_append, Reader.members, skipBlanks_cons rfl]
  simp only [List.append_assoc, List.singleton_append, string_quoted,
    skipBlanks_cons (c := ':') rfl, h,
    skipBlanks_cons (c := '}') rfl]

theorem members_next {fuel depth : Nat} {s rest : List Char} {v : Json} (k : String)
    (acc : List (String × Json)) (h : value fuel depth s = some (v, ',' :: rest)) :
    Reader.members (fuel + 1) depth acc (quoted k ++ ':' :: s) =
      Reader.members fuel depth ((k, v) :: acc) rest := by
  rw [quoted, List.cons_append, Reader.members, skipBlanks_cons rfl]
  simp only [List.append_assoc, List.singleton_append, string_quoted,
    skipBlanks_cons (c := ':') rfl, h,
    skipBlanks_cons (c := ',') rfl]

mutual

theorem value_chars : ∀ (v : Json) {fuel depth : Nat} {rest : List Char},
    v.fits depth = true → Stops rest → 2 * (chars v).length ≤ fuel →
      value fuel depth (chars v ++ rest) = some (v.sorted, rest)
  | .null, fuel + 1, depth, rest, _, _, _ => by
    simp [chars, value, skipBlanks, isBlank, sorted]
  | .bool true, fuel + 1, depth, rest, _, _, _ => by
    simp [chars, value, skipBlanks, isBlank, sorted]
  | .bool false, fuel + 1, depth, rest, _, _, _ => by
    simp [chars, value, skipBlanks, isBlank, sorted]
  | .integer i, fuel + 1, depth, rest, h, hs, _ => by
    obtain ⟨c, cs, hcs, hc⟩ := signed_head i
    simp only [fits, decide_eq_true_eq] at h
    have hnumber := number_signed h.1 h.2 hs
    simp only [chars, sorted]
    rw [hcs, List.cons_append] at hnumber ⊢
    rw [value_number hc, hnumber]
  | .real x, _, _, _, h, _, _ => by simp [fits] at h
  | .string s, fuel + 1, depth, rest, _, _, _ => by
    simp only [chars, sorted, value_string]
  | .array [], fuel + 1, depth + 1, rest, _, _, _ => by
    simp [chars, itemChars, value, skipBlanks, isBlank, sorted, sortedItems]
  | .array (v :: items), fuel + 1, depth + 1, rest, h, _, hf => by
    simp only [fits] at h
    simp only [chars, List.length_cons, List.length_append, List.length_nil] at hf
    obtain ⟨c, cs, hcs, hblank, hclose⟩ := itemChars_head v items
    have hread := items_itemChars v items [] rest h
      (by omega : 2 * (itemChars (v :: items)).length < fuel)
    simp only [chars, sorted, List.cons_append, List.append_assoc, List.nil_append]
    rw [value_items (by rw [hcs, List.cons_append]) hblank hclose, hread]
    rfl
  | .object [], fuel + 1, depth + 1, rest, _, _, _ => by
    simp [chars, memberChars, value, skipBlanks, isBlank, sorted, sortedMembers, ofMembers]
  | .object ((k, v) :: members), fuel + 1, depth + 1, rest, h, _, hf => by
    simp only [fits] at h
    simp only [chars, List.length_cons, List.length_append, List.length_nil] at hf
    obtain ⟨cs, hcs⟩ := memberChars_head k v members
    have hread := members_memberChars k v members [] rest h
      (by omega : 2 * (memberChars ((k, v) :: members)).length < fuel)
    simp only [chars, sorted, List.cons_append, List.append_assoc, List.nil_append]
    rw [value_members (by rw [hcs, List.cons_append]), hread]
    rfl
  | .array _, _, 0, _, h, _, _ => by simp [fits] at h
  | .object _, _, 0, _, h, _, _ => by simp [fits] at h
  | v, 0, depth, rest, h, _, hf => by
    obtain ⟨c, cs, hcs, -⟩ := chars_head v
    simp [hcs] at hf

theorem items_itemChars : ∀ (v : Json) (items acc : List Json) (rest : List Char)
    {fuel depth : Nat}, fitsItems (v :: items) depth = true →
      2 * (itemChars (v :: items)).length < fuel →
      Reader.items fuel depth acc (itemChars (v :: items) ++ ']' :: rest) =
        some (.array (acc.reverse ++ sortedItems (v :: items)), rest)
  | v, [], acc, rest, fuel + 1, depth, h, hf => by
    simp only [fitsItems, Bool.and_eq_true] at h
    simp only [itemChars] at hf
    have hvalue := value_chars v h.1 (stops_bracket rest) (by omega : 2 * (chars v).length ≤ fuel)
    simp only [itemChars, sortedItems]
    rw [items_last acc hvalue, List.reverse_cons]
  | v, w :: items, acc, rest, fuel + 1, depth, h, hf => by
    rw [fitsItems, Bool.and_eq_true] at h
    simp only [itemChars, List.length_append, List.length_cons] at hf
    have hvalue := value_chars v h.1 (stops_comma (itemChars (w :: items) ++ ']' :: rest))
      (by omega : 2 * (chars v).length ≤ fuel)
    have hread := items_itemChars w items (v.sorted :: acc) rest h.2
      (by omega : 2 * (itemChars (w :: items)).length < fuel)
    simp only [itemChars, List.append_assoc, List.cons_append]
    rw [items_next acc hvalue, hread]
    simp [sortedItems]

theorem members_memberChars : ∀ (k : String) (v : Json) (members acc : List (String × Json))
    (rest : List Char) {fuel depth : Nat},
    fitsMembers ((k, v) :: members) depth = true →
      2 * (memberChars ((k, v) :: members)).length < fuel →
      Reader.members fuel depth acc (memberChars ((k, v) :: members) ++ '}' :: rest) =
        some (ofMembers (acc.reverse ++ sortedMembers ((k, v) :: members)), rest)
  | k, v, [], acc, rest, fuel + 1, depth, h, hf => by
    simp only [fitsMembers, Bool.and_eq_true] at h
    simp only [memberChars, List.length_append, List.length_cons] at hf
    have hvalue := value_chars v h.1 (stops_brace rest) (by omega : 2 * (chars v).length ≤ fuel)
    simp only [memberChars, sortedMembers, List.append_assoc, List.cons_append]
    rw [members_last k acc hvalue, List.reverse_cons]
  | k, v, (j, w) :: members, acc, rest, fuel + 1, depth, h, hf => by
    rw [fitsMembers, Bool.and_eq_true] at h
    simp only [memberChars, List.length_append, List.length_cons] at hf
    have hvalue := value_chars v h.1 (stops_comma (memberChars ((j, w) :: members) ++ '}' :: rest))
      (by omega : 2 * (chars v).length ≤ fuel)
    have hread := members_memberChars j w members ((k, v.sorted) :: acc) rest h.2
      (by omega : 2 * (memberChars ((j, w) :: members)).length < fuel)
    simp only [memberChars, List.append_assoc, List.cons_append]
    rw [members_next k acc hvalue, hread]
    simp [sortedMembers]

end

end SealedChain.Json.Reader

namespace SealedChain.Json

open Reader

/-- The text of a value that fits is read as the value with its members in order. -/
theorem parse_render {v : Json} (h : v.fits maxDepth = true) : parse v.render = some v.sorted := by
  have hvalue := value_chars v h stops_nil
    (by omega : 2 * (chars v).length ≤ 2 * (chars v).length + 2)
  rw [List.append_nil] at hvalue
  rw [parse, render, String.toList_ofList, parseChars, hvalue]
  rfl

end SealedChain.Json
