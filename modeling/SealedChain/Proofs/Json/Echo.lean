import Mathlib.Data.List.Forall2
import SealedChain.Proofs.Json.Passage
import SealedChain.Proofs.Json.Range

/-!
# Objects read again

What a reader makes of the text of a value may be another value, since a double need not be read as
the one that was written. But of an object that is read again it finds the keys that were written, and
under each of them a value that is null only where null was written and that is the written one if it
fits.
-/
namespace SealedChain.Json

/-- What a reader can make of a value that was written at this depth. -/
structure Echoes (depth : Nat) (v w : Json) : Prop where
  read : v.fits depth = true → w = v.sorted
  null : w = .null → v = .null

def EchoesMember (depth : Nat) (m n : String × Json) : Prop := n.1 = m.1 ∧ Echoes depth m.2 n.2

theorem Echoes.of_rel {depth : Nat} {v : Json} {found : Option Json}
    (h : Option.Rel (Echoes depth) (some v) found) : ∃ w, found = some w ∧ Echoes depth v w := by
  cases h with
  | some h => exact ⟨_, rfl, h⟩

theorem eq_map_sorted_of_rel {depth : Nat} {written found : Option Json}
    (h : Option.Rel (Echoes depth) written found)
    (hfits : ∀ v, written = some v → v.fits depth = true) : found = written.map sorted := by
  cases h with
  | some h => rw [h.read (hfits _ rfl), Option.map_some]
  | none => rfl

namespace Reader

/-- Null is read only where null was written. -/
theorem null_of_value {v : Json} {fuel depth : Nat} {rest r : List Char} (hs : Stops rest)
    (h : value fuel depth (chars v ++ rest) = some (.null, r)) : v = .null := by
  obtain ⟨fuel, rfl⟩ : ∃ n, fuel = n + 1 := by
    cases fuel with
    | zero => simp [value] at h
    | succ n => exact ⟨n, rfl⟩
  have hnumber : ∀ s, number s ≠ some (.null, r) := fun s hread => by
    rcases number_cases hread with ⟨x, hx⟩ | ⟨i, hi, -⟩
    · cases hx
    · cases hi
  cases v with
  | null => rfl
  | bool b => cases b <;> simp [chars, value, skipBlanks, isBlank] at h
  | integer i =>
    obtain ⟨c, cs, hcs, hc⟩ := numeral_head (numeral_signed i hs)
    rw [chars, hcs, value_number hc] at h
    exact absurd h (hnumber _)
  | real x =>
    obtain ⟨n, hn, -⟩ := numeral_realChars x hs
    obtain ⟨c, cs, hcs, hc⟩ := numeral_head hn
    rw [chars, hcs, value_number hc] at h
    exact absurd h (hnumber _)
  | string s => simp [chars, value_string] at h
  | array items =>
    obtain ⟨-, ws, hw⟩ := array_leaves items hs h
    cases hw
  | object members =>
    cases depth with
    | zero => simp [chars, value, skipBlanks, isBlank] at h
    | succ depth =>
      cases members with
      | nil => simp [chars, memberChars, value, skipBlanks, isBlank] at h
      | cons m members =>
        obtain ⟨cs, hcs⟩ := memberChars_head m.1 m.2 members
        simp only [chars, List.cons_append, List.append_assoc] at h
        rw [value_members (by rw [hcs, List.cons_append])] at h
        obtain ⟨members, hw⟩ := object_of_members h
        cases hw

theorem value_echoes {v w : Json} {fuel depth : Nat} {rest r : List Char} (hs : Stops rest)
    (hf : 2 * (chars v).length ≤ fuel) (h : value fuel depth (chars v ++ rest) = some (w, r)) :
    r = rest ∧ Echoes depth v w := by
  refine ⟨value_leaves v hs h, fun hfits => ?_, ?_⟩
  · rw [value_chars v hfits hs hf] at h
    exact (congrArg Prod.fst (Option.some.inj h)).symm
  · rintro rfl
    exact null_of_value hs h

theorem members_echo : ∀ (k : String) (v : Json) (members acc : List (String × Json))
    {fuel depth : Nat} {rest r : List Char} {w : Json},
    2 * (memberChars ((k, v) :: members)).length < fuel →
      Reader.members fuel depth acc (memberChars ((k, v) :: members) ++ '}' :: rest) =
        some (w, r) →
      r = rest ∧ ∃ read, w = ofMembers (acc.reverse ++ read) ∧
        List.Forall₂ (EchoesMember depth) ((k, v) :: members) read
  | _, _, _, _, 0, _, _, _, _, hf, _ => absurd hf (Nat.not_lt_zero _)
  | k, v, [], acc, fuel + 1, depth, rest, r, w, hf, h => by
    simp only [memberChars, List.length_append, List.length_cons] at hf
    simp only [memberChars, List.append_assoc, List.cons_append] at h
    cases hv : value fuel depth (chars v ++ '}' :: rest) with
    | none => simp [members_none k acc hv] at h
    | some read =>
      obtain ⟨x, s⟩ := read
      obtain ⟨rfl, hecho⟩ := value_echoes (stops_brace rest) (by omega) hv
      rw [members_last k acc hv, List.reverse_cons] at h
      obtain ⟨rfl, rfl⟩ := Prod.mk.inj (Option.some.inj h)
      exact ⟨rfl, [(k, x)], rfl, .cons ⟨rfl, hecho⟩ .nil⟩
  | k, v, (j, u) :: members, acc, fuel + 1, depth, rest, r, w, hf, h => by
    simp only [memberChars, List.length_append, List.length_cons] at hf
    simp only [memberChars, List.append_assoc, List.cons_append] at h
    cases hv : value fuel depth
        (chars v ++ ',' :: (memberChars ((j, u) :: members) ++ '}' :: rest)) with
    | none => simp [members_none k acc hv] at h
    | some read =>
      obtain ⟨x, s⟩ := read
      obtain ⟨rfl, hecho⟩ := value_echoes (stops_comma _) (by omega) hv
      rw [members_next k acc hv] at h
      obtain ⟨rfl, read, rfl, hread⟩ := members_echo j u members ((k, x) :: acc) (by omega) h
      exact ⟨rfl, (k, x) :: read, by simp, .cons ⟨rfl, hecho⟩ hread⟩

end Reader

open Reader

theorem lookup_echo {depth : Nat} {members read : List (String × Json)}
    (h : List.Forall₂ (EchoesMember depth) members read) (key : String) :
    Option.Rel (Echoes depth) (lookup key members) (lookup key read) := by
  induction h with
  | nil => exact .none
  | @cons m n _ _ hm _ ih =>
    obtain ⟨k, v⟩ := m
    obtain ⟨_, w⟩ := n
    obtain ⟨rfl, hecho⟩ := hm
    simp only [lookup]
    split
    · exact .some hecho
    · exact ih

/-- An object with its members in order that is read again is an object, with an echo of what was
written under each key. -/
theorem parse_object_echo {members : List (String × Json)} (ho : Ordered members) {w : Json}
    (h : parse (Json.object members).render = some w) :
    ∃ read, w = .object read ∧
      ∀ key, Option.Rel (Echoes 126) (lookup key members) (lookup key read) := by
  have hlookup : ∀ key members, lookup key (insertAll [] members) = lookup key members.reverse :=
    fun key members => by simp [lookup_insertAll, lookup]
  rw [parse, render, String.toList_ofList, parseChars] at h
  split at h
  · rename_i v rest hvalue
    split at h
    · obtain rfl := Option.some.inj h
      obtain ⟨read, rfl, hread⟩ : ∃ read, v = ofMembers read ∧
          List.Forall₂ (EchoesMember 126) members read := by
        cases members with
        | nil =>
          simp [chars, memberChars, value, skipBlanks, isBlank, maxDepth] at hvalue
          exact ⟨[], hvalue.1.symm, .nil⟩
        | cons m members =>
          obtain ⟨k, u⟩ := m
          obtain ⟨cs, hcs⟩ := memberChars_head k u members
          simp only [chars, List.length_cons, List.length_append] at hvalue
          rw [maxDepth, value_members (by rw [hcs, List.cons_append])] at hvalue
          exact (members_echo k u members [] (by omega) hvalue).2
      refine ⟨_, ofMembers_eq read, fun key => ?_⟩
      have hsame : insertAll [] members = members := insertAll_ordered ho
      rw [hlookup, ← hsame, hlookup]
      exact lookup_echo (List.rel_reverse hread) key
    · cases h
  · cases h

end SealedChain.Json
