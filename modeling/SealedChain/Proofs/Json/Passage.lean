import SealedChain.Json.Shape
import SealedChain.Proofs.Json.ReadBack

/-!
# Printed values passed over

Of the text of a value, whatever it holds and however deep it nests, the reader either takes all or
fails. A value that is passed over by its brackets alone is always passed over whole: every step
takes a character, so the fuel lasts.
-/
namespace SealedChain.Json.Reader

theorem number_leaves {s rest r : List Char} {n : Numeral} (hs : numeral s = some (n, rest))
    {w : Json} (h : number s = some (w, r)) : r = rest := by
  simp only [number, hs, Option.map_eq_some_iff, Prod.mk.injEq] at h
  obtain ⟨-, -, -, rfl⟩ := h
  rfl

mutual

/-- The reader that gets through the text of a value leaves what follows it. -/
theorem value_leaves : ∀ (v : Json) {fuel depth : Nat} {rest r : List Char} {w : Json},
    Stops rest → value fuel depth (chars v ++ rest) = some (w, r) → r = rest
  | _, 0, _, _, _, _, _, h => by simp [value] at h
  | .null, fuel + 1, depth, rest, r, w, _, h
  | .bool true, fuel + 1, depth, rest, r, w, _, h
  | .bool false, fuel + 1, depth, rest, r, w, _, h => by
    simp [chars, value, skipBlanks, isBlank] at h
    exact h.2.symm
  | .integer i, fuel + 1, depth, rest, r, w, hs, h => by
    have hn := numeral_signed i hs
    obtain ⟨c, cs, hcs, hc⟩ := numeral_head hn
    simp only [chars] at h
    rw [hcs, value_number hc, ← hcs] at h
    exact number_leaves hn h
  | .real x, fuel + 1, depth, rest, r, w, hs, h => by
    obtain ⟨n, hn, -⟩ := numeral_realChars x hs
    obtain ⟨c, cs, hcs, hc⟩ := numeral_head hn
    simp only [chars] at h
    rw [hcs, value_number hc, ← hcs] at h
    exact number_leaves hn h
  | .string s, fuel + 1, depth, rest, r, w, _, h => by
    simp only [chars, value_string] at h
    exact (Prod.mk.inj (Option.some.inj h)).2.symm
  | .array _, fuel + 1, 0, rest, r, w, _, h => by
    simp [chars, value, skipBlanks, isBlank] at h
  | .object _, fuel + 1, 0, rest, r, w, _, h => by
    simp [chars, value, skipBlanks, isBlank] at h
  | .array [], fuel + 1, depth + 1, rest, r, w, _, h => by
    simp [chars, itemChars, value, skipBlanks, isBlank] at h
    exact h.2.symm
  | .array (v :: items), fuel + 1, depth + 1, rest, r, w, _, h => by
    obtain ⟨c, cs, hcs, hblank, hclose⟩ := itemChars_head v items
    simp only [chars, List.cons_append, List.append_assoc, List.nil_append] at h
    rw [value_items (by rw [hcs, List.cons_append]) hblank hclose] at h
    exact (items_leaves v items [] h).1
  | .object [], fuel + 1, depth + 1, rest, r, w, _, h => by
    simp [chars, memberChars, value, skipBlanks, isBlank] at h
    exact h.2.symm
  | .object ((k, v) :: members), fuel + 1, depth + 1, rest, r, w, _, h => by
    obtain ⟨cs, hcs⟩ := memberChars_head k v members
    simp only [chars, List.cons_append, List.append_assoc, List.nil_append] at h
    rw [value_members (by rw [hcs, List.cons_append])] at h
    exact members_leaves k v members [] h

theorem items_leaves : ∀ (v : Json) (items acc : List Json) {fuel depth : Nat}
    {rest r : List Char} {w : Json},
    Reader.items fuel depth acc (itemChars (v :: items) ++ ']' :: rest) = some (w, r) →
      r = rest ∧ ∃ ws, w = .array ws
  | _, _, _, 0, _, _, _, _, h => by simp [Reader.items] at h
  | v, [], acc, fuel + 1, depth, rest, r, w, h => by
    simp only [itemChars] at h
    cases hv : value fuel depth (chars v ++ ']' :: rest) with
    | none => simp [Reader.items, hv] at h
    | some read =>
      obtain ⟨x, s⟩ := read
      obtain rfl := value_leaves v (stops_bracket rest) hv
      rw [items_last acc hv] at h
      obtain ⟨rfl, rfl⟩ := Prod.mk.inj (Option.some.inj h)
      exact ⟨rfl, _, rfl⟩
  | v, u :: items, acc, fuel + 1, depth, rest, r, w, h => by
    simp only [itemChars, List.append_assoc, List.cons_append] at h
    cases hv : value fuel depth (chars v ++ ',' :: (itemChars (u :: items) ++ ']' :: rest)) with
    | none => simp [Reader.items, hv] at h
    | some read =>
      obtain ⟨x, s⟩ := read
      obtain rfl := value_leaves v (stops_comma _) hv
      rw [items_next acc hv] at h
      exact items_leaves u items (x :: acc) h

theorem members_leaves : ∀ (k : String) (v : Json) (members acc : List (String × Json))
    {fuel depth : Nat} {rest r : List Char} {w : Json},
    Reader.members fuel depth acc (memberChars ((k, v) :: members) ++ '}' :: rest) = some (w, r) →
      r = rest
  | _, _, _, _, 0, _, _, _, _, h => by simp [Reader.members] at h
  | k, v, [], acc, fuel + 1, depth, rest, r, w, h => by
    simp only [memberChars, List.append_assoc, List.cons_append] at h
    cases hv : value fuel depth (chars v ++ '}' :: rest) with
    | none => simp [members_none k acc hv] at h
    | some read =>
      obtain ⟨x, s⟩ := read
      obtain rfl := value_leaves v (stops_brace rest) hv
      rw [members_last k acc hv] at h
      exact (Prod.mk.inj (Option.some.inj h)).2.symm
  | k, v, (j, u) :: members, acc, fuel + 1, depth, rest, r, w, h => by
    simp only [memberChars, List.append_assoc, List.cons_append] at h
    cases hv : value fuel depth
        (chars v ++ ',' :: (memberChars ((j, u) :: members) ++ '}' :: rest)) with
    | none => simp [members_none k acc hv] at h
    | some read =>
      obtain ⟨x, s⟩ := read
      obtain rfl := value_leaves v (stops_comma _) hv
      rw [members_next k acc hv] at h
      exact members_leaves j u members ((k, x) :: acc) h

end

theorem array_leaves : ∀ (items : List Json) {fuel depth : Nat} {rest r : List Char} {w : Json},
    Stops rest → value fuel depth (chars (.array items) ++ rest) = some (w, r) →
      r = rest ∧ ∃ ws, w = .array ws
  | _, 0, _, _, _, _, _, h => by simp [value] at h
  | _, fuel + 1, 0, rest, r, w, _, h => by simp [chars, value, skipBlanks, isBlank] at h
  | [], fuel + 1, depth + 1, rest, r, w, _, h => by
    simp [chars, itemChars, value, skipBlanks, isBlank] at h
    exact ⟨h.2.symm, [], h.1.symm⟩
  | v :: items, fuel + 1, depth + 1, rest, r, w, _, h => by
    obtain ⟨c, cs, hcs, hblank, hclose⟩ := itemChars_head v items
    simp only [chars, List.cons_append, List.append_assoc, List.nil_append] at h
    rw [value_items (by rw [hcs, List.cons_append]) hblank hclose] at h
    exact items_leaves v items [] h

/-! ### Passing over -/

theorem skipString_escape (c : Char) (rest : List Char) :
    skipString 0 false (escape c ++ rest) = skipString 0 false rest := by
  unfold escape
  split
  · simp [skipString, StringState.ofLetter?]
  split
  · simp [skipString, StringState.ofLetter?]
  split
  · simp [skipString, StringState.ofLetter?]
  split
  · simp [skipString, StringState.ofLetter?]
  split
  · simp [skipString, StringState.ofLetter?]
  split
  · simp [skipString, StringState.ofLetter?]
  split
  · simp [skipString, StringState.ofLetter?]
  split
  · rename_i hc
    have hzero : Digits.digit? 16 '0' = some 0 := by decide
    have hhigh := Digits.digit?_digitChar (by decide : 16 ≤ 16) (by omega : c.toNat / 16 < 16)
    have hlow := Digits.digit?_digitChar (by decide : 16 ≤ 16) (by omega : c.toNat % 16 < 16)
    simp [skipString, hzero, hhigh, hlow]
  · rename_i hquote hslash _ _ _ _ _ hc
    simp [skipString, hquote, hslash, hc]

theorem skipString_quoted (cs rest : List Char) :
    skipString 0 false (cs.flatMap escape ++ '"' :: rest) = some rest := by
  induction cs with
  | nil => simp [skipString]
  | cons c cs ih =>
    rw [List.flatMap_cons, List.append_assoc, skipString_escape]
    exact ih

theorem skip_string (fuel : Nat) (brackets : List Bracket) (s : String) (rest : List Char) :
    skip (fuel + 1) .value brackets (quoted s ++ rest) = skip fuel .rest brackets rest := by
  rw [quoted, List.cons_append, skip, skipBlanks_cons rfl]
  simp only [List.append_assoc, List.singleton_append, skipString_quoted]

theorem skip_key (fuel : Nat) (brackets : List Bracket) (k : String) (rest : List Char) :
    skip (fuel + 1) .key brackets (quoted k ++ ':' :: rest) = skip fuel .value brackets rest := by
  rw [quoted, List.cons_append, skip, skipBlanks_cons rfl]
  simp only [List.append_assoc, List.singleton_append, skipString_quoted,
    skipBlanks_cons (c := ':') rfl]

theorem skip_number {s rest : List Char} {n : Numeral} (h : numeral s = some (n, rest))
    (fuel : Nat) (brackets : List Bracket) :
    skip (fuel + 1) .value brackets s = skip fuel .rest brackets rest := by
  obtain ⟨c, cs, rfl, hc⟩ := numeral_head h
  rw [skip, skipBlanks_cons (number_head hc).1]
  split
  all_goals first
    | simp only [h]
    | rename_i heq
      obtain ⟨rfl, -⟩ := List.cons.inj heq
      simp at hc

theorem skip_items {s rest : List Char} {c : Char} (hs : s = c :: rest) (hblank : isBlank c = false)
    (hclose : c ≠ ']') (fuel : Nat) (brackets : List Bracket) :
    skip (fuel + 1) .value brackets ('[' :: s) = skip fuel .value (.array :: brackets) s := by
  subst hs
  rw [skip, skipBlanks_cons rfl]
  simp only [skipBlanks_cons hblank]
  split
  · rename_i heq
    exact absurd (List.cons.inj heq).1 hclose
  · rfl

theorem skip_members {s rest : List Char} (hs : s = '"' :: rest) (fuel : Nat)
    (brackets : List Bracket) :
    skip (fuel + 1) .value brackets ('{' :: s) = skip fuel .key (.object :: brackets) s := by
  subst hs
  rw [skip, skipBlanks_cons rfl]
  simp only [skipBlanks_cons (c := '"') rfl]
  split
  · rename_i heq
    simp at heq
  · rfl

/-- What follows a value inside brackets: a comma, or the end of the brackets. -/
theorem skip_rest (fuel : Nat) (outer : List Bracket) (rest : List Char) :
    skip (fuel + 1) .rest (.array :: outer) (',' :: rest) = skip fuel .value (.array :: outer) rest ∧
    skip (fuel + 1) .rest (.array :: outer) (']' :: rest) = skip fuel .rest outer rest ∧
    skip (fuel + 1) .rest (.object :: outer) (',' :: rest) = skip fuel .key (.object :: outer) rest ∧
    skip (fuel + 1) .rest (.object :: outer) ('}' :: rest) = skip fuel .rest outer rest := by
  refine ⟨?_, ?_, ?_, ?_⟩ <;> simp [skip, skipBlanks, isBlank]

mutual

/-- A value is passed over in no more steps than its text has characters. -/
theorem skip_chars : ∀ v : Json, ∃ n ≤ (chars v).length, ∀ fuel brackets rest, Stops rest →
    skip (fuel + n) .value brackets (chars v ++ rest) = skip fuel .rest brackets rest
  | .null | .bool true | .bool false => by
    refine ⟨1, by simp [chars], fun fuel brackets rest _ => ?_⟩
    simp [chars, skip, skipBlanks, isBlank]
  | .integer i => by
    obtain ⟨c, cs, hcs, -⟩ := signed_head i
    refine ⟨1, by simp [chars, hcs], fun fuel brackets rest hs => ?_⟩
    exact skip_number (numeral_signed i hs) fuel brackets
  | .real x => by
    obtain ⟨c, cs, hcs, -⟩ := chars_head (.real x)
    refine ⟨1, by simp [hcs], fun fuel brackets rest hs => ?_⟩
    obtain ⟨n, hn, -⟩ := numeral_realChars x hs
    exact skip_number hn fuel brackets
  | .string s => by
    refine ⟨1, by simp [chars, quoted], fun fuel brackets rest _ => ?_⟩
    simp only [chars, skip_string]
  | .array [] => by
    refine ⟨1, by simp [chars], fun fuel brackets rest _ => ?_⟩
    simp [chars, itemChars, skip, skipBlanks, isBlank]
  | .array (v :: items) => by
    obtain ⟨n, hn, hskip⟩ := skip_itemChars v items
    obtain ⟨c, cs, hcs, hblank, hclose⟩ := itemChars_head v items
    refine ⟨n + 1, ?_, fun fuel brackets rest _ => ?_⟩
    · simp only [chars, List.length_cons, List.length_append, List.length_nil]
      omega
    · simp only [chars, List.cons_append, List.append_assoc, List.nil_append]
      rw [← Nat.add_assoc, skip_items (by rw [hcs, List.cons_append]) hblank hclose, hskip]
  | .object [] => by
    refine ⟨1, by simp [chars], fun fuel brackets rest _ => ?_⟩
    simp [chars, memberChars, skip, skipBlanks, isBlank]
  | .object ((k, v) :: members) => by
    obtain ⟨n, hn, hskip⟩ := skip_memberChars k v members
    obtain ⟨cs, hcs⟩ := memberChars_head k v members
    refine ⟨n + 1, ?_, fun fuel brackets rest _ => ?_⟩
    · simp only [chars, List.length_cons, List.length_append, List.length_nil]
      omega
    · simp only [chars, List.cons_append, List.append_assoc, List.nil_append]
      rw [← Nat.add_assoc, skip_members (by rw [hcs, List.cons_append]), hskip]
termination_by v => sizeOf v

theorem skip_itemChars : ∀ (v : Json) (items : List Json),
    ∃ n ≤ (itemChars (v :: items)).length + 1, ∀ fuel outer rest,
      skip (fuel + n) .value (.array :: outer) (itemChars (v :: items) ++ ']' :: rest) =
        skip fuel .rest outer rest
  | v, [] => by
    obtain ⟨n, hn, hskip⟩ := skip_chars v
    refine ⟨1 + n, by simp only [itemChars]; omega, fun fuel outer rest => ?_⟩
    simp only [itemChars]
    rw [← Nat.add_assoc, hskip _ _ _ (stops_bracket rest), (skip_rest _ _ _).2.1]
  | v, w :: items => by
    obtain ⟨n, hn, hskip⟩ := skip_chars v
    obtain ⟨m, hm, hnext⟩ := skip_itemChars w items
    refine ⟨m + 1 + n, ?_, fun fuel outer rest => ?_⟩
    · simp only [itemChars, List.length_append, List.length_cons]
      omega
    · simp only [itemChars, List.append_assoc, List.cons_append]
      rw [← Nat.add_assoc, ← Nat.add_assoc, hskip _ _ _ (stops_comma _), (skip_rest _ _ _).1,
        hnext]
termination_by v items => sizeOf (v :: items)

theorem skip_memberChars : ∀ (k : String) (v : Json) (members : List (String × Json)),
    ∃ n ≤ (memberChars ((k, v) :: members)).length + 1, ∀ fuel outer rest,
      skip (fuel + n) .key (.object :: outer) (memberChars ((k, v) :: members) ++ '}' :: rest) =
        skip fuel .rest outer rest
  | k, v, [] => by
    obtain ⟨n, hn, hskip⟩ := skip_chars v
    refine ⟨1 + n + 1, ?_, fun fuel outer rest => ?_⟩
    · simp only [memberChars, quoted, List.length_append, List.length_cons]
      omega
    · simp only [memberChars, List.append_assoc, List.cons_append]
      rw [← Nat.add_assoc, skip_key, ← Nat.add_assoc, hskip _ _ _ (stops_brace rest),
        (skip_rest _ _ _).2.2.2]
  | k, v, (j, w) :: members => by
    obtain ⟨n, hn, hskip⟩ := skip_chars v
    obtain ⟨m, hm, hnext⟩ := skip_memberChars j w members
    refine ⟨m + 1 + n + 1, ?_, fun fuel outer rest => ?_⟩
    · simp only [memberChars, quoted, List.length_append, List.length_cons]
      omega
    · simp only [memberChars, List.append_assoc, List.cons_append]
      rw [← Nat.add_assoc, skip_key, ← Nat.add_assoc, ← Nat.add_assoc,
        hskip _ _ _ (stops_comma _), (skip_rest _ _ _).2.2.1, hnext]
termination_by k v members => sizeOf ((k, v) :: members)

end

theorem skip_eq (v : Json) {fuel : Nat} {rest : List Char} (hs : Stops rest)
    (hf : (chars v).length < fuel) : skip fuel .value [] (chars v ++ rest) = some rest := by
  obtain ⟨n, hn, hskip⟩ := skip_chars v
  obtain ⟨left, rfl⟩ := Nat.exists_eq_add_of_lt (Nat.lt_of_le_of_lt hn hf)
  have hfuel : n + left + 1 = left + 1 + n := by omega
  rw [hfuel, hskip (left + 1) [] rest hs, skip]

end SealedChain.Json.Reader
