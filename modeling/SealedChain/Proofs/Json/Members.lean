import Mathlib.Data.List.Induction
import SealedChain.Proofs.Json.ReadBack

/-!
# Members in order

Objects keep their members in the order of their keys. Members in order stay as they are when they
are put in order again, so a value whose members are in order is the same after it was written and
read. Putting members in order changes neither what is found under a key nor whether the value can
be read back.
-/
namespace SealedChain.Json

def Ordered (members : List (String × Json)) : Prop := members.Pairwise fun m n => m.1 < n.1

def insertAll (acc members : List (String × Json)) : List (String × Json) :=
  members.foldl (fun acc (k, v) => insertMember k v acc) acc

theorem ofMembers_eq (members : List (String × Json)) :
    ofMembers members = .object (insertAll [] members) := rfl

theorem insertAll_cons (acc : List (String × Json)) (k : String) (v : Json)
    (members : List (String × Json)) :
    insertAll acc ((k, v) :: members) = insertAll (insertMember k v acc) members := rfl

/-- Under a key is found what was put there last. -/
theorem lookup_insertAll (key : String) (acc members : List (String × Json)) :
    lookup key (insertAll acc members) =
      (lookup key members.reverse).or (lookup key acc) := by
  induction members using List.reverseRecOn with
  | nil => simp [insertAll, lookup]
  | append_singleton members m ih =>
    obtain ⟨k, v⟩ := m
    have hstep : insertAll acc (members ++ [(k, v)]) = insertMember k v (insertAll acc members) := by
      simp [insertAll, List.foldl_append]
    rw [hstep, lookup_insertMember, List.reverse_append, List.reverse_singleton,
      List.singleton_append, lookup]
    split
    · rfl
    · exact ih

theorem get?_ofMembers (key : String) (members : List (String × Json)) :
    (ofMembers members).get? key = lookup key members.reverse := by
  rw [ofMembers_eq, get?, lookup_insertAll, lookup, Option.or_none]

theorem mem_insertMember {k : String} {v : Json} {members : List (String × Json)}
    {m : String × Json} (h : m ∈ insertMember k v members) : m = (k, v) ∨ m ∈ members := by
  induction members with
  | nil => simpa [insertMember] using h
  | cons n rest ih =>
    obtain ⟨k', v'⟩ := n
    unfold insertMember at h
    split at h
    · exact (List.mem_cons.mp h).imp_right id
    · split at h
      · exact (List.mem_cons.mp h).imp_right (List.mem_cons_of_mem _)
      · rcases List.mem_cons.mp h with rfl | h
        · exact .inr List.mem_cons_self
        · exact (ih h).imp_right (List.mem_cons_of_mem _)

/-- Of two members put under one key the later stays. -/
theorem insertMember_insertMember (k : String) (v w : Json) (members : List (String × Json)) :
    insertMember k v (insertMember k w members) = insertMember k v members := by
  induction members with
  | nil => simp [insertMember]
  | cons m rest ih =>
    obtain ⟨k', u⟩ := m
    by_cases hlt : k < k'
    · simp [insertMember, hlt]
    · by_cases heq : k = k'
      · simp [insertMember, heq]
      · simp [insertMember, hlt, heq, ih]

theorem Ordered.insertMember {members : List (String × Json)} (h : Ordered members) (k : String)
    (v : Json) : Ordered (insertMember k v members) := by
  induction members with
  | nil => exact List.pairwise_singleton _ _
  | cons n rest ih =>
    obtain ⟨k', v'⟩ := n
    obtain ⟨hhead, htail⟩ := List.pairwise_cons.mp h
    unfold Json.insertMember
    split
    · rename_i hlt
      refine List.pairwise_cons.mpr ⟨fun m hm => ?_, h⟩
      rcases List.mem_cons.mp hm with rfl | hm
      · exact hlt
      · exact String.lt_trans hlt (hhead m hm)
    · split
      · rename_i heq
        subst heq
        exact List.pairwise_cons.mpr ⟨hhead, htail⟩
      · rename_i hle hne
        have hlt : k' < k := by
          by_contra hn
          exact hne (String.le_antisymm hn hle)
        refine List.pairwise_cons.mpr ⟨fun m hm => ?_, ih htail⟩
        rcases mem_insertMember hm with rfl | hm
        · exact hlt
        · exact hhead m hm

theorem Ordered.insertAll {acc : List (String × Json)} (h : Ordered acc)
    (members : List (String × Json)) : Ordered (insertAll acc members) := by
  induction members generalizing acc with
  | nil => exact h
  | cons m rest ih => exact ih (h.insertMember m.1 m.2)

theorem forall_mem_insertAll {P : Json → Prop} {acc members : List (String × Json)}
    (hacc : ∀ m ∈ acc, P m.2) (h : ∀ m ∈ members, P m.2) : ∀ m ∈ insertAll acc members, P m.2 := by
  induction members generalizing acc with
  | nil => exact hacc
  | cons n rest ih =>
    refine ih (fun m hm => ?_) fun m hm => h m (List.mem_cons_of_mem _ hm)
    rcases mem_insertMember hm with rfl | hm
    · exact h n List.mem_cons_self
    · exact hacc m hm

theorem insertMember_last {k : String} {members : List (String × Json)}
    (h : ∀ m ∈ members, m.1 < k) (v : Json) : insertMember k v members = members ++ [(k, v)] := by
  induction members with
  | nil => rfl
  | cons n rest ih =>
    obtain ⟨k', v'⟩ := n
    have hlt : k' < k := h (k', v') List.mem_cons_self
    rw [insertMember, if_neg (String.lt_asymm hlt), if_neg (Ne.symm (String.ne_of_lt hlt)),
      ih fun m hm => h m (List.mem_cons_of_mem _ hm)]
    rfl

theorem insertAll_ordered {acc members : List (String × Json)} (h : Ordered (acc ++ members)) :
    insertAll acc members = acc ++ members := by
  induction members generalizing acc with
  | nil => simp [insertAll]
  | cons m rest ih =>
    obtain ⟨k, v⟩ := m
    have hlast : ∀ m ∈ acc, m.1 < k := fun m hm =>
      (List.pairwise_append.mp h).2.2 m hm (k, v) List.mem_cons_self
    rw [insertAll_cons, insertMember_last hlast, ih (by simpa using h)]
    simp

theorem ofMembers_ordered {members : List (String × Json)} (h : Ordered members) :
    ofMembers members = .object members := by
  rw [ofMembers_eq, insertAll_ordered (by simpa using h), List.nil_append]

theorem sortedMembers_insertMember (k : String) (v : Json) (members : List (String × Json)) :
    sortedMembers (insertMember k v members) = insertMember k v.sorted (sortedMembers members) := by
  induction members with
  | nil => rfl
  | cons m rest ih =>
    obtain ⟨k', v'⟩ := m
    simp only [insertMember, sortedMembers]
    split
    · simp only [sortedMembers]
    · split
      · simp only [sortedMembers]
      · simp only [sortedMembers, ih]

theorem sortedMembers_insertAll (acc members : List (String × Json)) :
    sortedMembers (insertAll acc members) =
      insertAll (sortedMembers acc) (sortedMembers members) := by
  induction members generalizing acc with
  | nil => rfl
  | cons m rest ih =>
    obtain ⟨k, v⟩ := m
    rw [insertAll_cons, ih, sortedMembers_insertMember, sortedMembers, insertAll_cons]

/-- Putting an object in order puts its members in order. -/
theorem sorted_ofMembers (members : List (String × Json)) :
    (ofMembers members).sorted = ofMembers (sortedMembers members) := by
  have hordered : Ordered (insertAll [] (sortedMembers members)) :=
    Ordered.insertAll List.Pairwise.nil _
  rw [ofMembers_eq, sorted, sortedMembers_insertAll]
  exact ofMembers_ordered hordered

mutual

theorem sorted_sorted : ∀ v : Json, v.sorted.sorted = v.sorted
  | .null | .bool _ | .integer _ | .real _ | .string _ => by simp only [sorted]
  | .array items => by
    simp only [sorted]
    rw [sortedItems_sortedItems items]
  | .object members => by
    rw [sorted, sorted_ofMembers, sortedMembers_sortedMembers members]

theorem sortedItems_sortedItems : ∀ items : List Json,
    sortedItems (sortedItems items) = sortedItems items
  | [] => rfl
  | v :: rest => by
    simp only [sortedItems]
    rw [sorted_sorted v, sortedItems_sortedItems rest]

theorem sortedMembers_sortedMembers : ∀ members : List (String × Json),
    sortedMembers (sortedMembers members) = sortedMembers members
  | [] => rfl
  | (k, v) :: rest => by
    simp only [sortedMembers]
    rw [sorted_sorted v, sortedMembers_sortedMembers rest]

end

theorem keys_sortedMembers (members : List (String × Json)) :
    (sortedMembers members).map Prod.fst = members.map Prod.fst := by
  induction members with
  | nil => rfl
  | cons m rest ih =>
    obtain ⟨k, v⟩ := m
    rw [sortedMembers, List.map_cons, List.map_cons, ih]

theorem lookup_sortedMembers (key : String) (members : List (String × Json)) :
    lookup key (sortedMembers members) = (lookup key members).map sorted := by
  induction members with
  | nil => rfl
  | cons m rest ih =>
    obtain ⟨k, v⟩ := m
    simp only [sortedMembers, lookup]
    split
    · rfl
    · exact ih

theorem lookup_append (key : String) (front back : List (String × Json)) :
    lookup key (front ++ back) = (lookup key front).or (lookup key back) := by
  induction front with
  | nil => rfl
  | cons m rest ih =>
    obtain ⟨k, v⟩ := m
    simp only [List.cons_append, lookup]
    split
    · rfl
    · exact ih

theorem lookup_eq_none {key : String} {members : List (String × Json)}
    (h : key ∉ members.map Prod.fst) : lookup key members = none := by
  induction members with
  | nil => rfl
  | cons m rest ih =>
    obtain ⟨k, v⟩ := m
    rw [List.map_cons, List.mem_cons, not_or] at h
    rw [lookup, if_neg h.1, ih h.2]

theorem lookup_reverse {members : List (String × Json)} (h : (members.map Prod.fst).Nodup)
    (key : String) : lookup key members.reverse = lookup key members := by
  induction members with
  | nil => rfl
  | cons m rest ih =>
    obtain ⟨k, v⟩ := m
    obtain ⟨hk, hrest⟩ := List.nodup_cons.mp h
    rw [List.reverse_cons, lookup_append, ih hrest]
    simp only [lookup]
    split
    · rename_i heq
      rw [heq, lookup_eq_none hk, Option.none_or]
    · rw [Option.or_none]

theorem sorted_object (members : List (String × Json)) :
    (object members).sorted = .object (insertAll [] (sortedMembers members)) := by
  rw [sorted, ofMembers_eq]

theorem lookup_sorted {members : List (String × Json)} (h : (members.map Prod.fst).Nodup)
    (key : String) :
    lookup key (insertAll [] (sortedMembers members)) = (lookup key members).map sorted := by
  rw [lookup_insertAll, lookup, Option.or_none, lookup_reverse (by rwa [keys_sortedMembers]),
    lookup_sortedMembers]

theorem optional?_string?_sorted (v : Json) : optional? string? v.sorted = optional? string? v := by
  cases v <;> simp [sorted, optional?, string?, ofMembers]

theorem fits_of_lookup {key : String} {members : List (String × Json)} {depth : Nat} {v : Json}
    (h : fitsMembers members depth = true) (hv : lookup key members = some v) :
    v.fits depth = true := by
  induction members with
  | nil => cases hv
  | cons m rest ih =>
    simp only [fitsMembers, Bool.and_eq_true] at h
    simp only [lookup] at hv
    split at hv
    · exact Option.some.inj hv ▸ h.1
    · exact ih h.2 hv

theorem fitsMembers_insertMember {k : String} {v : Json} {members : List (String × Json)}
    {depth : Nat} (hv : v.fits depth = true) (h : fitsMembers members depth = true) :
    fitsMembers (insertMember k v members) depth = true := by
  induction members with
  | nil => simp [insertMember, fitsMembers, hv]
  | cons m rest ih =>
    obtain ⟨k', v'⟩ := m
    simp only [fitsMembers, Bool.and_eq_true] at h
    unfold insertMember
    split
    · simp [fitsMembers, hv, h]
    · split
      · simp [fitsMembers, hv, h.2]
      · simp [fitsMembers, h.1, ih h.2]

theorem fitsMembers_insertAll {acc members : List (String × Json)} {depth : Nat}
    (hacc : fitsMembers acc depth = true) (h : fitsMembers members depth = true) :
    fitsMembers (insertAll acc members) depth = true := by
  induction members generalizing acc with
  | nil => exact hacc
  | cons m rest ih =>
    obtain ⟨k, v⟩ := m
    simp only [fitsMembers, Bool.and_eq_true] at h
    exact ih (fitsMembers_insertMember h.1 hacc) h.2

theorem fits_ofMembers {members : List (String × Json)} {depth : Nat}
    (h : fitsMembers members depth = true) : (ofMembers members).fits (depth + 1) = true := by
  rw [ofMembers_eq, fits]
  exact fitsMembers_insertAll rfl h

mutual

theorem fits_sorted : ∀ (v : Json) {depth : Nat}, v.fits depth = true → v.sorted.fits depth = true
  | .null, _, h | .bool _, _, h | .integer _, _, h | .real _, _, h | .string _, _, h => by
    simpa only [sorted] using h
  | .array _, 0, h | .object _, 0, h => by simp [fits] at h
  | .array items, depth + 1, h => by
    simp only [fits, sorted] at h ⊢
    exact fitsItems_sorted items h
  | .object members, depth + 1, h => by
    rw [fits] at h
    rw [sorted]
    exact fits_ofMembers (fitsMembers_sorted members h)

theorem fitsItems_sorted : ∀ (items : List Json) {depth : Nat}, fitsItems items depth = true →
    fitsItems (sortedItems items) depth = true
  | [], _, _ => rfl
  | v :: rest, depth, h => by
    simp only [fitsItems, sortedItems, Bool.and_eq_true] at h ⊢
    exact ⟨fits_sorted v h.1, fitsItems_sorted rest h.2⟩

theorem fitsMembers_sorted : ∀ (members : List (String × Json)) {depth : Nat},
    fitsMembers members depth = true → fitsMembers (sortedMembers members) depth = true
  | [], _, _ => rfl
  | (k, v) :: rest, depth, h => by
    simp only [fitsMembers, sortedMembers, Bool.and_eq_true] at h ⊢
    exact ⟨fits_sorted v h.1, fitsMembers_sorted rest h.2⟩

end

/-! ### Records -/

/-- The member of an object with this name, or the item of an array at this place. -/
def memberAt (name : String) (place : Nat) : Json → Option Json
  | .object members => lookup name members
  | .array items => items[place]?
  | _ => none

theorem lookup_zip {names : List String} (hn : names.Nodup) {name : String} {place : Nat}
    (hname : names[place]? = some name) (items : List Json) :
    lookup name (names.zip items) = items[place]? := by
  induction names generalizing place items with
  | nil => cases hname
  | cons first rest ih =>
    obtain ⟨hfirst, hrest⟩ := List.nodup_cons.mp hn
    cases items with
    | nil => rw [List.zip_nil_right, List.getElem?_nil, lookup]
    | cons item items =>
      rw [List.zip_cons_cons, lookup]
      cases place with
      | zero =>
        obtain rfl : first = name := Option.some.inj hname
        rw [if_pos rfl, List.getElem?_cons_zero]
      | succ place =>
        have hmem : name ∈ rest := List.mem_of_getElem? hname
        have hne : name ≠ first := fun heq => hfirst (heq ▸ hmem)
        rw [if_neg hne, List.getElem?_cons_succ]
        exact ih hrest hname items

/-- A record has the members of an object, or the items of an array under the names of their
places. -/
theorem fields?_cases {names : List String} {v : Json} {members : List (String × Json)}
    (h : v.fields? names = some members) : v = .object members ∨
      ∃ items, v = .array items ∧ items.length ≤ names.length ∧ members = names.zip items := by
  cases v with
  | object found =>
    obtain rfl : found = members := Option.some.inj h
    exact .inl rfl
  | array items =>
    rw [fields?] at h
    split at h
    · rename_i hlength
      exact .inr ⟨items, rfl, hlength, (Option.some.inj h).symm⟩
    · cases h
  | _ => cases h

theorem lookup_fields {names : List String} (hn : names.Nodup) {name : String} {place : Nat}
    (hname : names[place]? = some name) {v : Json} {members : List (String × Json)}
    (h : v.fields? names = some members) : lookup name members = v.memberAt name place := by
  rcases fields?_cases h with rfl | ⟨items, rfl, -, rfl⟩
  · rfl
  · exact lookup_zip hn hname items

theorem optional?_of_ne_null {α : Type} (read? : Json → Option α) {v : Json} (h : v ≠ .null) :
    optional? read? v = (read? v).map some := by
  cases v with
  | null => exact absurd rfl h
  | _ => rfl

theorem signed?_range {v : Json} {i : Int} (h : v.signed? = some i) :
    -0x8000000000000000 ≤ i ∧ i < 0x8000000000000000 := by
  cases v with
  | integer n =>
    rw [signed?] at h
    split at h
    · rename_i hn
      exact Option.some.inj h ▸ hn
    · cases h
  | _ => cases h

theorem optionalField?_cases {α : Type} {key : String} {read? : Json → Option α}
    {members : List (String × Json)} {o : Option α}
    (h : optionalField? key read? members = some o) :
    o = none ∨ ∃ v x, lookup key members = some v ∧ v ≠ .null ∧ read? v = some x ∧ o = some x := by
  unfold optionalField? at h
  split at h
  · exact .inl (Option.some.inj h).symm
  · rename_i v hfound
    by_cases hnull : v = .null
    · subst hnull
      exact .inl (Option.some.inj h).symm
    · rw [optional?_of_ne_null read? hnull] at h
      obtain ⟨x, hx, rfl⟩ := Option.map_eq_some_iff.mp h
      exact .inr ⟨v, x, hfound, hnull, hx, rfl⟩

end SealedChain.Json
