import SealedChain.Proofs.Json.Range

/-!
# Canonical values

A value is canonical if all its objects have their members in order, however deep they are. Every
value that a reader finds is canonical, and a canonical value that can be read back is read back as it
was written.
-/
namespace SealedChain.Json

instance (members : List (String × Json)) : Decidable (Ordered members) :=
  inferInstanceAs (Decidable (members.Pairwise fun m n => m.1 < n.1))

mutual

/-- Whether every object in the value has its members in order. -/
def canonical : Json → Bool
  | .null | .bool _ | .integer _ | .real _ | .string _ => true
  | .array items => canonicalItems items
  | .object members => decide (Ordered members) && canonicalMembers members

def canonicalItems : List Json → Bool
  | [] => true
  | v :: rest => v.canonical && canonicalItems rest

def canonicalMembers : List (String × Json) → Bool
  | [] => true
  | (_, v) :: rest => v.canonical && canonicalMembers rest

end

mutual

theorem sorted_canonical : ∀ v : Json, v.canonical = true → v.sorted = v
  | .null, _ | .bool _, _ | .integer _, _ | .real _, _ | .string _, _ => by simp only [sorted]
  | .array items, h => by
    rw [canonical] at h
    rw [sorted, sortedItems_canonical items h]
  | .object members, h => by
    rw [canonical, Bool.and_eq_true, decide_eq_true_eq] at h
    rw [sorted, sortedMembers_canonical members h.2, ofMembers_ordered h.1]

theorem sortedItems_canonical : ∀ items : List Json, canonicalItems items = true →
    sortedItems items = items
  | [], _ => rfl
  | v :: rest, h => by
    rw [canonicalItems, Bool.and_eq_true] at h
    rw [sortedItems, sorted_canonical v h.1, sortedItems_canonical rest h.2]

theorem sortedMembers_canonical : ∀ members : List (String × Json),
    canonicalMembers members = true → sortedMembers members = members
  | [], _ => rfl
  | (k, v) :: rest, h => by
    rw [canonicalMembers, Bool.and_eq_true] at h
    rw [sortedMembers, sorted_canonical v h.1, sortedMembers_canonical rest h.2]

end

theorem canonicalItems_iff {items : List Json} :
    canonicalItems items = true ↔ ∀ v ∈ items, v.canonical = true := by
  induction items with
  | nil => simp [canonicalItems]
  | cons v rest ih => simp [canonicalItems, ih]

theorem canonicalMembers_iff {members : List (String × Json)} :
    canonicalMembers members = true ↔ ∀ m ∈ members, m.2.canonical = true := by
  induction members with
  | nil => simp [canonicalMembers]
  | cons m rest ih => simp [canonicalMembers, ih]

theorem map_sorted_canonical {o : Option Json} (h : ∀ v, o = some v → v.canonical = true) :
    o.map sorted = o := by
  cases o with
  | none => rfl
  | some v => rw [Option.map_some, sorted_canonical v (h v rfl)]

theorem canonical_of_fields {names : List String} {v : Json} {members : List (String × Json)}
    (hv : v.canonical = true) (h : v.fields? names = some members) :
    ∀ m ∈ members, m.2.canonical = true := by
  rcases fields?_cases h with rfl | ⟨items, rfl, -, rfl⟩
  · rw [canonical, Bool.and_eq_true] at hv
    exact canonicalMembers_iff.mp hv.2
  · rw [canonical] at hv
    exact fun m hm => canonicalItems_iff.mp hv m.2 (List.of_mem_zip hm).2

theorem canonical_ofMembers {members : List (String × Json)}
    (h : ∀ m ∈ members, m.2.canonical = true) : (ofMembers members).canonical = true := by
  have hordered : Ordered (insertAll [] members) := Ordered.insertAll List.Pairwise.nil _
  rw [ofMembers_eq, canonical, Bool.and_eq_true, decide_eq_true_eq, canonicalMembers_iff]
  exact ⟨hordered, forall_mem_insertAll (P := fun v => v.canonical = true) (by simp) h⟩

namespace Reader

variable {fuel depth : Nat} {s rest : List Char} {v : Json}

theorem canonical_of_number (h : number s = some (v, rest)) : v.canonical = true := by
  rcases number_cases h with ⟨x, rfl⟩ | ⟨i, rfl, -⟩ <;> rfl

theorem canonical_of_items {acc : List Json} (hacc : ∀ w ∈ acc, w.canonical = true)
    (hvalue : ∀ n < fuel, ∀ {s w rest}, value n depth s = some (w, rest) → w.canonical = true)
    (h : items fuel depth acc s = some (v, rest)) : v.canonical = true := by
  induction fuel generalizing acc s with
  | zero => simp [items] at h
  | succ fuel ih =>
    rw [items] at h
    split at h
    · cases h
    · rename_i w _ hw
      have hmore : ∀ u ∈ w :: acc, u.canonical = true :=
        List.forall_mem_cons.mpr ⟨hvalue fuel (Nat.lt_succ_self fuel) hw, hacc⟩
      split at h
      · exact ih hmore (fun n hn => hvalue n (Nat.lt_succ_of_lt hn)) h
      · obtain ⟨rfl, -⟩ := Prod.mk.inj (Option.some.inj h)
        exact canonicalItems_iff.mpr fun u hu => hmore u (List.mem_reverse.mp hu)
      · cases h

theorem canonical_of_members {acc : List (String × Json)} (hacc : ∀ m ∈ acc, m.2.canonical = true)
    (hvalue : ∀ n < fuel, ∀ {s w rest}, value n depth s = some (w, rest) → w.canonical = true)
    (h : members fuel depth acc s = some (v, rest)) : v.canonical = true := by
  induction fuel generalizing acc s with
  | zero => simp [members] at h
  | succ fuel ih =>
    obtain ⟨key, w, _, _, hw, hlast | ⟨_, hlater⟩⟩ := members_cases h
    all_goals
      have hmore : ∀ m ∈ (key, w) :: acc, m.2.canonical = true :=
        List.forall_mem_cons.mpr ⟨hvalue fuel (Nat.lt_succ_self fuel) hw, hacc⟩
    · rw [hlast]
      exact canonical_ofMembers fun m hm => hmore m (List.mem_reverse.mp hm)
    · exact ih hmore (fun n hn => hvalue n (Nat.lt_succ_of_lt hn)) hlater

theorem canonical_of_value (h : value fuel depth s = some (v, rest)) : v.canonical = true := by
  induction fuel using Nat.strongRecOn generalizing depth s v rest with
  | ind fuel ih =>
    cases fuel with
    | zero => simp [value] at h
    | succ fuel =>
      have hless : ∀ depth, ∀ n < fuel, ∀ {s w rest}, value n depth s = some (w, rest) →
          w.canonical = true := fun _ n hn {_ _ _} h => ih n (Nat.lt_succ_of_lt hn) h
      rw [value] at h
      split at h
      · obtain ⟨_, -, heq⟩ := Option.map_eq_some_iff.mp h
        obtain ⟨rfl, -⟩ := Prod.mk.inj heq
        rfl
      · split at h
        · cases h
        · split at h
          · obtain ⟨rfl, -⟩ := Prod.mk.inj (Option.some.inj h)
            rfl
          · exact canonical_of_items (by simp) (hless _) h
      · split at h
        · cases h
        · split at h
          · obtain ⟨rfl, -⟩ := Prod.mk.inj (Option.some.inj h)
            rfl
          · exact canonical_of_members (by simp) (hless _) h
      · obtain ⟨rfl, -⟩ := Prod.mk.inj (Option.some.inj h)
        rfl
      · obtain ⟨rfl, -⟩ := Prod.mk.inj (Option.some.inj h)
        rfl
      · obtain ⟨rfl, -⟩ := Prod.mk.inj (Option.some.inj h)
        rfl
      · exact canonical_of_number h

end Reader

open Reader

/-- Every value that stands in a text is canonical. -/
theorem canonical_of_parse {text : String} {v : Json} (h : parse text = some v) :
    v.canonical = true := by
  unfold parse parseChars at h
  split at h
  · rename_i hvalue
    split at h
    · exact Option.some.inj h ▸ canonical_of_value hvalue
    · cases h
  · cases h

theorem ordered_of_parse {text : String} {members : List (String × Json)}
    (h : parse text = some (.object members)) : Ordered members := by
  have hcanonical := canonical_of_parse h
  rw [canonical, Bool.and_eq_true, decide_eq_true_eq] at hcanonical
  exact hcanonical.1

end SealedChain.Json
