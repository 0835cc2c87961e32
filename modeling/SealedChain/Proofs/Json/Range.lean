import SealedChain.Proofs.Json.Members

/-!
# Integers that were read

The number reader gives an integer only if it has sixty-four bits, so whatever is read as an integer
is written so that it is read back.
-/
namespace SealedChain.Json

/-- The value is no integer beyond sixty-four bits. -/
def InRange (v : Json) : Prop := ∀ i, v = .integer i → -0x8000000000000000 ≤ i ∧ i < limit64

namespace Reader

theorem gather_lt {acc : Nat} (h : acc < limit64) (digits : List Char) :
    (gather acc digits).1 < limit64 := by
  induction digits generalizing acc with
  | nil => exact h
  | cons c cs ih =>
    simp only [gather]
    split
    · rename_i hnext
      exact ih hnext
    · exact h

theorem integer?_range {n : Numeral} {significand : Nat} {beyond : List Char} {i : Int}
    (hlt : significand < limit64) (h : n.integer? significand beyond = some i) :
    -0x8000000000000000 ≤ i ∧ i < limit64 := by
  unfold Numeral.integer? at h
  split at h
  · cases h
  · split at h
    · have := Option.some.inj h
      unfold limit64 at *
      omega
    · split at h
      · have := Option.some.inj h
        unfold limit64 at *
        omega
      · cases h

theorem number_cases {s rest : List Char} {v : Json} (h : number s = some (v, rest)) :
    (∃ x, v = .real x) ∨ ∃ i, v = .integer i ∧ -0x8000000000000000 ≤ i ∧ i < limit64 := by
  unfold number at h
  split at h
  · cases h
  · rename_i n _ _
    obtain ⟨w, hvalue, hw⟩ := Option.map_eq_some_iff.mp h
    obtain rfl : w = v := congrArg Prod.fst hw
    have hlt : (gather 0 n.whole).1 < limit64 := gather_lt (by decide) n.whole
    simp only [Numeral.value?] at hvalue
    split at hvalue
    · rename_i i hi
      exact .inr ⟨i, (Option.some.inj hvalue).symm, integer?_range hlt hi⟩
    · obtain ⟨x, -, hx⟩ := Option.map_eq_some_iff.mp hvalue
      exact .inl ⟨x, hx.symm⟩

theorem array_of_items {fuel depth : Nat} {acc : List Json} {s rest : List Char} {v : Json}
    (h : Reader.items fuel depth acc s = some (v, rest)) : ∃ items, v = .array items := by
  induction fuel generalizing acc s with
  | zero => simp [Reader.items] at h
  | succ fuel ih =>
    rw [Reader.items] at h
    split at h
    · cases h
    · split at h
      · exact ih h
      · exact ⟨_, (congrArg Prod.fst (Option.some.inj h)).symm⟩
      · cases h

/-- What a reader of members that gets through does: it reads a member, which is the last, or goes on
after it. -/
theorem members_cases {fuel depth : Nat} {acc : List (String × Json)} {s rest : List Char}
    {w : Json} (h : Reader.members (fuel + 1) depth acc s = some (w, rest)) :
    ∃ key v before after, value fuel depth before = some (v, after) ∧
      (w = ofMembers ((key, v) :: acc).reverse ∨
        ∃ later, Reader.members fuel depth ((key, v) :: acc) later = some (w, rest)) := by
  rw [Reader.members] at h
  split at h
  · split at h
    · cases h
    · rename_i key _ _
      split at h
      · rename_i before _
        split at h
        · cases h
        · rename_i v after hv
          refine ⟨key, v, before, after, hv, ?_⟩
          split at h
          · exact .inr ⟨_, h⟩
          · exact .inl (congrArg Prod.fst (Option.some.inj h)).symm
          · cases h
      · cases h
  · cases h

theorem object_of_members {fuel depth : Nat} {acc : List (String × Json)} {s rest : List Char}
    {w : Json} (h : Reader.members fuel depth acc s = some (w, rest)) :
    ∃ members, w = .object members := by
  induction fuel generalizing acc s with
  | zero => simp [Reader.members] at h
  | succ fuel ih =>
    obtain ⟨_, _, _, _, -, rfl | ⟨_, hlater⟩⟩ := members_cases h
    · exact ⟨_, rfl⟩
    · exact ih hlater

theorem value_cases {fuel depth : Nat} {s rest : List Char} {v : Json}
    (h : value fuel depth s = some (v, rest)) :
    v.InRange ∧ ∀ members, v = .object members → members = [] ∨
      ∃ fuel depth s, Reader.members fuel depth [] s = some (.object members, rest) := by
  cases fuel with
  | zero => simp [value] at h
  | succ fuel =>
    rw [value] at h
    split at h
    · obtain ⟨_, -, heq⟩ := Option.map_eq_some_iff.mp h
      obtain ⟨rfl, -⟩ := Prod.mk.inj heq
      exact ⟨by rintro _ ⟨⟩, by rintro _ ⟨⟩⟩
    · split at h
      · cases h
      · split at h
        · obtain ⟨rfl, -⟩ := Prod.mk.inj (Option.some.inj h)
          exact ⟨by rintro _ ⟨⟩, by rintro _ ⟨⟩⟩
        · obtain ⟨items, rfl⟩ := array_of_items h
          exact ⟨by rintro _ ⟨⟩, by rintro _ ⟨⟩⟩
    · split at h
      · cases h
      · split at h
        · obtain ⟨rfl, -⟩ := Prod.mk.inj (Option.some.inj h)
          exact ⟨by rintro _ ⟨⟩, fun members heq => .inl (Json.object.inj heq).symm⟩
        · obtain ⟨members, rfl⟩ := object_of_members h
          exact ⟨by rintro _ ⟨⟩, fun _ heq => .inr ⟨_, _, _, heq ▸ h⟩⟩
    · obtain ⟨rfl, -⟩ := Prod.mk.inj (Option.some.inj h)
      exact ⟨by rintro _ ⟨⟩, by rintro _ ⟨⟩⟩
    · obtain ⟨rfl, -⟩ := Prod.mk.inj (Option.some.inj h)
      exact ⟨by rintro _ ⟨⟩, by rintro _ ⟨⟩⟩
    · obtain ⟨rfl, -⟩ := Prod.mk.inj (Option.some.inj h)
      exact ⟨by rintro _ ⟨⟩, by rintro _ ⟨⟩⟩
    · rcases number_cases h with ⟨x, rfl⟩ | ⟨i, rfl, hrange⟩
      · exact ⟨by rintro _ ⟨⟩, by rintro _ ⟨⟩⟩
      · exact ⟨fun j hj => Json.integer.inj hj ▸ hrange, by rintro _ ⟨⟩⟩

theorem inRange_members {fuel depth : Nat} {acc members : List (String × Json)}
    {s rest : List Char} (hacc : ∀ m ∈ acc, m.2.InRange)
    (h : Reader.members fuel depth acc s = some (.object members, rest)) :
    ∀ m ∈ members, m.2.InRange := by
  induction fuel generalizing acc s with
  | zero => simp [Reader.members] at h
  | succ fuel ih =>
    obtain ⟨key, v, _, _, hv, hlast | ⟨_, hlater⟩⟩ := members_cases h
    all_goals
      have hmore : ∀ m ∈ (key, v) :: acc, m.2.InRange := by
        intro m hm
        rcases List.mem_cons.mp hm with rfl | hm
        · exact (value_cases hv).1
        · exact hacc m hm
    · rw [ofMembers_eq] at hlast
      obtain rfl := Json.object.inj hlast
      exact forall_mem_insertAll (by simp) fun m hm => hmore m (List.mem_reverse.mp hm)
    · exact ih hmore hlater

end Reader

theorem mem_of_lookup {key : String} {members : List (String × Json)} {v : Json}
    (h : lookup key members = some v) : (key, v) ∈ members := by
  induction members with
  | nil => cases h
  | cons m rest ih =>
    obtain ⟨k, w⟩ := m
    rw [lookup] at h
    split at h
    · rename_i hkey
      rw [hkey, Option.some.inj h]
      exact List.mem_cons_self
    · exact List.mem_cons_of_mem _ (ih h)

/-- What is found under a key of an object that was read is no integer beyond sixty-four bits. -/
theorem inRange_lookup {text : String} {members : List (String × Json)}
    (h : parse text = some (.object members)) {key : String} {v : Json}
    (hv : lookup key members = some v) : v.InRange := by
  unfold parse parseChars at h
  split at h
  · rename_i w rest hvalue
    split at h
    · obtain rfl := Option.some.inj h
      rcases (Reader.value_cases hvalue).2 members rfl with rfl | ⟨_, _, _, hmembers⟩
      · cases hv
      · exact Reader.inRange_members (by simp) hmembers _ (mem_of_lookup hv)
    · cases h
  · cases h

end SealedChain.Json
