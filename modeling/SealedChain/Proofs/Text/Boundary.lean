/-!
# Boundaries of characters

Bytes in UTF-8 show where characters begin: a byte that goes on with a character has `10` as its two
highest bits, and no other byte has. So the last place at or before a byte where a text can be cut is
found on the bytes alone, by going back. The way back ends at the first byte at the latest.
-/
namespace SealedChain.Utf8

/-- Whether a character begins with a byte of UTF-8. -/
def beginsCharacter (b : UInt8) : Bool := b < 0x80 || 0xC0 ≤ b

/-- Whether a text can be cut before a byte: a character begins there, or the text ends. -/
def isBoundary (bytes : ByteArray) (i : Nat) : Bool :=
  i == 0 || if h : i < bytes.size then beginsCharacter bytes[i] else i == bytes.size

/-- The first boundary on the way back from a byte; none if the way leads past the first byte. -/
def boundaryFrom? (bytes : ByteArray) (i : Nat) : Option Nat :=
  if isBoundary bytes i then some i
  else match i with
    | 0 => none
    | i + 1 => boundaryFrom? bytes i

/-- A text cut before a byte; none if that would cut a character. -/
def truncate? (s : String) (i : Nat) : Option String :=
  if s.utf8ByteSize < i then some s
  else if isBoundary s.toUTF8 i then String.fromUTF8? (s.toUTF8.extract 0 i)
  else none

theorem fromUTF8?_eq_some_iff {bytes : ByteArray} {s : String} :
    String.fromUTF8? bytes = some s ↔ s.toUTF8 = bytes := by
  rw [String.toUTF8_eq_toByteArray]
  unfold String.fromUTF8?
  split
  · rw [Option.some.injEq, ← String.toByteArray_inj]
    exact eq_comm
  · rename_i hinvalid
    refine iff_of_false (by simp) ?_
    rintro rfl
    exact hinvalid s.isValidUTF8

theorem isUTF8FirstByte_iff (b : UInt8) :
    b.IsUTF8FirstByte ↔ beginsCharacter b = true ∧ b < 0xF8 := by
  have hall : ∀ n : Fin 256, (UInt8.ofNat n.val).IsUTF8FirstByte ↔
      beginsCharacter (UInt8.ofNat n.val) = true ∧ UInt8.ofNat n.val < 0xF8 := by
    decide +kernel
  have hb := hall ⟨b.toNat, b.toNat_lt⟩
  rwa [UInt8.ofNat_toNat] at hb

theorem lt_of_mem_utf8EncodeChar {c : Char} {b : UInt8} (h : b ∈ String.utf8EncodeChar c) :
    b < 0xF8 := by
  have hsmall : ∀ n, n < 248 → UInt8.ofNat n < 0xF8 := fun n hn =>
    (UInt8.ofNat_lt_iff (Nat.lt_trans hn (by decide))).mpr hn
  rw [String.utf8EncodeChar] at h
  repeat' split at h
  all_goals
    simp only [List.mem_cons, List.not_mem_nil, or_false] at h
    rcases h with rfl | rfl | rfl | rfl <;> exact hsmall _ (by omega)

theorem getElem_toUTF8_lt {s : String} {i : Nat} (h : i < s.toUTF8.size) : s.toUTF8[i] < 0xF8 := by
  have hbytes : s.toUTF8 = (s.toList.flatMap String.utf8EncodeChar).toByteArray :=
    String.utf8Encode_toList.symm
  simp only [hbytes] at h ⊢
  rw [List.getElem_toByteArray]
  obtain ⟨c, -, hc⟩ := List.mem_flatMap.mp (List.getElem_mem (List.size_toByteArray ▸ h))
  exact lt_of_mem_utf8EncodeChar hc

variable {s : String} {bytes : ByteArray} {i e : Nat}

theorem isBoundary_zero (bytes : ByteArray) : isBoundary bytes 0 = true := rfl

theorem isBoundary_iff_isValid : isBoundary s.toUTF8 i = true ↔ String.Pos.Raw.IsValid s ⟨i⟩ := by
  cases i with
  | zero => exact iff_of_true (isBoundary_zero _) String.Pos.Raw.isValid_zero
  | succ i =>
    have hfirst : ∀ h : i + 1 < s.toUTF8.size,
        (s.getUTF8Byte ⟨i + 1⟩ h).IsUTF8FirstByte ↔ beginsCharacter s.toUTF8[i + 1] = true :=
      fun h => (isUTF8FirstByte_iff _).trans (and_iff_left (getElem_toUTF8_lt h))
    have hend : (⟨i + 1⟩ : String.Pos.Raw) = s.rawEndPos ↔ i + 1 = s.toUTF8.size :=
      String.Pos.Raw.ext_iff
    rw [String.Pos.Raw.isValid_iff_isUTF8FirstByte, hend, isBoundary,
      beq_false_of_ne (Nat.succ_ne_zero i), Bool.false_or]
    split
    · rename_i hlt
      rw [or_iff_right (Nat.ne_of_lt hlt)]
      exact ⟨fun h => ⟨hlt, (hfirst hlt).mpr h⟩, fun ⟨_, h⟩ => (hfirst hlt).mp h⟩
    · rename_i hge
      rw [beq_iff_eq, or_iff_left fun ⟨hlt, _⟩ => hge hlt]

/-- Boundaries are where a text can be parted between its characters. -/
theorem isBoundary_iff : isBoundary s.toUTF8 i = true ↔
    ∃ start : String, start.toList <+: s.toList ∧ start.utf8ByteSize = i := by
  rw [isBoundary_iff_isValid, String.Pos.Raw.isValid_iff_exists_append]
  constructor
  · rintro ⟨start, rest, rfl, hi⟩
    exact ⟨start, ⟨rest.toList, String.toList_append.symm⟩, (congrArg String.Pos.Raw.byteIdx hi).symm⟩
  · rintro ⟨start, ⟨rest, hrest⟩, rfl⟩
    refine ⟨start, String.ofList rest, ?_, rfl⟩
    rw [← String.toList_inj, String.toList_append, String.toList_ofList, hrest]

structure LastBoundary (bytes : ByteArray) (i e : Nat) : Prop where
  le : e ≤ i
  boundary : isBoundary bytes e = true
  last : ∀ j, e < j → j ≤ i → isBoundary bytes j = false

theorem LastBoundary.self (h : isBoundary bytes i = true) : LastBoundary bytes i i :=
  ⟨Nat.le_refl i, h, fun _ hj hle => absurd hj (Nat.not_lt.mpr hle)⟩

theorem LastBoundary.le_of_boundary {d : Nat} (h : LastBoundary bytes i e)
    (hd : isBoundary bytes d = true) (hle : d ≤ i) : d ≤ e := by
  refine Nat.not_lt.mp fun hlt => ?_
  rw [h.last d hlt hle] at hd
  cases hd

theorem exists_boundaryFrom (bytes : ByteArray) (i : Nat) :
    ∃ e, boundaryFrom? bytes i = some e ∧ LastBoundary bytes i e := by
  induction i with
  | zero => exact ⟨0, rfl, .self (isBoundary_zero bytes)⟩
  | succ i ih =>
    rw [boundaryFrom?]
    split
    · rename_i h
      exact ⟨i + 1, rfl, .self h⟩
    · rename_i h
      obtain ⟨e, hfound, hlast⟩ := ih
      refine ⟨e, hfound, Nat.le_succ_of_le hlast.le, hlast.boundary, fun j hj hle => ?_⟩
      rcases Nat.le_succ_iff.mp hle with hle | rfl
      · exact hlast.last j hj hle
      · simpa using h

theorem truncate?_of_prefix {start : String} (h : start.toList <+: s.toList) :
    truncate? s start.utf8ByteSize = some start := by
  obtain ⟨rest, hrest⟩ := h
  obtain rfl : s = start ++ String.ofList rest := by
    rw [← String.toList_inj, String.toList_append, String.toList_ofList, hrest]
  have hsize : start.utf8ByteSize ≤ (start ++ String.ofList rest).utf8ByteSize := by
    rw [String.utf8ByteSize_append]
    exact Nat.le_add_right _ _
  have hboundary : isBoundary (start ++ String.ofList rest).toUTF8 start.utf8ByteSize = true :=
    isBoundary_iff.mpr ⟨start, ⟨rest, by rw [String.toList_append, String.toList_ofList]⟩, rfl⟩
  rw [truncate?, if_neg (Nat.not_lt.mpr hsize), if_pos hboundary, fromUTF8?_eq_some_iff]
  simp only [String.toUTF8_eq_toByteArray, String.toByteArray_append]
  exact (ByteArray.extract_append_eq_left rfl).symm

end SealedChain.Utf8
