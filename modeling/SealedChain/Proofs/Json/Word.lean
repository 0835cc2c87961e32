import Mathlib.Data.List.Induction
import SealedChain.Json.Codec

/-!
# Words as values

A value stands for a word of so many bytes exactly if it is a string of two hexadecimal digits for
every byte, after a marker or without one, that denote the number of the word, or an array of the
bytes of the word, with at most one item behind them, which is no byte.
-/
namespace SealedChain

namespace Bytes

theorem bigEndian_toNat (bs : Bytes) : bigEndian bs.length bs.toNat = bs := by
  induction bs using List.reverseRecOn with
  | nil => rfl
  | append_singleton bs b ih =>
    have hlt : b.toNat < 256 := b.toNat_lt
    have hdiv : (toNat bs * 256 + b.toNat) / 256 = toNat bs := by omega
    have hmod : (toNat bs * 256 + b.toNat) % 256 = b.toNat := by omega
    rw [List.length_append, List.length_singleton, bigEndian, toNat_append_singleton, hdiv, hmod,
      ih, UInt8.ofNat_toNat]

theorem eq_of_toNat {bs cs : Bytes} (hlength : bs.length = cs.length) (h : bs.toNat = cs.toNat) :
    bs = cs := by
  rw [← bigEndian_toNat bs, ← bigEndian_toNat cs, hlength, h]

end Bytes

namespace Digits

theorem digit?_lt {base : Nat} {c : Char} {v : Nat} (h : digit? base c = some v) :
    v < base := by
  unfold digit? at h
  split at h
  · split at h
    · rename_i hlt
      exact Option.some.inj h ▸ hlt
    · cases h
  · cases h

end Digits

namespace Hex

theorem valueFrom?_of_ofDigits? {cs : List Char} {bs : Bytes} (h : ofDigits? cs = some bs)
    (acc : Nat) : cs.length = 2 * bs.length ∧
      Digits.valueFrom? 16 acc cs = some (bs.foldl (fun acc b => acc * 256 + b.toNat) acc) := by
  induction cs using ofDigits?.induct generalizing bs acc with
  | case1 =>
    obtain rfl := Option.some.inj h
    exact ⟨rfl, rfl⟩
  | case2 => cases h
  | case3 high low rest hi lo hlow hhigh ih =>
    simp only [ofDigits?, hhigh, hlow, Option.map_eq_some_iff] at h
    obtain ⟨bs, hrest, rfl⟩ := h
    have hhi := Digits.digit?_lt hhigh
    have hlo := Digits.digit?_lt hlow
    have hbyte : (UInt8.ofNat (16 * hi + lo)).toNat = 16 * hi + lo := by
      simp only [UInt8.toNat_ofNat']
      omega
    obtain ⟨hlength, hvalue⟩ := ih hrest (acc * 256 + (16 * hi + lo))
    refine ⟨by simp only [List.length_cons, hlength]; omega, ?_⟩
    simp only [Digits.valueFrom?, hhigh, hlow, List.foldl_cons, hbyte, ← hvalue]
    congr 1
    omega
  | case4 high low rest hnone =>
    simp [ofDigits?] at h

/-- An even number of digits is read as bytes. -/
theorem exists_ofDigits? {cs : List Char} (hdigits : ∀ c ∈ cs, (Digits.digit? 16 c).isSome)
    (heven : cs.length % 2 = 0) : ∃ bs, ofDigits? cs = some bs := by
  induction cs using ofDigits?.induct with
  | case1 => exact ⟨[], rfl⟩
  | case2 => simp at heven
  | case3 high low rest hi lo hlow hhigh ih =>
    simp only [List.length_cons] at heven
    obtain ⟨bs, hbs⟩ := ih (fun c hc => hdigits c (by simp [hc])) (by omega)
    exact ⟨UInt8.ofNat (16 * hi + lo) :: bs, by simp [ofDigits?, hhigh, hlow, hbs]⟩
  | case4 high low rest hnone =>
    obtain ⟨hi, hhigh⟩ := Option.isSome_iff_exists.mp (hdigits high (by simp))
    obtain ⟨lo, hlow⟩ := Option.isSome_iff_exists.mp (hdigits low (by simp))
    exact (hnone hi lo hhigh hlow).elim

theorem ofDigits?_eq_some_iff {cs : List Char} {bs : Bytes} : ofDigits? cs = some bs ↔
    cs.length = 2 * bs.length ∧ Digits.value? 16 cs = some bs.toNat := by
  constructor
  · exact fun h => valueFrom?_of_ofDigits? h 0
  · rintro ⟨hlength, hvalue⟩
    have hdigits := Digits.isSome_digit?_of_valueFrom? hvalue
    obtain ⟨found, hfound⟩ := exists_ofDigits? hdigits (by omega)
    obtain ⟨hsame, hnumber⟩ := valueFrom?_of_ofDigits? hfound 0
    have hbytes : found = bs := by
      refine Bytes.eq_of_toNat (by omega) ?_
      exact Option.some.inj (hnumber.symm.trans hvalue)
    rw [hfound, hbytes]

theorem dropMarker_of_value? {cs : List Char} {v : Nat} (h : Digits.value? 16 cs = some v) :
    dropMarker cs = cs := by
  have hdigits := Digits.isSome_digit?_of_valueFrom? h
  unfold dropMarker
  split
  · exact absurd (hdigits 'x' (by simp)) (by decide)
  · exact absurd (hdigits 'X' (by simp)) (by decide)
  · rfl

end Hex

namespace Json

/-- A value that stands for a word: digits that denote its number, two for every byte, after `0x`,
`0X` or nothing, or its bytes, with at most one item behind them, which is no byte. -/
inductive Spells {n : Nat} (w : Word n) : Json → Prop
  | digits (marker digits : List Char) (marked : marker ∈ [[], ['0', 'x'], ['0', 'X']])
      (length : digits.length = 2 * n) (value : Digits.value? 16 digits = some w.toNat) :
      Spells w (.string (String.ofList (marker ++ digits)))
  | bytes (extra : List Json) (atMost : extra.length ≤ 1)
      (noByte : ∀ v ∈ extra, ∀ b : UInt8, v ≠ .nat b.toNat) :
      Spells w (.array (w.toBytes.map (fun b => .nat b.toNat) ++ extra))

variable {n : Nat} {w : Word n}

theorem byte?_eq_some_iff {v : Json} {b : UInt8} : v.byte? = some b ↔ v = .nat b.toNat := by
  constructor
  · intro h
    unfold byte? at h
    split at h
    · rename_i i
      split at h
      · rename_i hrange
        obtain rfl := Option.some.inj h
        rw [nat, UInt8.toNat_ofNat', integer.injEq]
        omega
      · cases h
    · cases h
  · rintro rfl
    have hlt : b.toNat < 256 := b.toNat_lt
    rw [nat, byte?, if_pos (by omega), Int.toNat_natCast, UInt8.ofNat_toNat]

theorem mapM_byte?_eq_some_iff {items : List Json} {bs : Bytes} :
    items.mapM byte? = some bs ↔ items = bs.map fun b => .nat b.toNat := by
  induction items generalizing bs with
  | nil => cases bs <;> simp
  | cons v rest ih =>
    simp only [List.mapM_cons, Option.bind_eq_bind, Option.bind_eq_some_iff, byte?_eq_some_iff, ih]
    constructor
    · rintro ⟨b, rfl, bs, rfl, h⟩
      obtain rfl := Option.some.inj h
      rfl
    · intro h
      cases bs with
      | nil => cases h
      | cons b bs =>
        obtain ⟨rfl, rfl⟩ := List.cons.inj h
        exact ⟨b, rfl, bs, rfl, rfl⟩

theorem ofBytes?_eq_some_iff {bs : Bytes} : Word.ofBytes? n bs = some w ↔ bs = w.toBytes := by
  constructor
  · intro h
    unfold Word.ofBytes? at h
    split at h
    · obtain rfl := Option.some.inj h
      rfl
    · cases h
  · rintro rfl
    exact w.ofBytes?_toBytes

theorem wordOfItems?_eq_some_iff {items : List Json} : wordOfItems? n items = some w ↔
    (items.drop n).length ≤ 1 ∧ (∀ v ∈ items.drop n, v.byte? = none) ∧
      items.take n = w.toBytes.map fun b => .nat b.toNat := by
  have hread : ((items.take n).mapM byte?).bind (Word.ofBytes? n) = some w ↔
      items.take n = w.toBytes.map fun b => .nat b.toNat := by
    simp [Option.bind_eq_some_iff, mapM_byte?_eq_some_iff, ofBytes?_eq_some_iff]
  unfold wordOfItems?
  split
  · rename_i hdrop
    simp [hdrop, hread]
  · rename_i extra hdrop
    cases hextra : extra.byte? with
    | none => simp [hdrop, hread, hextra]
    | some b => simp [hdrop, hextra]
  · rename_i hnil hone
    have hlong : ¬ (items.drop n).length ≤ 1 := fun hle => by
      rcases Nat.le_one_iff_eq_zero_or_eq_one.mp hle with hzero | hone'
      · exact hnil (List.length_eq_zero_iff.mp hzero)
      · obtain ⟨extra, hextra⟩ := List.length_eq_one_iff.mp hone'
        exact hone extra hextra
    exact ⟨nofun, fun h => absurd h.1 hlong⟩

theorem byte?_eq_none_iff {v : Json} : v.byte? = none ↔ ∀ b : UInt8, v ≠ .nat b.toNat := by
  simp [Option.eq_none_iff_forall_ne_some, byte?_eq_some_iff]

theorem word?_array_iff {items : List Json} :
    (array items).word? n = some w ↔ Spells w (array items) := by
  rw [word?, wordOfItems?_eq_some_iff]
  constructor
  · rintro ⟨hlength, hnone, htake⟩
    rw [← List.take_append_drop n items, htake]
    exact .bytes _ hlength fun v hv => byte?_eq_none_iff.mp (hnone v hv)
  · rintro ⟨⟩
    rename_i extra hlength hnone
    have hcount : (w.toBytes.map fun b => nat b.toNat).length = n := by
      rw [List.length_map, w.length_toBytes]
    rw [List.drop_left' hcount, List.take_left' hcount]
    exact ⟨hlength, fun v hv => byte?_eq_none_iff.mpr (hnone v hv), rfl⟩

theorem exists_marker (text : List Char) : ∃ marker ∈ [[], ['0', 'x'], ['0', 'X']],
    text = marker ++ Hex.dropMarker text := by
  unfold Hex.dropMarker
  split
  · exact ⟨['0', 'x'], by simp, rfl⟩
  · exact ⟨['0', 'X'], by simp, rfl⟩
  · exact ⟨[], by simp, rfl⟩

theorem dropMarker_append {marker digits : List Char} {v : Nat}
    (hmarker : marker ∈ [[], ['0', 'x'], ['0', 'X']]) (h : Digits.value? 16 digits = some v) :
    Hex.dropMarker (marker ++ digits) = digits := by
  simp only [List.mem_cons, List.not_mem_nil, or_false] at hmarker
  rcases hmarker with rfl | rfl | rfl
  · exact Hex.dropMarker_of_value? h
  · rfl
  · rfl

theorem decodeWord?_eq_some_iff {text : List Char} : Hex.decodeWord? n text = some w ↔
    (Hex.dropMarker text).length = 2 * n ∧
      Digits.value? 16 (Hex.dropMarker text) = some w.toNat := by
  simp only [Hex.decodeWord?, Hex.decode?, Option.bind_eq_some_iff, ofBytes?_eq_some_iff,
    exists_eq_right, Hex.ofDigits?_eq_some_iff, w.length_toBytes]
  rfl

theorem word?_string_iff {s : String} : (string s).word? n = some w ↔ Spells w (string s) := by
  rw [word?, decodeWord?_eq_some_iff]
  constructor
  · rintro ⟨hlength, hvalue⟩
    obtain ⟨marker, hmarker, htext⟩ := exists_marker s.toList
    have hspelled : Spells w _ := .digits marker _ hmarker hlength hvalue
    rwa [← htext, String.ofList_toList] at hspelled
  · rintro ⟨⟩
    rename_i marker digits hmarker hlength hvalue
    rw [String.toList_ofList, dropMarker_append hmarker hvalue]
    exact ⟨hlength, hvalue⟩

/-- A value stands for a word exactly if it spells it. -/
theorem word?_eq_some_iff {v : Json} : v.word? n = some w ↔ Spells w v := by
  cases v with
  | string s => exact word?_string_iff
  | array items => exact word?_array_iff
  | null | bool | integer | real | object => exact ⟨nofun, nofun⟩

end Json

end SealedChain
