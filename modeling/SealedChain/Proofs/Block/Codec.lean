import SealedChain.Block.Command
import SealedChain.Block.History
import SealedChain.Block.Record
import SealedChain.Block.Tag
import SealedChain.Json.Truth
import SealedChain.Proofs.Json.Members

/-!
# Blocks, tags and commands read back

What one side writes the other reads as the same thing: tags and records whose numbers have
sixty-four bits, commands, acknowledgments and the call for a block hash. Records arrive with their
members in order.
-/
namespace SealedChain

open Json (lookup_insertAll lookup sorted sortedMembers)

namespace Digits

theorem below?_toDigits {limit n : Nat} (h : n < limit) :
    below? limit 16 (Nat.toDigits 16 n) = some n := by
  have hvalue : value? 16 (Nat.toDigits 16 n) = some n :=
    value?_toDigits (by decide) (by decide) n
  have hread : unsigned? 16 (Nat.toDigits 16 n) = some n := by
    obtain ⟨c, cs, hcons⟩ := List.exists_cons_of_ne_nil
      (Nat.toDigits_ne_nil : Nat.toDigits 16 n ≠ [])
    have hplus : c ≠ '+' := by
      have hdigit := isSome_digit?_of_valueFrom? hvalue c (by simp [hcons])
      rintro rfl
      exact absurd hdigit (by decide)
    rw [hcons] at hvalue ⊢
    unfold unsigned?
    split
    · rename_i heq
      exact absurd (List.cons.inj heq).1 hplus
    · exact hvalue
  rw [below?, hread]
  exact if_pos h

end Digits

namespace Json

@[simp] theorem sorted_ofWord {n : Nat} (w : Word n) : (ofWord w).sorted = ofWord w := by
  simp only [ofWord, sorted]

@[simp] theorem sorted_ofBytes (bs : Bytes) : (ofBytes bs).sorted = ofBytes bs := by
  simp only [ofBytes, sorted]

@[simp] theorem sorted_ofQuantity (n : Nat) : (ofQuantity n).sorted = ofQuantity n := by
  simp only [ofQuantity, sorted]

@[simp] theorem fits_ofWord {n : Nat} (w : Word n) (depth : Nat) : (ofWord w).fits depth = true := by
  simp only [ofWord, fits]

@[simp] theorem fits_ofBytes (bs : Bytes) (depth : Nat) : (ofBytes bs).fits depth = true := by
  simp only [ofBytes, fits]

@[simp] theorem fits_ofQuantity (n depth : Nat) : (ofQuantity n).fits depth = true := by
  simp only [ofQuantity, fits]

theorem sortedItems_ofWord {n : Nat} (words : List (Word n)) :
    sortedItems (words.map ofWord) = words.map ofWord := by
  induction words with
  | nil => rfl
  | cons w rest ih => rw [List.map_cons, sortedItems, ih, sorted_ofWord]

theorem fitsItems_ofWord {n : Nat} (words : List (Word n)) (depth : Nat) :
    fitsItems (words.map ofWord) depth = true := by
  induction words with
  | nil => rfl
  | cons w rest ih => rw [List.map_cons, fitsItems, ih, fits_ofWord, Bool.and_true]

theorem list?_ofWord {n : Nat} (words : List (Word n)) :
    list? (word? n) (.array (words.map ofWord)) = some words := by
  rw [list?]
  induction words with
  | nil => rfl
  | cons w rest ih =>
    rw [List.map_cons, List.mapM_cons, word?_ofWord, ih]
    rfl

theorem optional?_word?_ofWord {n : Nat} (w : Word n) :
    optional? (word? n) (ofWord w) = some (some w) := by
  rw [← Option.map_some, ← word?_ofWord]
  rfl

theorem optional?_bytes?_ofBytes (bs : Bytes) : optional? bytes? (ofBytes bs) = some (some bs) := by
  rw [← Option.map_some, ← bytes?_ofBytes]
  rfl

end Json

theorem Json.isTruthy_of_get? {v x : Json} {key : String} (h : v.get? key = some x) :
    v.isTruthy = true := by
  cases v with
  | object members =>
    cases members with
    | nil => simp [get?, lookup] at h
    | cons m rest => rfl
  | _ => simp [get?] at h

def BlockTag.InRange : BlockTag → Prop
  | .number n => n < limit64
  | _ => True

/-- The text of a tag is read as the tag. -/
theorem BlockTag.parse_display {t : BlockTag} (h : t.InRange) : parse t.display = .ok t := by
  cases t with
  | number n =>
    have htext : (number n).display.toList = '0' :: 'x' :: Nat.toDigits 16 n := by
      rw [display, Json.quantityText, String.toList_ofList, Digits.hexadecimal]
    have hne : ∀ word : String, word.toList.head? ≠ some '0' → (number n).display ≠ word := by
      intro word hword heq
      rw [← heq, htext] at hword
      exact hword rfl
    unfold parse
    rw [if_neg (hne "latest" (by decide)), if_neg (hne "finalized" (by decide)),
      if_neg (hne "safe" (by decide)), if_neg (hne "earliest" (by decide)),
      if_neg (hne "pending" (by decide)), htext]
    simp only [Digits.below?_toDigits (show n < limit64 from h)]
  | _ => rfl

theorem BlockTag.ofJson?_toJson {t : BlockTag} (h : t.InRange) : ofJson? t.toJson = some t := by
  rw [toJson, ofJson?, parse_display h]
  rfl

theorem BlockCommand.ofParams_params (c : BlockCommand) : ofParams c.params = .ok c := by
  obtain ⟨createEmpty, finalize, parent⟩ := c
  cases parent with
  | none => rfl
  | some hash =>
    have hparent : parentOf (some (Json.ofWord hash)) = .ok (some hash) := by
      have hread := Json.word?_ofWord hash
      rw [Json.ofWord] at hread ⊢
      simp only [parentOf, hread]
    simp [ofParams, params, Json.bool?, hparent, Except.map]

theorem BlockRecord.ofJson?_sorted {b : BlockRecord} (h : b.number < limit64) :
    ofJson? b.toJson.sorted = some b := by
  rw [toJson, Json.sorted, Json.ofMembers_eq]
  simp [members, ofJson?, Json.fields?, Json.required?, lookup_insertAll, lookup,
    sortedMembers, sorted, Json.sortedItems_ofWord, Json.list?_ofWord,
    Json.quantity?_ofQuantity h]

theorem ImportedAux.ofJson?_sorted (a : ImportedAux) : ofJson? a.toJson.sorted = some a := by
  rw [toJson, Json.sorted, Json.ofMembers_eq]
  simp [members, ofJson?, Json.fields?, Json.required?, lookup_insertAll, lookup,
    sortedMembers, sorted, Json.bool?]

theorem CreatedBlock.ofJson?_sorted (b : CreatedBlock) : ofJson? b.toJson.sorted = some b := by
  rw [toJson, Json.sorted, Json.ofMembers_eq]
  simp [members, ofJson?, Json.fields?, Json.required?, lookup_insertAll, lookup,
    sortedMembers, ImportedAux.ofJson?_sorted]

theorem CreatedBlock.get?_hash (b : CreatedBlock) :
    b.toJson.sorted.get? "hash" = some (.ofWord b.hash) := by
  rw [toJson, Json.sorted, Json.get?_ofMembers]
  simp [members, sortedMembers, lookup]

theorem CreatedBlock.fits_toJson (b : CreatedBlock) : b.toJson.sorted.fits 126 = true := by
  refine Json.fits_sorted _ ?_
  simp [toJson, members, ImportedAux.toJson, ImportedAux.members, Json.fits, Json.fitsMembers]

theorem CallRequest.ofJson?_sorted (height : Nat) :
    ofJson? (blockHash height).toJson.sorted = some (blockHash height) := by
  rw [toJson, Json.sorted, Json.ofMembers_eq]
  simp [blockHash, members, ofJson?, Json.fields?, Json.optionalField?, lookup_insertAll, lookup,
    sortedMembers, Json.optional?_word?_ofWord, Json.optional?_bytes?_ofBytes]

end SealedChain
