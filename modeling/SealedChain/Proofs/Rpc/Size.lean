import Mathlib.Data.Nat.Digits.Lemmas
import SealedChain.Json.Printer
import SealedChain.Rpc.Request

/-!
# How long a frame is

A string takes no more than six characters for each of its own, an id no more than twenty digits,
and a character no more than four bytes. So a frame is bounded by its method and its parameters.
-/
namespace SealedChain

namespace Json

theorem length_escape_le (c : Char) : (escape c).length ≤ 6 := by
  unfold escape
  repeat' split
  all_goals simp

theorem length_quoted_le (s : String) : (quoted s).length ≤ 6 * s.length + 2 := by
  have hescaped : ∀ cs : List Char, (cs.flatMap escape).length ≤ 6 * cs.length := by
    intro cs
    induction cs with
    | nil => simp
    | cons c cs ih =>
      have hc := length_escape_le c
      simp only [List.flatMap_cons, List.length_append, List.length_cons]
      omega
  have hs := hescaped s.toList
  rw [String.length_toList] at hs
  simp only [quoted, List.length_cons, List.length_append, List.length_nil]
  omega

end Json

theorem Digits.length_decimal_le {n : Nat} (h : n < limit64) : (decimal n).length ≤ 20 := by
  rw [decimal, Nat.length_toDigits_le_iff (by omega) (by omega)]
  unfold limit64 at h
  omega

theorem size_toUTF8_le (cs : List Char) : (String.ofList cs).toUTF8.size ≤ 4 * cs.length := by
  rw [String.toUTF8_eq_toByteArray, String.size_toByteArray]
  induction cs with
  | nil => simp
  | cons c cs ih =>
    have hc := c.utf8Size_le_four
    rw [String.ofList_cons, String.utf8ByteSize_append, String.utf8ByteSize_singleton,
      List.length_cons]
    omega

namespace Rpc.Request

theorem size_frame_le {id : Nat} (hid : id < limit64) (method : String) (params : List Json) :
    (new id method params).frame.toUTF8.size ≤
      4 * (6 * method.length + (Json.itemChars params).length + 70) := by
  refine (size_toUTF8_le _).trans (Nat.mul_le_mul_left 4 ?_)
  have hdigits := Digits.length_decimal_le hid
  have hmethod := Json.length_quoted_le method
  have hversion : (Json.quoted "jsonrpc").length = 9 ∧ (Json.quoted Rpc.version).length = 5 := by
    decide
  have hkeys : (Json.quoted "id").length = 4 ∧ (Json.quoted "method").length = 8 ∧
      (Json.quoted "params").length = 8 := by decide
  have hsigned : Digits.signed id = Digits.decimal id := if_neg (by omega)
  simp only [toJson, members, new, Json.chars, Json.memberChars, Json.nat, hsigned,
    List.length_cons, List.length_append, List.length_nil]
  omega

end Rpc.Request

end SealedChain
