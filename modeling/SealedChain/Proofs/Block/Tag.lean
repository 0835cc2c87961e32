import Mathlib.Data.Nat.Digits.Lemmas
import SealedChain.Proofs.Json.Word
import SealedChain.Proofs.Node.Reply

/-!
# Texts of block tags

The texts that name a block are the five roles and the heights of sixty-four bits in hexadecimal
digits after `0x`. Each of them is read as what it names. One kind of text is read beyond these: a
height with a plus sign before its digits. Requests that take a block tag read it the same way.
-/
namespace SealedChain

namespace Digits

def hexadecimalDigits : List Char := "0123456789abcdef".toList

def IsHexadecimal (c : Char) (d : Nat) : Prop := hexadecimalDigits[d]? = some c.toLower

/-- One or more hexadecimal digits are the notation of a number, the first digit counting most. -/
structure Denotes (digits : List Char) (n : Nat) : Prop where
  nonempty : digits ≠ []
  value : ∃ ds, List.Forall₂ IsHexadecimal digits ds ∧ Nat.ofDigits 16 ds.reverse = n

theorem not_le_of_ascii {c d : Char} (h : 128 ≤ c.toNat) (hd : d.toNat < 128) : ¬ c ≤ d :=
  fun hle => absurd (Nat.le_trans h hle) (Nat.not_le.mpr hd)

theorem toLower_of_le {c : Char} (h : 128 ≤ c.toNat) : c.toLower = c := by
  unfold Char.toLower
  rw [dif_neg fun hupper => not_le_of_ascii h (by decide : 'Z'.toNat < 128) hupper.2]

theorem digit?_of_le {base : Nat} {c : Char} (h : 128 ≤ c.toNat) : digit? base c = none := by
  rw [digit?, symbol?, if_neg fun hc => not_le_of_ascii h (by decide : '9'.toNat < 128) hc.2,
    if_neg fun hc => not_le_of_ascii h (by decide : 'z'.toNat < 128) hc.2,
    if_neg fun hc => not_le_of_ascii h (by decide : 'Z'.toNat < 128) hc.2]

theorem digit?_eq_some_iff {c : Char} {d : Nat} : digit? 16 c = some d ↔ IsHexadecimal c d := by
  have hascii : ∀ n : Fin 128, ∀ v : Fin 16, digit? 16 (Char.ofNat n.val) = some v.val ↔
      hexadecimalDigits[v.val]? = some (Char.ofNat n.val).toLower := by
    decide +kernel
  have hrange : IsHexadecimal c d → d < 16 := fun h => (List.getElem?_eq_some_iff.mp h).1
  rcases Nat.lt_or_ge c.toNat 128 with hlt | hge
  · rcases Nat.lt_or_ge d 16 with hd | hd
    · have hc := hascii ⟨c.toNat, hlt⟩ ⟨d, hd⟩
      rwa [Char.ofNat_toNat] at hc
    · exact iff_of_false (fun h => Nat.not_lt.mpr hd (digit?_lt h))
        (fun h => Nat.not_lt.mpr hd (hrange h))
  · refine iff_of_false (by rw [digit?_of_le hge]; simp) fun h => ?_
    have hmem : c ∈ hexadecimalDigits := toLower_of_le hge ▸ List.mem_of_getElem? h
    have hall : hexadecimalDigits.all (decide <| ·.toNat < 128) = true := by decide
    exact absurd (of_decide_eq_true (List.all_eq_true.mp hall c hmem)) (Nat.not_lt.mpr hge)

theorem valueFrom?_eq_some_iff {acc n : Nat} {cs : List Char} : valueFrom? 16 acc cs = some n ↔
    ∃ ds, List.Forall₂ IsHexadecimal cs ds ∧
      acc * 16 ^ ds.length + Nat.ofDigits 16 ds.reverse = n := by
  have hstep : ∀ (acc d : Nat) (ds : List Nat),
      acc * 16 ^ (d :: ds).length + Nat.ofDigits 16 (d :: ds).reverse =
        (acc * 16 + d) * 16 ^ ds.length + Nat.ofDigits 16 ds.reverse := by
    intro acc d ds
    rw [List.reverse_cons, Nat.ofDigits_append, Nat.ofDigits_singleton, List.length_reverse,
      List.length_cons, Nat.pow_succ]
    ring
  induction cs generalizing acc with
  | nil =>
    rw [valueFrom?, Option.some.injEq]
    constructor
    · rintro rfl
      exact ⟨[], .nil, by simp⟩
    · rintro ⟨ds, hds, hn⟩
      cases hds
      simpa using hn
  | cons c cs ih =>
    rw [valueFrom?]
    constructor
    · intro h
      cases hd : digit? 16 c with
      | none => simp [hd] at h
      | some d =>
        rw [hd] at h
        obtain ⟨ds, hds, hn⟩ := ih.mp h
        exact ⟨d :: ds, .cons (digit?_eq_some_iff.mp hd) hds, (hstep acc d ds).trans hn⟩
    · rintro ⟨_, hds, hn⟩
      cases hds with
      | cons hd hds =>
        rw [digit?_eq_some_iff.mpr hd]
        exact ih.mpr ⟨_, hds, (hstep _ _ _).symm.trans hn⟩

theorem value?_eq_some_iff {n : Nat} {cs : List Char} : value? 16 cs = some n ↔
    ∃ ds, List.Forall₂ IsHexadecimal cs ds ∧ Nat.ofDigits 16 ds.reverse = n := by
  simp only [value?, valueFrom?_eq_some_iff, Nat.zero_mul, Nat.zero_add]

theorem not_denotes_plus (cs : List Char) (n : Nat) : ¬ Denotes ('+' :: cs) n := by
  rintro ⟨-, _, hds, -⟩
  cases hds with
  | cons hd =>
    have hplus := digit?_eq_some_iff.mpr hd
    rw [show digit? 16 '+' = none by decide] at hplus
    cases hplus

theorem below?_eq_some_iff {limit n : Nat} {cs : List Char} : below? limit 16 cs = some n ↔
    n < limit ∧ (Denotes cs n ∨ ∃ digits, cs = '+' :: digits ∧ Denotes digits n) := by
  have hdenotes : ∀ digits, Denotes digits n ↔ digits ≠ [] ∧ value? 16 digits = some n :=
    fun digits => by
      rw [value?_eq_some_iff]
      exact ⟨fun h => ⟨h.nonempty, h.value⟩, fun h => ⟨h.1, h.2⟩⟩
  have hunsigned : unsigned? 16 cs = some n ↔
      Denotes cs n ∨ ∃ digits, cs = '+' :: digits ∧ Denotes digits n := by
    unfold unsigned?
    split
    · rename_i digits
      rw [or_iff_right (not_denotes_plus digits n)]
      simp [hdenotes]
    · rename_i hplus
      have hnone : ¬ ∃ digits, cs = '+' :: digits ∧ Denotes digits n :=
        fun ⟨digits, h, _⟩ => hplus digits h
      rw [or_iff_left hnone]
      simp [hdenotes]
  rw [← hunsigned, below?]
  cases unsigned? 16 cs with
  | none => simp
  | some v =>
    simp only [Option.some.injEq]
    split <;> grind

end Digits

namespace BlockTag

open Digits (Denotes)

/-- A text names a block: by its role, or by its height in hexadecimal digits after `0x`. -/
inductive Names : String → BlockTag → Prop
  | latest : Names "latest" .latest
  | finalized : Names "finalized" .finalized
  | safe : Names "safe" .safe
  | earliest : Names "earliest" .earliest
  | pending : Names "pending" .pending
  | number (digits : List Char) (n : Nat) (denotes : Denotes digits n) (inRange : n < 2 ^ 64) :
      Names ("0x" ++ String.ofList digits) (.number n)

/-- A text is a height with a plus sign before its digits. -/
def NamesSigned (text : String) (n : Nat) : Prop :=
  ∃ digits, text = "0x+" ++ String.ofList digits ∧ Denotes digits n ∧ n < 2 ^ 64

theorem toList_marked (digits : List Char) :
    ("0x" ++ String.ofList digits).toList = '0' :: 'x' :: digits := by
  rw [String.toList_append, String.toList_ofList (l := digits)]
  rfl

theorem parse_marked (digits : List Char) : (parse ("0x" ++ String.ofList digits)).toOption =
    (Digits.below? limit64 16 digits).map .number := by
  have hne : ∀ word : String, word.toList.head? ≠ some '0' →
      "0x" ++ String.ofList digits ≠ word := by
    intro word hword heq
    rw [← heq, toList_marked] at hword
    exact hword rfl
  unfold parse
  rw [if_neg (hne "latest" (by decide)), if_neg (hne "finalized" (by decide)),
    if_neg (hne "safe" (by decide)), if_neg (hne "earliest" (by decide)),
    if_neg (hne "pending" (by decide)), toList_marked]
  cases hdigits : Digits.below? limit64 16 digits <;> simp [hdigits, Except.toOption]

theorem toOption_eq_some {ε α : Type} {x : Except ε α} {a : α} : x.toOption = some a ↔ x = .ok a := by
  cases x <;> simp [Except.toOption]

theorem role_or_marked {text : String} {tag : BlockTag} (h : parse text = .ok tag) :
    Names text tag ∨ ∃ digits, text = "0x" ++ String.ofList digits := by
  unfold parse at h
  split at h
  case isTrue htext => exact .inl (htext ▸ Except.ok.inj h ▸ .latest)
  split at h
  case isTrue htext => exact .inl (htext ▸ Except.ok.inj h ▸ .finalized)
  split at h
  case isTrue htext => exact .inl (htext ▸ Except.ok.inj h ▸ .safe)
  split at h
  case isTrue htext => exact .inl (htext ▸ Except.ok.inj h ▸ .earliest)
  split at h
  case isTrue htext => exact .inl (htext ▸ Except.ok.inj h ▸ .pending)
  split at h
  · rename_i digits htext
    exact .inr ⟨digits, by rw [← String.toList_inj, toList_marked, htext]⟩
  · cases h

theorem parse_marked_iff {digits : List Char} {tag : BlockTag} :
    parse ("0x" ++ String.ofList digits) = .ok tag ↔ ∃ n, n < 2 ^ 64 ∧ tag = .number n ∧
      (Denotes digits n ∨ ∃ signed, digits = '+' :: signed ∧ Denotes signed n) := by
  rw [← toOption_eq_some, parse_marked, Option.map_eq_some_iff]
  simp only [Digits.below?_eq_some_iff, show limit64 = 2 ^ 64 from rfl]
  constructor
  · rintro ⟨n, ⟨hlt, hdigits⟩, rfl⟩
    exact ⟨n, hlt, rfl, hdigits⟩
  · rintro ⟨n, hlt, rfl, hdigits⟩
    exact ⟨n, ⟨hlt, hdigits⟩, rfl⟩

theorem parse_of_names {text : String} {tag : BlockTag} (h : Names text tag) :
    parse text = .ok tag := by
  cases h with
  | number digits n hdigits hlt => exact parse_marked_iff.mpr ⟨n, hlt, rfl, .inl hdigits⟩
  | _ => rfl

theorem append_plus (digits : List Char) :
    "0x+" ++ String.ofList digits = "0x" ++ String.ofList ('+' :: digits) := by
  rw [← String.toList_inj, toList_marked, String.toList_append, String.toList_ofList (l := digits)]
  rfl

theorem parse_of_namesSigned {text : String} {n : Nat} (h : NamesSigned text n) :
    parse text = .ok (.number n) := by
  obtain ⟨digits, rfl, hdigits, hlt⟩ := h
  rw [append_plus]
  exact parse_marked_iff.mpr ⟨n, hlt, rfl, .inr ⟨digits, rfl, hdigits⟩⟩

theorem parse_eq_ok_iff {text : String} {tag : BlockTag} :
    parse text = .ok tag ↔ Names text tag ∨ ∃ n, NamesSigned text n ∧ tag = .number n := by
  constructor
  · intro h
    rcases role_or_marked h with hrole | ⟨digits, rfl⟩
    · exact .inl hrole
    · obtain ⟨n, hlt, rfl, hdigits | ⟨signed, rfl, hsigned⟩⟩ := parse_marked_iff.mp h
      · exact .inl (.number digits n hdigits hlt)
      · exact .inr ⟨n, ⟨signed, (append_plus signed).symm, hsigned, hlt⟩, rfl⟩
  · rintro (h | ⟨n, h, rfl⟩)
    · exact parse_of_names h
    · exact parse_of_namesSigned h

/-- A height with a sign is no name of a block. -/
theorem NamesSigned.not_names {text : String} {n : Nat} (h : NamesSigned text n) (tag : BlockTag) :
    ¬ Names text tag := by
  obtain ⟨digits, rfl, -, -⟩ := h
  rw [append_plus]
  intro hnames
  generalize htext : "0x" ++ String.ofList ('+' :: digits) = text at hnames
  have hlist := congrArg String.toList htext
  rw [toList_marked] at hlist
  cases hnames with
  | number others n hothers =>
    rw [toList_marked] at hlist
    obtain rfl : '+' :: digits = others := List.tail_eq_of_cons_eq (List.tail_eq_of_cons_eq hlist)
    exact Digits.not_denotes_plus digits n hothers
  | _ => simp at hlist

theorem ofJson?_refused {text : String} {fault : ParseError} (h : parse text = .error fault) :
    ofJson? (.string text) = none := by
  rw [ofJson?, h]
  rfl

theorem ofJson?_eq_some_iff {v : Json} {tag : BlockTag} :
    ofJson? v = some tag ↔ ∃ text, v = .string text ∧ parse text = .ok tag := by
  cases v <;> simp [ofJson?, toOption_eq_some]

/-- What a request demands by the tag that one of its parameters is read as, or the code with which
it is refused. -/
def demanded (demand : BlockTag → Node.Demand) : Except ParseError BlockTag → Except Int Node.Demand
  | .ok tag => .ok (demand tag)
  | .error _ => .error (-32602)

section Requests

variable {body : ByteArray} {e : Node.Envelope} {text : String}

theorem reads_getBlockByNumber {rest : List Json} {full : Option Bool} (holds : Node.Holds body e)
    (hmethod : e.method = "eth_getBlockByNumber") (hargs : e.args = .string text :: rest)
    (hcount : rest.length ≤ 1) (hfull : Node.Optional Json.bool? rest.head? full) :
    Node.Reads body (demanded (fun tag => .question (.byTag tag)) (parse text)) := by
  have hname : Rpc.Method.getBlockByNumber.name = e.method := hmethod.symm
  cases hparse : parse text with
  | ok tag =>
    have hread : ofJson? (.string text) = some tag := ofJson?_eq_some_iff.mpr ⟨text, rfl, hparse⟩
    exact .demands e _ _ holds hname (hargs ▸ .getBlockByNumber _ tag rest full hcount hread hfull)
  | error fault =>
    refine .misused e _ holds hname fun d hasks => ?_
    rw [hargs] at hasks
    cases hasks with
    | getBlockByNumber _ tag _ _ _ hread =>
      rw [ofJson?_refused hparse] at hread
      cases hread

theorem reads_call {v : Json} {call : CallRequest} (holds : Node.Holds body e)
    (hmethod : e.method = "eth_call") (hargs : e.args = [v, .string text])
    (hcall : CallRequest.ofJson? v = some call) :
    Node.Reads body (demanded (fun _ => .question (.call call)) (parse text)) := by
  have hname : Rpc.Method.call.name = e.method := hmethod.symm
  cases hparse : parse text with
  | ok tag =>
    have hread : ofJson? (.string text) = some tag := ofJson?_eq_some_iff.mpr ⟨text, rfl, hparse⟩
    exact .demands e _ _ holds hname (hargs ▸ .call v call [.string text] (some tag)
      (Nat.le_refl 1) hcall (.given _ tag (by simp) hread))
  | error fault =>
    refine .misused e _ holds hname fun d hasks => ?_
    rw [hargs] at hasks
    cases hasks with
    | call _ _ _ _ _ _ htag =>
      obtain ⟨tag, hread, -⟩ := (Node.optional_some (by simp)).mp htag
      rw [ofJson?_refused hparse] at hread
      cases hread

end Requests

structure Decides (text : String) : Prop where
  value : ∀ tag, ofJson? (.string text) = some tag ↔ parse text = .ok tag
  strings : ∀ v tag, ofJson? v = some tag → ∃ other, v = .string other
  byNumber : ∀ body e rest full, Node.Holds body e → e.method = "eth_getBlockByNumber" →
    e.args = .string text :: rest → rest.length ≤ 1 → Node.Optional Json.bool? rest.head? full →
    Node.Reads body (demanded (fun tag => .question (.byTag tag)) (parse text))
  call : ∀ body e v call, Node.Holds body e → e.method = "eth_call" → e.args = [v, .string text] →
    CallRequest.ofJson? v = some call →
    Node.Reads body (demanded (fun _ => .question (.call call)) (parse text))

theorem decides (text : String) : Decides text where
  value tag := by
    rw [ofJson?_eq_some_iff]
    exact ⟨fun ⟨_, hv, h⟩ => Json.string.inj hv ▸ h, fun h => ⟨text, rfl, h⟩⟩
  strings v tag h := by
    obtain ⟨other, hv, -⟩ := ofJson?_eq_some_iff.mp h
    exact ⟨other, hv⟩
  byNumber _ _ _ _ := reads_getBlockByNumber
  call _ _ _ _ := reads_call

/-- A text is read as a tag exactly if it names the block or is the block's height with a plus sign
before its digits, and every other text is refused. So the names are all that is read exactly where
no height has a sign. -/
theorem parsed_text (text : String) :
    (∀ tag, parse text = .ok tag ↔
      Names text tag ∨ ∃ n, NamesSigned text n ∧ tag = .number n) ∧
    ((∃ fault, parse text = .error fault) ↔
      (∀ tag, ¬ Names text tag) ∧ ∀ n, ¬ NamesSigned text n) ∧
    ((∀ tag, parse text = .ok tag ↔ Names text tag) ↔ ∀ n, ¬ NamesSigned text n) ∧
    (∀ tag tag', Names text tag → Names text tag' → tag = tag') ∧
    Decides text := by
  refine ⟨fun _ => parse_eq_ok_iff, ?_, ?_, ?_, decides text⟩
  · have hrefused : (∃ fault, parse text = .error fault) ↔ ∀ tag, parse text ≠ .ok tag := by
      cases parse text <;> simp
    simp only [hrefused, ne_eq, parse_eq_ok_iff, not_or, forall_and]
    exact and_congr_right fun _ =>
      ⟨fun h n hsigned => h _ ⟨n, hsigned, rfl⟩, fun h _ ⟨n, hsigned, _⟩ => h n hsigned⟩
  · constructor
    · intro h n hsigned
      exact hsigned.not_names _ ((h _).mp (parse_of_namesSigned hsigned))
    · intro hnone tag
      rw [parse_eq_ok_iff, or_iff_left fun ⟨n, hsigned, _⟩ => hnone n hsigned]
  · intro tag tag' h h'
    exact Except.ok.inj ((parse_of_names h).symm.trans (parse_of_names h'))

theorem parse_signed :
    parse "0x+5" = .ok (.number 5) ∧ ∀ tag, ¬ Names "0x+5" tag := by
  have hsigned : NamesSigned "0x+5" 5 :=
    ⟨['5'], rfl, ⟨by simp, [5], .cons rfl .nil, rfl⟩, by decide⟩
  exact ⟨parse_of_namesSigned hsigned, hsigned.not_names⟩

end BlockTag

end SealedChain
