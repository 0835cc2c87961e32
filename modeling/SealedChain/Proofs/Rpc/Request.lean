import SealedChain.Client.Transport.Http
import SealedChain.Proofs.Json.Passage
import SealedChain.Rpc.Request

/-!
# Frames of requests with any parameters

What the parameters of a request hold may be beyond a reader: nested too deep or numbers too large.
A reader of the whole frame then fails, or it finds the members that were written. A reader of the
id alone passes over the rest and always finds the id.
-/
namespace SealedChain

namespace Json.Reader

theorem shaped_any (fuel depth : Nat) {s : List Char} {c : Char} {cs : List Char}
    (hs : s = c :: cs) (hblank : isBlank c = false) :
    shaped (fuel + 1) depth .any s = value (fuel + 1) depth s := by
  subst hs
  rw [shaped, skipBlanks_cons hblank] <;> simp

variable {fuel depth : Nat} {fields : List (String × Shape)} {acc : List (String × Json)}
  {k : String} {s rest : List Char}

theorem shapedMembers_known {shape : Shape} {v : Json} (hshape : Shape.field? k fields = some shape)
    (hnew : lookup k acc = none) (h : shaped fuel depth shape s = some (v, ',' :: rest)) :
    shapedMembers (fuel + 1) depth fields acc (quoted k ++ ':' :: s) =
      shapedMembers fuel depth fields ((k, v) :: acc) rest := by
  rw [quoted, List.cons_append, shapedMembers, skipBlanks_cons rfl]
  simp only [List.append_assoc, List.singleton_append, string_quoted,
    skipBlanks_cons (c := ':') rfl, hshape, hnew, Option.isSome_none, Bool.false_eq_true, if_false,
    h, Option.map_some, skipBlanks_cons (c := ',') rfl]

theorem shapedMembers_unknown (hshape : Shape.field? k fields = none)
    (h : skip fuel .value [] s = some (',' :: rest)) :
    shapedMembers (fuel + 1) depth fields acc (quoted k ++ ':' :: s) =
      shapedMembers fuel depth fields acc rest := by
  rw [quoted, List.cons_append, shapedMembers, skipBlanks_cons rfl]
  simp only [List.append_assoc, List.singleton_append, string_quoted,
    skipBlanks_cons (c := ':') rfl, hshape, h, Option.map_some, skipBlanks_cons (c := ',') rfl]

theorem shapedMembers_last (hshape : Shape.field? k fields = none)
    (h : skip fuel .value [] s = some ('}' :: rest)) :
    shapedMembers (fuel + 1) depth fields acc (quoted k ++ ':' :: s) =
      some (ofMembers acc, rest) := by
  rw [quoted, List.cons_append, shapedMembers, skipBlanks_cons rfl]
  simp only [List.append_assoc, List.singleton_append, string_quoted,
    skipBlanks_cons (c := ':') rfl, hshape, h, Option.map_some, skipBlanks_cons (c := '}') rfl]

theorem shaped_record (fuel depth : Nat) (fields : List (String × Shape)) (k : String)
    (s : List Char) :
    shaped (fuel + 1) (depth + 1) (.record fields) ('{' :: (quoted k ++ s)) =
      shapedMembers fuel depth fields [] (quoted k ++ s) := by
  rw [quoted, List.cons_append]
  simp only [shaped, skipBlanks_cons (c := '\x7b') rfl, skipBlanks_cons (c := '"') rfl]
  split
  · rename_i heq
    simp at heq
  · rfl

end Json.Reader

namespace Rpc.Request

open Json Json.Reader

variable {id : Nat}

def tail (id : Nat) (method : String) (params : List Json) : List Char :=
  quoted "id" ++ ':' :: (chars (.nat id) ++ ',' ::
    (quoted "method" ++ ':' :: (chars (.string method) ++ ',' ::
      (quoted "params" ++ ':' :: (chars (.array params) ++ ['}'])))))

theorem toList_frame (method : String) (params : List Json) :
    (new id method params).frame.toList =
      '{' :: (quoted "jsonrpc" ++ ':' :: (chars (.string Rpc.version) ++ ',' ::
        tail id method params)) := by
  have hobject : ∀ members : List (String × Json),
      chars (.object members) = '{' :: (memberChars members ++ ['}']) := fun _ => by rw [chars]
  rw [frame, render, String.toList_ofList, toJson, hobject]
  simp only [members, new, memberChars, tail, List.append_assoc, List.cons_append]

theorem length_le_frame (id : Nat) (method : String) (params : List Json) :
    (chars (.array params)).length + (chars (.string method)).length +
      (chars (.nat id)).length + (chars (.string Rpc.version)).length + 9 ≤
        (new id method params).frame.toList.length := by
  rw [toList_frame]
  simp only [tail, List.length_cons, List.length_append, List.length_nil]
  omega

theorem value_id (hid : id < limit64) {fuel : Nat} (depth : Nat)
    (hfuel : 2 * (chars (.nat id)).length ≤ fuel) {rest : List Char} (hs : Stops rest) :
    value fuel depth (chars (.nat id) ++ rest) = some (.nat id, rest) := by
  have hread := value_chars (.nat id) (fits_nat hid depth) hs hfuel
  simpa only [Json.nat, Json.sorted] using hread

/-- Whatever the parameters hold, the id is found in the frame. -/
theorem requestId?_frame (hid : id < limit64) (method : String) (params : List Json) :
    Http.requestId? (new id method params).frame = some (.nat id) := by
  have hlength := length_le_frame id method params
  obtain ⟨fuel, hfuel⟩ : ∃ fuel, 2 * (new id method params).frame.toList.length + 2 = fuel + 5 :=
    ⟨2 * (new id method params).frame.toList.length - 3, by omega⟩
  have hshaped : shaped (fuel + 5) maxDepth (.record [("id", .any)])
      (new id method params).frame.toList = some (ofMembers [("id", .nat id)], []) := by
    have hversion : skip (fuel + 3) .value [] (chars (.string Rpc.version) ++ ',' ::
        tail id method params) = some (',' :: tail id method params) :=
      skip_eq _ (stops_comma _) (by omega)
    have hmethod : ∀ rest, skip (fuel + 1) .value [] (chars (.string method) ++ ',' :: rest) =
        some (',' :: rest) := fun rest => skip_eq _ (stops_comma rest) (by omega)
    have hparams : skip fuel .value [] (chars (.array params) ++ ['}']) = some ['}'] :=
      skip_eq _ (stops_brace []) (by omega)
    have hfound : ∀ rest, shaped (fuel + 2) 126 .any (chars (.nat id) ++ ',' :: rest) =
        some (.nat id, ',' :: rest) := fun rest => by
      obtain ⟨c, cs, hcs, hblank, -⟩ := chars_head (.nat id)
      rw [shaped_any (fuel + 1) 126 (by rw [hcs, List.cons_append]) hblank]
      exact value_id hid 126 (by omega) (stops_comma rest)
    rw [toList_frame, maxDepth, shaped_record (fuel + 4) 126, shapedMembers_unknown rfl hversion,
      tail, shapedMembers_known rfl rfl (hfound _), shapedMembers_unknown rfl (hmethod _),
      shapedMembers_last rfl hparams]
  rw [Http.requestId?, Json.parseAs]
  simp only [hfuel, hshaped]
  rfl

def read (id : Nat) (method : String) (items : List Json) : Json :=
  .ofMembers [("jsonrpc", .string Rpc.version), ("id", .nat id), ("method", .string method),
    ("params", .array items)]

/-- A reader of the whole frame fails or finds the members that were written. -/
theorem parse_frame_cases (hid : id < limit64) (method : String) (params : List Json) :
    Json.parse (new id method params).frame = none ∨
      ∃ items, Json.parse (new id method params).frame = some (read id method items) := by
  have hlength := length_le_frame id method params
  obtain ⟨fuel, hfuel⟩ : ∃ fuel, 2 * (new id method params).frame.toList.length + 2 = fuel + 5 :=
    ⟨2 * (new id method params).frame.toList.length - 3, by omega⟩
  have hversion : ∀ rest, value (fuel + 3) 126 (chars (.string Rpc.version) ++ rest) =
      some (.string Rpc.version, rest) := fun rest => by rw [chars]; exact value_string _ _ _ rest
  have hmethod : ∀ rest, value (fuel + 1) 126 (chars (.string method) ++ rest) =
      some (.string method, rest) := fun rest => by rw [chars]; exact value_string _ _ _ rest
  have hfound : ∀ rest, value (fuel + 2) 126 (chars (.nat id) ++ ',' :: rest) =
      some (.nat id, ',' :: rest) := fun rest => value_id hid 126 (by omega) (stops_comma rest)
  have hread : value (fuel + 5) maxDepth (new id method params).frame.toList =
      Reader.members (fuel + 1) 126 [("method", .string method), ("id", .nat id),
        ("jsonrpc", .string Rpc.version)]
        (quoted "params" ++ ':' :: (chars (.array params) ++ ['}'])) := by
    rw [toList_frame, maxDepth, value_members (by rw [quoted, List.cons_append]),
      members_next _ _ (hversion _), tail, members_next _ _ (hfound _), members_next _ _ (hmethod _)]
  rw [Json.parse, parseChars, hfuel, hread]
  cases hparams : value fuel 126 (chars (.array params) ++ ['}']) with
  | none =>
    rw [members_none _ _ hparams]
    exact .inl rfl
  | some read =>
    obtain ⟨w, rest⟩ := read
    obtain ⟨rfl, items, rfl⟩ := array_leaves params (stops_brace []) hparams
    rw [members_last _ _ hparams]
    exact .inr ⟨items, rfl⟩

end Rpc.Request

end SealedChain
