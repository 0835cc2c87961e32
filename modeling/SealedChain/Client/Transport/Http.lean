import SealedChain.Client.Error
import SealedChain.Json.Shape

/-!
# Frames over HTTP

Each frame is posted on its own, and the body of the response is the inbound frame. A response that
reports no success or holds no value fails the exchange that posted the frame. An error without an
id answers the frame that was posted, so it gets that frame's id before it is routed.
-/
namespace SealedChain.Http

/-- The most bytes of a body that a failure quotes. -/
def maxExcerpt : Nat := 256

def byteLength : List Char → Nat
  | [] => 0
  | c :: rest => c.utf8Size + byteLength rest

/-- The longest start of a text that has at most this many bytes. -/
def takeBytes : Nat → List Char → List Char
  | _, [] => []
  | limit, c :: rest =>
    if c.utf8Size ≤ limit then c :: takeBytes (limit - c.utf8Size) rest else []

def excerpt (body : String) : String := String.ofList (takeBytes maxExcerpt body.toList)

def requestId? (frame : String) : Option Json :=
  ((Json.parseAs (.record [("id", .any)]) frame).bind (·.fields? ["id"])).bind (Json.lookup "id")

/-- The error of a reply without an id, under the given id. -/
def adopt? (id : Json) : Json → Option Json
  | .object members =>
    let anonymous := match Json.lookup "id" members with
      | none | some .null => true
      | some _ => false
    if anonymous && (Json.lookup "error" members).isSome then
      some (.object (Json.insertMember "id" id members))
    else none
  | _ => none

inductive PostOutcome where
  | failed (fault : NetworkFault)
  | response (status : Nat) (body : String)
  deriving DecidableEq, Repr

/-- The inbound frame that a response holds. -/
def receive (frame : String) : PostOutcome → Except TransportError String
  | .failed fault => .error (.http fault)
  | .response status body =>
    if status < 200 ∨ 300 ≤ status then .error (.status status)
    else match Json.parse body with
      | none => .error (.malformedFrame (excerpt body))
      | some reply =>
        match (requestId? frame).bind (adopt? · reply) with
        | some adopted => .ok adopted.render
        | none => .ok body

theorem byteLength_takeBytes (limit : Nat) (cs : List Char) :
    byteLength (takeBytes limit cs) ≤ limit := by
  induction cs generalizing limit with
  | nil => exact Nat.zero_le _
  | cons c cs ih =>
    unfold takeBytes
    split
    · have := ih (limit - c.utf8Size)
      simp only [byteLength]
      omega
    · exact Nat.zero_le _

theorem takeBytes_initial (limit : Nat) (cs : List Char) : takeBytes limit cs <+: cs := by
  induction cs generalizing limit with
  | nil => simp [takeBytes]
  | cons c cs ih =>
    unfold takeBytes
    split
    · exact (List.prefix_cons_inj c).2 (ih _)
    · simp

end SealedChain.Http
