import SealedChain.Client.Exchange
import SealedChain.Url.Basic

/-!
# Frames over a socket

One socket carries the frames of every exchange. Text messages are inbound frames, and so are
binary messages that hold UTF-8; all other messages are passed over. A close message, a read error
or the end of the stream ends the inbound frames, and nothing that comes later counts.
-/
namespace SealedChain.Socket

/-- The URL of a socket that is opened over a network with this fault, if it has one. -/
def connect (fault : Option NetworkFault) (url : String) : Except TransportError Url :=
  match Url.parse url, fault with
  | .error e, _ => .error (.invalidUrl e)
  | .ok _, some fault => .error (.webSocket fault)
  | .ok url, none => .ok url

/-- What is read from a socket. -/
inductive Event where
  | text (frame : String)
  | binary (bytes : ByteArray)
  /-- A ping, a pong or another message that carries no frame. -/
  | control
  | close
  | failure
  | ended

def Event.isLast : Event → Bool
  | .close | .failure | .ended => true
  | .text _ | .binary _ | .control => false

def Event.frame? : Event → Option String
  | .text frame => some frame
  | .binary bytes => String.fromUTF8? bytes
  | .control | .close | .failure | .ended => none

def frames : List Event → List String
  | [] => []
  | event :: rest => if event.isLast then [] else event.frame?.toList ++ frames rest

def isClosed (events : List Event) : Bool := events.any Event.isLast

def send (events : List Event) : Except TransportError Unit :=
  if isClosed events then .error .closed else .ok ()

/-- What a run of events makes of the client behind the socket. -/
def carry (c : Client) (events : List Event) : Client := c.dispatch (frames events) (isClosed events)

theorem frames_eq (events : List Event) :
    frames events = (events.takeWhile (!·.isLast)).filterMap Event.frame? := by
  induction events with
  | nil => rfl
  | cons event rest ih =>
    unfold frames
    cases h : event.isLast with
    | true => simp [h]
    | false => cases hf : event.frame? <;> simp [h, hf, ih]

end SealedChain.Socket
