import SealedChain.Rpc.Reply
import SealedChain.Time.Duration
import SealedChain.Url.Error

/-!
# Failures of calls

Why a frame could not be carried, why a call failed, and the wording of both. Every failure ends its
call; nothing is tried again.
-/
namespace SealedChain

inductive NetworkFault where
  | unreachable
  | hungUp
  deriving DecidableEq, Repr

def NetworkFault.message : NetworkFault → String
  | .unreachable => "Network is unreachable (os error 101)"
  | .hungUp => "connection closed before message completed"

inductive TransportError where
  | http (fault : NetworkFault)
  | status (code : Nat)
  | webSocket (fault : NetworkFault)
  | invalidUrl (fault : Url.ParseError)
  | timeout (limit : Millis)
  | closed
  | malformedFrame (excerpt : String)
  deriving DecidableEq, Repr

/-- The wording of a transport failure. A failed exchange over HTTP has none of its own. -/
def TransportError.message? : TransportError → Option String
  | .http _ => none
  | .status code => some ("HTTP error: " ++ String.ofList (Digits.decimal code))
  | .webSocket fault => some ("WebSocket error: IO error: " ++ fault.message)
  | .invalidUrl fault => some ("URL parse error: " ++ fault.message)
  | .timeout limit => some ("Request timed out after " ++ limit.text)
  | .closed => some "Transport closed"
  | .malformedFrame excerpt => some ("Malformed frame: " ++ excerpt)

inductive DecodeFault where
  | shape
  | wordSize (got : Nat)
  deriving DecidableEq, Repr

def DecodeFault.message? : DecodeFault → Option String
  | .shape => none
  | .wordSize got =>
    some ("expected a 32-byte word, got " ++ String.ofList (Digits.decimal got) ++ " bytes")

inductive ClientError where
  | transport (method : String) (params : List Json) (cause : TransportError)
  | protocol (method : String) (error : Rpc.ErrorObject)
  | malformedReply (method : String) (reply : Rpc.Reply)
  /-- The reply to a command has no result that is true. -/
  | engine (reply : Rpc.Reply)
  | settleTimeout (hash : Hash) (waited : Millis)
  | emptyMethod
  | decode (method : String) (fault : DecodeFault)
  deriving DecidableEq

namespace ClientError

def paramsText (params : List Json) : String := String.ofList (Json.itemChars params)

/-- What a reply to a command says, as an object. -/
def commandReply (r : Rpc.Reply) : Json :=
  Json.ofMembers [("jsonrpc", (r.version.map Json.string).getD .null), ("id", r.id),
    ("result", r.result.getD .null)]

def message? : ClientError → Option String
  | .transport method params cause => cause.message?.map fun text =>
    "Failed to send request (" ++ method ++ " (" ++ paramsText params ++ ")): " ++ text
  | .protocol method error => some ("JSON-RPC error code " ++
      String.ofList (Digits.signed error.code) ++ " from " ++ method ++ ": " ++ error.message)
  | .malformedReply method reply => some
      ("Reply to " ++ method ++ " carried neither result nor error: " ++ reply.frame)
  | .engine reply => some ("Unexpected result: " ++ (commandReply reply).render)
  | .settleTimeout hash waited => some
      ("Block " ++ hash.hex ++ " was not observable after " ++ waited.text)
  | .emptyMethod => some "Method name must not be empty"
  | .decode method _ => some ("Failed to decode result of " ++ method)

def isTransport : ClientError → Bool
  | .transport .. => true
  | _ => false

def isProtocol : ClientError → Bool
  | .protocol .. => true
  | _ => false

def isEngine : ClientError → Bool
  | .engine _ => true
  | _ => false

end ClientError

end SealedChain
