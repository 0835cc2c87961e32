import SealedChain.Node.Dispatch

/-!
# Requests over HTTP

The node answers a health check, refuses every other request that is not a POST, and takes the body
of a POST to any path as a request.
-/
namespace SealedChain.Node

structure HttpRequest where
  method : String
  path : String
  body : ByteArray

structure HttpResponse where
  status : Nat
  contentType : String
  body : String
  deriving DecidableEq

def HttpResponse.ofAnswer (text : String) : HttpResponse := ⟨200, "application/json", text⟩

inductive HttpOutcome where
  | responded (response : HttpResponse)
  | awaiting (id : Json)
  deriving DecidableEq

def afterAuthority : List Char → List Char
  | [] => []
  | ':' :: '/' :: '/' :: rest => rest.dropWhile fun c => c != '/' && c != '?' && c != '#'
  | _ :: rest => afterAuthority rest

/-- The path of a request target, which may name a host before it and a query after it. -/
def pathOf (target : String) : String :=
  let path := match target.toList with
    | '/' :: rest => '/' :: rest
    | cs => afterAuthority cs
  String.ofList (path.takeWhile fun c => c != '?' && c != '#')

def accept (c : Chain) (ticket : Nat) (r : HttpRequest) : Chain × HttpOutcome :=
  if pathOf r.path = "/health" ∧ r.method = "GET" then (c, .responded ⟨200, "text/plain", "ok"⟩)
  else if r.method ≠ "POST" then
    (c, .responded ⟨405, "text/plain", "JSON-RPC requests must be POSTed"⟩)
  else match respond c ticket r.body with
    | (c, .answered text) => (c, .responded (.ofAnswer text))
    | (c, .awaiting id) => (c, .awaiting id)

end SealedChain.Node
