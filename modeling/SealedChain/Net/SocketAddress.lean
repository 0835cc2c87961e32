import SealedChain.Net.Ip

/-!
# Socket addresses

An address with a port. The longer kind of address stands in brackets and may carry a scope.
-/
namespace SealedChain.Net

inductive SocketAddress where
  | v4 (ip : Ipv4) (port : Nat)
  | v6 (ip : Ipv6) (scope port : Nat)
  deriving DecidableEq, Repr

namespace SocketAddress

def port? (s : List Char) : Option Nat := do
  let (port, rest) ← Read.number? 10 0x10000 (← Read.after? ':' s)
  if rest.isEmpty then some port else none

/-- The scope after a percent sign; nothing that is no number is taken for one. -/
def scope (s : List Char) : Nat × List Char :=
  (do Read.number? 10 0x100000000 (← Read.after? '%' s)).getD (0, s)

def parse? (text : String) : Option SocketAddress :=
  match text.toList with
  | '[' :: s => do
    let (ip, s) ← Read.ipv6? s
    let (scope, s) := scope s
    let port ← port? (← Read.after? ']' s)
    some (.v6 ip scope port)
  | s => do
    let (ip, s) ← Read.ipv4? s
    let port ← port? s
    some (.v4 ip port)

def text : SocketAddress → String
  | .v4 ip port => String.ofList (ip.text ++ ':' :: Digits.decimal port)
  | .v6 ip scope port =>
    let suffix := if scope = 0 then [] else '%' :: Digits.decimal scope
    String.ofList ('[' :: (ip.mixedText ++ suffix ++ ']' :: ':' :: Digits.decimal port))

end SocketAddress

end SealedChain.Net
