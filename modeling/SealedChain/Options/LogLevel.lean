import SealedChain.Text.Digits

/-!
# Log levels

How much a node says of what it does, from nothing to everything.
-/
namespace SealedChain

inductive LogLevel where
  | off
  | error
  | warn
  | info
  | debug
  | trace
  deriving DecidableEq, Repr

namespace LogLevel

def all : List LogLevel := [.off, .error, .warn, .info, .debug, .trace]

def name : LogLevel → String
  | .off => "off"
  | .error => "error"
  | .warn => "warn"
  | .info => "info"
  | .debug => "debug"
  | .trace => "trace"

/-- The level of a number, of a name in any case, or of the empty text, which means errors. -/
def parse? (text : String) : Option LogLevel :=
  match (Digits.unsigned? 10 text.toList).bind (all[·]?) with
  | some level => some level
  | none => if text = "" then some .error else all.find? (·.name == text.toLower)

end LogLevel

end SealedChain
