import SealedChain.Chain.Basic
import SealedChain.Net.SocketAddress
import SealedChain.Options.LogLevel

/-!
# Options

What a node is started with. Each option has a flag on the command line, an environment variable and
a default.
-/
namespace SealedChain

structure Options where
  listenAddr : Net.SocketAddress := .v4 ⟨0, 0, 0, 0⟩ 8545
  chainId : Nat := 42
  hashCount : Nat := defaultHashCount
  commitDelay : Millis := 0
  sealing : Sealing := .manual
  logLevel : LogLevel := .info
  deriving DecidableEq, Repr

/-- Why options were refused, or what was asked for instead of a start. -/
inductive OptionsFault where
  | unknownArgument
  | invalidValue
  | unreadableValue
  | repeated
  | tooManyValues
  | helpAsked
  | versionAsked
  deriving DecidableEq, Repr

namespace Options

inductive Key where
  | listenAddr
  | chainId
  | hashCount
  | commitDelay
  | sealing
  | logLevel
  deriving DecidableEq, Repr

namespace Key

def all : List Key := [.listenAddr, .chainId, .hashCount, .commitDelay, .sealing, .logLevel]

def flag : Key → String
  | .listenAddr => "listen-addr"
  | .chainId => "chain-id"
  | .hashCount => "block-hash-count"
  | .commitDelay => "commit-delay-ms"
  | .sealing => "sealing"
  | .logLevel => "log-level"

def environmentVariable : Key → String
  | .listenAddr => "ENGINE_LISTEN_ADDR"
  | .chainId => "ENGINE_CHAIN_ID"
  | .hashCount => "ENGINE_BLOCK_HASH_COUNT"
  | .commitDelay => "ENGINE_COMMIT_DELAY_MS"
  | .sealing => "ENGINE_SEALING"
  | .logLevel => "ENGINE_LOG_LEVEL"

def ofFlag? (s : String) : Option Key := all.find? (·.flag == s)

end Key

/-- What a value is once it was looked for. -/
def readable {α : Type} : Option α → Except OptionsFault α
  | some x => .ok x
  | none => .error .unreadableValue

def number? (text : String) : Option Nat := Digits.below? limit64 10 text.toList

def set (o : Options) (key : Key) (text : String) : Except OptionsFault Options :=
  match key with
  | .listenAddr => (readable (Net.SocketAddress.parse? text)).map ({ o with listenAddr := · })
  | .chainId => (readable (number? text)).map ({ o with chainId := · })
  | .hashCount =>
    (readable ((number? text).filter (0 < ·))).map ({ o with hashCount := · })
  | .commitDelay => (readable (number? text)).map ({ o with commitDelay := · })
  | .sealing =>
    if text = "manual" then .ok { o with sealing := .manual }
    else if text = "instant" then .ok { o with sealing := .instant }
    else .error .invalidValue
  | .logLevel => (readable (LogLevel.parse? text)).map ({ o with logLevel := · })

def chainConfig (o : Options) : ChainConfig :=
  { chainId := o.chainId, hashCount := o.hashCount, commitDelay := o.commitDelay,
    sealing := o.sealing }

end Options

end SealedChain
