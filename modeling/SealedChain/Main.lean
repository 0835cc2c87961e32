import SealedChain.Options.Arguments
import SealedChain.Session.Control

/-!
# The node on the command line

The node is started with options from the command line and the environment. Each line of the
standard input is the body of a request, and each answer is a line of the standard output. The
clock of the session follows the clock of the machine, so commit delays pass in real time.
-/
namespace SealedChain.CommandLine

def usage : String :=
  "Usage: sealed-chain [OPTIONS]\n\n" ++
  "Options:\n" ++
  "  --listen-addr <ADDRESS>      JSON-RPC server address [default: 0.0.0.0:8545]\n" ++
  "  --chain-id <ID>              Chain id of the chain [default: 42]\n" ++
  "  --block-hash-count <COUNT>   Number of recent block hashes kept [default: 256]\n" ++
  "  --commit-delay-ms <MS>       Delay between sealing and committing [default: 0]\n" ++
  "  --sealing <MODE>             manual or instant [default: manual]\n" ++
  "  --log-level <LEVEL>          off, error, warn, info, debug or trace [default: info]\n" ++
  "  -h, --help                   Print this text\n" ++
  "  -V, --version                Print the version\n"

def version : String := "sealed-chain 0.1.0\n"

def faultText : OptionsFault → String
  | .unknownArgument => "error: unexpected argument\n"
  | .invalidValue => "error: a value is missing or not allowed\n"
  | .unreadableValue => "error: a value cannot be read\n"
  | .repeated => "error: an option was given twice\n"
  | .tooManyValues => "error: a flag takes no value\n"
  | .helpAsked => usage
  | .versionAsked => version

def environment : IO (List (String × String)) :=
  Options.Key.all.filterMapM fun key => do
    return (← IO.getEnv key.environmentVariable).map (key.environmentVariable, ·)

def atClock (start : Nat) (s : Session) : IO Session := do
  let now ← IO.monoMsNow
  return (s.advance (now - start - s.now)).settle

def answer? (s : Session) (n : Nat) : Option String :=
  s.results.findSome? fun (k, result) =>
    match result with
    | .text answer => if k = n then some answer else none
    | _ => none

/-- Waits for the answer of a task, for as long as something can still happen. -/
partial def await (start : Nat) (s : Session) (n : Nat) : IO (Session × Option String) := do
  match answer? s n, s.nextDeadline? with
  | some answer, _ => return (s, some answer)
  | none, none => return (s, none)
  | none, some deadline =>
    IO.sleep (deadline - s.now).toUInt32
    await start (← atClock start s) n

partial def serve (start : Nat) (s : Session) (input output : IO.FS.Stream) : IO Unit := do
  let line ← input.getLine
  if line.isEmpty then return
  let s ← atClock start s
  let n := s.tasks.length
  let (s, answer) ← await start (s.spawn (.respond line.trimAsciiEnd.copy.toUTF8)).settle n
  match answer with
  | some text =>
    output.putStr (text ++ "\n")
    output.flush
  | none => pure ()
  serve start s.observe.1 input output

/-- Whether a fault is an answer and no failure. -/
def isAnswer (fault : OptionsFault) : Bool := fault = .helpAsked || fault = .versionAsked

def run (args : List String) : IO UInt32 := do
  let named ← environment
  match Options.parse args fun name => (named.find? (·.1 == name)).map (·.2) with
  | .error fault =>
    let out ← if isAnswer fault then IO.getStdout else IO.getStderr
    out.putStr (faultText fault)
    return if isAnswer fault then 0 else 2
  | .ok options =>
    serve (← IO.monoMsNow) (Session.start options.chainConfig .running none) (← IO.getStdin)
      (← IO.getStdout)
    return 0

end SealedChain.CommandLine

def main (args : List String) : IO UInt32 := SealedChain.CommandLine.run args
