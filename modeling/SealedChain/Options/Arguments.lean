import SealedChain.Options.Basic

/-!
# Options from the command line and the environment

A flag takes its value after an equals sign or from the argument after it, which may not look like a
flag itself. A value after an equals sign is read at once; one in an argument of its own is read
when the next known flag or the end is met, so an unknown argument right after it is reported first.
Variables are looked at when the arguments have been read, for the options that they did not set.
-/
namespace SealedChain.Options

structure Reading where
  options : Options := {}
  given : List Key := []
  /-- The option whose value has not been read, with that value once it is there. -/
  pending : Option (Key × Option String) := none

namespace Reading

def give (r : Reading) (key : Key) (text : String) : Except OptionsFault Reading :=
  if key ∈ r.given then .error .repeated
  else (r.options.set key text).map fun options => { r with options, given := key :: r.given }

def resolve (r : Reading) : Except OptionsFault Reading :=
  match r.pending with
  | none => .ok r
  | some (_, none) => .error .invalidValue
  | some (key, some text) => { r with pending := none }.give key text

/-- What a flag that is no option asks for. -/
def ask (r : Reading) (what : OptionsFault) : Except OptionsFault Reading :=
  match r.resolve with
  | .ok _ => .error what
  | .error fault => .error fault

def long (r : Reading) (name : String) (value : Option String) : Except OptionsFault Reading :=
  match Key.ofFlag? name, value with
  | some key, some text => do (← r.resolve).give key text
  | some key, none => do return { ← r.resolve with pending := some (key, none) }
  | none, value =>
    if name = "help" ∨ name = "version" then
      if value.isSome then .error .tooManyValues
      else r.ask (if name = "help" then .helpAsked else .versionAsked)
    else .error .unknownArgument

def short (r : Reading) : List Char → Except OptionsFault Reading
  | 'h' :: _ => r.ask .helpAsked
  | 'V' :: _ => r.ask .versionAsked
  | _ => .error .unknownArgument

def plain (r : Reading) (text : String) : Except OptionsFault Reading :=
  match r.pending with
  | some (key, none) => .ok { r with pending := some (key, some text) }
  | _ => .error .unknownArgument

def splitFlag (cs : List Char) : String × Option String :=
  match cs.dropWhile (· != '=') with
  | '=' :: value => (String.ofList (cs.takeWhile (· != '=')), some (String.ofList value))
  | _ => (String.ofList cs, none)

/-- Reads the arguments. Nothing may follow a bare pair of dashes. -/
def arguments (r : Reading) : List String → Except OptionsFault Reading
  | [] => r.resolve
  | arg :: rest =>
    match arg.toList with
    | ['-', '-'] => if rest.isEmpty then r.resolve else .error .unknownArgument
    | '-' :: '-' :: flag => do
      let (name, value) := splitFlag flag
      arguments (← r.long name value) rest
    | '-' :: letter :: letters => do arguments (← r.short (letter :: letters)) rest
    | _ => do arguments (← r.plain arg) rest

/-- Takes the variables of the options that are not set yet. -/
def environment (r : Reading) (lookup : String → Option String) :
    List Key → Except OptionsFault Reading
  | [] => .ok r
  | key :: rest =>
    match lookup key.environmentVariable with
    | some text => if key ∈ r.given then environment r lookup rest else do
      environment (← r.give key text) lookup rest
    | none => environment r lookup rest

end Reading

/-- The options that the arguments and the environment give. -/
def parse (args : List String) (lookup : String → Option String) : Except OptionsFault Options := do
  let read ← Reading.arguments {} args
  return (← read.environment lookup Key.all).options

end SealedChain.Options
