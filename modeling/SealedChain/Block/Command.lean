import SealedChain.Json.Codec

/-!
# Block commands

What a caller asks of the node when it creates a block: whether the block may be empty, whether it
is final once committed, and which block has to be its parent. A command is sent as a list of
parameters.
-/
namespace SealedChain

structure BlockCommand where
  createEmpty : Bool
  finalize : Bool
  parent : Option Hash
  deriving DecidableEq

namespace BlockCommand

def onHead (finalize : Bool) : BlockCommand := ⟨true, finalize, none⟩

inductive ParamsError where
  | count
  | createEmpty
  | finalize
  | parent
  deriving DecidableEq, Repr

def ParamsError.message : ParamsError → String
  | .count => "Expected two or three parameters"
  | .createEmpty => "create_empty must be a boolean"
  | .finalize => "finalize must be a boolean"
  | .parent => "parent_hash must be a 32-byte hex string or null"

def params (c : BlockCommand) : List Json :=
  [.bool c.createEmpty, .bool c.finalize, match c.parent with
    | some h => Json.ofWord h
    | none => .null]

/-- The parent that the third parameter names; a missing or null one names none. -/
def parentOf : Option Json → Except ParamsError (Option Hash)
  | none | some .null => .ok none
  | some v =>
    match v.word? 32 with
    | some h => .ok (some h)
    | none => .error .parent

def ofParams : List Json → Except ParamsError BlockCommand
  | first :: second :: rest =>
    if 1 < rest.length then .error .count
    else match first.bool? with
      | none => .error .createEmpty
      | some createEmpty =>
        match second.bool? with
        | none => .error .finalize
        | some finalize => (parentOf rest.head?).map fun parent => ⟨createEmpty, finalize, parent⟩
  | _ => .error .count

end BlockCommand

end SealedChain
