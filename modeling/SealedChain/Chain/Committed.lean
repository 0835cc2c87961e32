import SealedChain.Block.Tag
import SealedChain.Chain.Block
import SealedChain.Chain.Error

/-!
# Committed blocks

What queries read: the committed blocks by hash, their hashes by height, the window of recent
hashes and the height up to which blocks are final. The genesis block is stored from the start but
is not in the window.
-/
namespace SealedChain

structure CommittedChain where
  /-- The stored blocks, latest first. -/
  blocks : List SealedBlock
  /-- The hashes of the blocks by height. -/
  canonical : List Hash
  window : HashWindow
  finalized : Nat
  deriving DecidableEq

namespace CommittedChain

def start (genesis : SealedBlock) (hashCount : Nat) : CommittedChain :=
  ⟨[genesis], [genesis.hash], HashWindow.empty hashCount, 0⟩

def head (c : CommittedChain) : Nat := c.canonical.length - 1

def blockByHash? (c : CommittedChain) (hash : Hash) : Option SealedBlock :=
  c.blocks.find? fun b => b.hash == hash

def resolve (c : CommittedChain) : BlockTag → Nat
  | .latest | .pending => c.head
  | .finalized | .safe => c.finalized
  | .earliest => 0
  | .number n => n

def blockByNumber? (c : CommittedChain) (tag : BlockTag) : Option SealedBlock :=
  (c.canonical[c.resolve tag]?).bind c.blockByHash?

def commit (c : CommittedChain) (b : SealedBlock) : Except ChainError CommittedChain :=
  match c.window.push b.number b.hash with
  | .error e => .error (.window e)
  | .ok window => .ok {
      blocks := b :: c.blocks
      canonical := c.canonical ++ [b.hash]
      window
      finalized := if b.finalize then b.number else c.finalized }

/-- The chain with a stored block and all below it final. -/
def finalize (c : CommittedChain) (hash : Hash) : Except ChainError CommittedChain :=
  match c.blockByHash? hash with
  | none => .error (.unknownBlock hash)
  | some b => .ok { c with finalized := max c.finalized b.number }

end CommittedChain

end SealedChain
