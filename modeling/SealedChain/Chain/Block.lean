import SealedChain.Block.Record
import SealedChain.Bytes.Keccak

/-!
# Sealed blocks

A sealed block has its height, its parent and its transactions fixed. Its hash is that of its
parent's hash, its height in eight bytes and its transaction hashes; the genesis block's is that of
a fixed word and the chain id in eight bytes. Whether a block is final is not part of its hash.
-/
namespace SealedChain

structure SealedBlock where
  number : Nat
  hash : Hash
  parent : Hash
  transactions : List Hash
  finalize : Bool
  deriving DecidableEq

namespace SealedBlock

/-- The bytes of the word that starts the preimage of a genesis hash. -/
def genesisMark : Bytes := [0x67, 0x65, 0x6e, 0x65, 0x73, 0x69, 0x73]

def genesisPreimage (chainId : Nat) : Bytes := genesisMark ++ Bytes.bigEndian 8 chainId

def preimage (parent : Hash) (number : Nat) (transactions : List Hash) : Bytes :=
  parent.toBytes ++ Bytes.bigEndian 8 number ++ transactions.flatMap Word.toBytes

def genesis (chainId : Nat) : SealedBlock :=
  ⟨0, keccak256 (genesisPreimage chainId), Word.zero 32, [], true⟩

def onParent (parent : Hash) (number : Nat) (transactions : List Hash) (finalize : Bool) :
    SealedBlock :=
  ⟨number, keccak256 (preimage parent number transactions), parent, transactions, finalize⟩

/-- The block as queries answer with it. -/
def toRecord (b : SealedBlock) : BlockRecord := ⟨b.number, b.hash, b.parent, b.transactions⟩

end SealedBlock

end SealedChain
