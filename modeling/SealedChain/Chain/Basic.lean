import SealedChain.Block.Command
import SealedChain.Chain.Committed
import SealedChain.Time.Duration

/-!
# Sealing and committing

A block is first sealed on top of the sealed head and acknowledged; it is committed later, when the
committer takes its operation from the queue and applies it. Finalizations go through the same
queue, so each is applied after every block sealed before it. A caller waiting for a finalization
holds a ticket. Once the committer has stopped, nothing is queued any more and blocks are no longer
sealed.
-/
namespace SealedChain

inductive Sealing where
  | manual
  | instant
  deriving DecidableEq, Repr

structure ChainConfig where
  chainId : Nat := 42
  hashCount : Nat := defaultHashCount
  commitDelay : Millis := 0
  sealing : Sealing := .manual
  deriving DecidableEq, Repr

/-- The sealed head and the transactions that the next block will hold. -/
structure Sealer where
  headNumber : Nat
  headHash : Hash
  pool : List Hash
  deriving DecidableEq

inductive CommitOp where
  | commit (block : SealedBlock)
  | finalize (hash : Hash) (ticket : Nat)
  deriving DecidableEq

/-- The ticket of a finalization. -/
def CommitOp.ticket? : CommitOp → Option Nat
  | .commit _ => none
  | .finalize _ ticket => some ticket

structure Chain where
  config : ChainConfig
  genesisHash : Hash
  sealer : Sealer
  queue : List CommitOp
  /-- The operation that the committer has taken and not yet applied. -/
  inHand : Option CommitOp
  committed : CommittedChain
  accepting : Bool
  deriving DecidableEq

structure TicketAnswer where
  ticket : Nat
  result : Except ChainError Unit

namespace Chain

def start (config : ChainConfig) : Chain :=
  let genesis := SealedBlock.genesis config.chainId
  { config
    genesisHash := genesis.hash
    sealer := ⟨0, genesis.hash, []⟩
    queue := []
    inHand := none
    committed := CommittedChain.start genesis config.hashCount
    accepting := true }

/-- The block that would be sealed next. -/
def nextBlock (c : Chain) (finalize : Bool) : SealedBlock :=
  SealedBlock.onParent c.sealer.headHash (c.sealer.headNumber + 1) c.sealer.pool finalize

def send? (c : Chain) (op : CommitOp) : Option Chain :=
  if c.accepting then some { c with queue := c.queue ++ [op] } else none

def withPool (c : Chain) (pool : List Hash) : Chain :=
  { c with sealer := { c.sealer with pool } }

def withHead (c : Chain) (block : SealedBlock) : Chain :=
  { c with sealer := { c.sealer with headNumber := block.number, headHash := block.hash } }

def pooled (c : Chain) (hash : Hash) : Chain := c.withPool (c.sealer.pool ++ [hash])

/-- Seals a block with every waiting transaction. The pool is taken before the block is sent, and if
it cannot be sent its transactions go back to the pool. -/
def create (c : Chain) (command : BlockCommand) : Chain × Except ChainError CreatedBlock :=
  if h : command.parent.isSome ∧ command.parent ≠ some c.sealer.headHash then
    (c, .error (.forking (command.parent.get h.1) c.sealer.headHash))
  else if !command.createEmpty && c.sealer.pool.isEmpty then
    (c, .error .noTransactions)
  else
    let block := c.nextBlock command.finalize
    let c := c.withPool []
    match c.send? (.commit block) with
    | none => (c.withPool block.transactions, .error .stopped)
    | some c => (c.withHead block, .ok ⟨block.hash, { isNewBest := true }⟩)

/-- Adds a transaction to the pool; with instant sealing a final block takes it in at once. If that
block cannot be sealed the transaction stays in the pool. -/
def submit (c : Chain) (raw : Bytes) : Chain × Except ChainError Hash :=
  if raw.isEmpty then (c, .error .emptyTransaction)
  else
    let hash := keccak256 raw
    let c := c.pooled hash
    match c.config.sealing with
    | .manual => (c, .ok hash)
    | .instant =>
      match c.create ⟨false, true, none⟩ with
      | (c, .ok _) => (c, .ok hash)
      | (c, .error e) => (c, .error e)

/-- Queues a finalization; none if nothing is queued any more. -/
def finalize? (c : Chain) (hash : Hash) (ticket : Nat) : Option Chain :=
  c.send? (.finalize hash ticket)

def take (c : Chain) : Chain :=
  match c.inHand, c.queue with
  | none, op :: rest => { c with inHand := some op, queue := rest }
  | _, _ => c

/-- The committer goes away: what it holds and what is queued is dropped, and the callers waiting
for it are told. -/
def stop (c : Chain) : Chain × List TicketAnswer :=
  ({ c with inHand := none, queue := [], accepting := false },
    (c.inHand.toList ++ c.queue).filterMap fun op =>
      op.ticket?.map (⟨·, .error .stopped⟩))

/-- The committer applies the operation that it holds. A block that does not extend the committed
chain makes it go away. -/
def apply (c : Chain) : Chain × List TicketAnswer :=
  match c.inHand with
  | none => (c, [])
  | some (.commit block) =>
    match c.committed.commit block with
    | .ok committed => ({ c with committed, inHand := none }, [])
    | .error _ => c.stop
  | some (.finalize hash ticket) =>
    match c.committed.finalize hash with
    | .ok committed => ({ c with committed, inHand := none }, [⟨ticket, .ok ()⟩])
    | .error e => ({ c with inHand := none }, [⟨ticket, .error e⟩])

def blockNumber (c : Chain) : Nat := c.committed.head

def blockByNumber? (c : Chain) (tag : BlockTag) : Option BlockRecord :=
  (c.committed.blockByNumber? tag).map SealedBlock.toRecord

def blockByHash? (c : Chain) (hash : Hash) : Option BlockRecord :=
  (c.committed.blockByHash? hash).map SealedBlock.toRecord

def blockHash (c : Chain) (height : Nat) : Hash := c.committed.window.get height

end Chain

end SealedChain
