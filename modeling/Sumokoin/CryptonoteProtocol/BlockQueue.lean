import Sumokoin.ProofKit.SortedMap
import Sumokoin.Common.Pruning
import Mathlib

/-! `cryptonote::block_queue` of `cryptonote_protocol/block_queue.{h,cpp}`: the spans of blocks a
node syncs, each reserved for one connection with the hashes of its blocks, filled once the blocks
arrive. The spans are a `std::set` ordered by start height alone, so two spans never share a start
and inserting a span at a start that is taken does nothing. Beside them the queue keeps the set of
the hashes requested and the set of those whose blocks it has.

Hashes, connection ids and block entries are types of their own; a span's rate, size, time and
origin address are left out, since nothing modelled reads them. Heights are `uint64_t`; the sums of
heights and counts here stay far below `2 ^ 64`. -/

namespace Sumokoin.CryptonoteProtocol

open Sumokoin.ProofKit Sumokoin.Common.Pruning

/-- `block_queue::span`, without its start height, which is its key in the set. -/
structure Span (Hash Conn Block : Type) where
  hashes : List Hash
  blocks : List Block
  connectionId : Conn
  nblocks : Nat
  deriving DecidableEq, Repr

/-- `block_queue`: the set of spans keyed by start height, `requested_hashes` and `have_blocks`. -/
structure BlockQueue (Hash Conn Block : Type) where
  blocks : SortedMap Nat (Span Hash Conn Block)
  requestedHashes : Finset Hash
  haveBlocks : Finset Hash

namespace BlockQueue

variable {Hash Conn Block : Type} [DecidableEq Hash] [DecidableEq Conn]

def empty : BlockQueue Hash Conn Block := ⟨SortedMap.empty, ∅, ∅⟩

/-- `erase_block(j)` on the span `span` at `start`: its hashes are no longer requested nor had. -/
def eraseBlock (q : BlockQueue Hash Conn Block) (start : Nat) (span : Span Hash Conn Block) :
    BlockQueue Hash Conn Block :=
  { blocks := q.blocks.erase start
    requestedHashes := q.requestedHashes \ span.hashes.toFinset
    haveBlocks := q.haveBlocks \ span.hashes.toFinset }

/-- `blocks.insert(span)`. -/
def insertSpan (q : BlockQueue Hash Conn Block) (start : Nat) (span : Span Hash Conn Block) :
    BlockQueue Hash Conn Block :=
  { q with blocks := q.blocks.insertNew start span }

/-- `remove_span(start_block_height, &hashes)`: the hashes of the span at the height, erased, or
`none` when there is none. The loop over the set meets at most one span of the height. -/
def removeSpan (q : BlockQueue Hash Conn Block) (startBlockHeight : Nat) :
    Option (List Hash) × BlockQueue Hash Conn Block :=
  match q.blocks.find? startBlockHeight with
  | some span => (some span.hashes, q.eraseBlock startBlockHeight span)
  | none => (none, q)

/-- `set_span_hashes(start_height, connection_id, hashes)`: the span of the height and the
connection is erased and inserted again with the hashes, which are now requested. -/
def setSpanHashes (q : BlockQueue Hash Conn Block) (startHeight : Nat) (connectionId : Conn)
    (hashes : List Hash) : BlockQueue Hash Conn Block :=
  match q.blocks.find? startHeight with
  | some span =>
    if span.connectionId = connectionId then
      let q := q.eraseBlock startHeight span
      { q with
        requestedHashes := q.requestedHashes ∪ hashes.toFinset
        blocks := q.blocks.insertNew startHeight { span with hashes := hashes } }
    else q
  | none => q

/-- `add_blocks(height, bcel, connection_id, ...)`: a filled span replaces the span of the height,
whose hashes it takes over, now also had. -/
def addBlocks (q : BlockQueue Hash Conn Block) (height : Nat) (bcel : List Block)
    (connectionId : Conn) : BlockQueue Hash Conn Block :=
  match q.removeSpan height with
  | (none, q) => q.insertSpan height ⟨[], bcel, connectionId, bcel.length⟩
  | (some hashes, q) =>
    let q := q.insertSpan height ⟨[], bcel, connectionId, bcel.length⟩
    let q := { q with
      requestedHashes := q.requestedHashes ∪ hashes.toFinset
      haveBlocks := q.haveBlocks ∪ hashes.toFinset }
    q.setSpanHashes height connectionId hashes

/-- `add_blocks(height, nblocks, connection_id, ...)`: a span scheduled for the connection; an
empty one throws. -/
def addScheduledBlocks (q : BlockQueue Hash Conn Block) (height nblocks : Nat) (connectionId : Conn) :
    Except String (BlockQueue Hash Conn Block) :=
  if nblocks > 0 then .ok (q.insertSpan height ⟨[], [], connectionId, nblocks⟩)
  else .error "Empty span"

/-- The loops of `flush_spans`, `flush_stale_spans` and `remove_spans`: every span that passes the
test is erased, in the order of the set. -/
def eraseSpansWhere (q : BlockQueue Hash Conn Block) (test : Nat → Span Hash Conn Block → Bool) :
    BlockQueue Hash Conn Block :=
  q.blocks.entries.foldl (fun q e => if test e.1 e.2 then q.eraseBlock e.1 e.2 else q) q

/-- `flush_spans(connection_id, all)`: the spans of the connection, only those not filled unless
`all`. -/
def flushSpans (q : BlockQueue Hash Conn Block) (connectionId : Conn) (all : Bool) :
    BlockQueue Hash Conn Block :=
  q.eraseSpansWhere fun _ span => span.connectionId = connectionId && (all || span.blocks.isEmpty)

/-- `flush_stale_spans(live_connections)`: the spans not filled of the connections not live. -/
def flushStaleSpans (q : BlockQueue Hash Conn Block) (liveConnections : Finset Conn) :
    BlockQueue Hash Conn Block :=
  q.eraseSpansWhere fun _ span => span.blocks.isEmpty && span.connectionId ∉ liveConnections

/-- `remove_spans(connection_id, start_block_height)`: the spans of the connection that start at
the height or below. -/
def removeSpans (q : BlockQueue Hash Conn Block) (connectionId : Conn) (startBlockHeight : Nat) :
    BlockQueue Hash Conn Block :=
  q.eraseSpansWhere fun start span => span.connectionId = connectionId && start ≤ startBlockHeight

/-! ### `reserve_span` -/

/-- The loop `while (i != block_hashes.end() && requested_internal((*i).first))`: the peer's
hashes from the first one not requested. -/
def skipRequested (requested : Finset Hash) (blockHashes : List (Hash × Nat)) : List (Hash × Nat) :=
  blockHashes.dropWhile fun p => p.1 ∈ requested

/-- The loop that takes the hashes of the span, from height `spanStartHeight + spanLength` on: at
most `max_blocks`, only blocks the peer has unpruned unless pruned blocks are synced, and then
only as long as this node needs them pruned, or unpruned, as it needs the first. -/
def reserveSpanHashes (maxBlocks spanStartHeight blockchainHeight : Nat) (syncPrunedBlocks : Bool)
    (localPruningSeed pruningSeed : Nat) (firstIsPruned : Bool) :
    Nat → List (Hash × Nat) → List Hash
  | _, [] => []
  | spanLength, p :: rest =>
    if spanLength < maxBlocks ∧
        (syncPrunedBlocks || hasUnprunedBlock (spanStartHeight + spanLength) blockchainHeight
          pruningSeed) then
      if syncPrunedBlocks && firstIsPruned ==
          hasUnprunedBlock (spanStartHeight + spanLength) blockchainHeight localPruningSeed then []
      else p.1 :: reserveSpanHashes maxBlocks spanStartHeight blockchainHeight syncPrunedBlocks
        localPruningSeed pruningSeed firstIsPruned (spanLength + 1) rest
    else []

/-- `reserve_span(first_block_height, last_block_height, max_blocks, connection_id, ...,
block_hashes)`: the queue and the span reserved, `(0, 0)` when none is. The peer's hashes end at
`last_block_height`; the span starts past those already requested, at the start of the peer's
unpruned stripe when that is near, and past those requested again. -/
def reserveSpan (q : BlockQueue Hash Conn Block) (firstBlockHeight lastBlockHeight maxBlocks : Nat)
    (connectionId : Conn) (syncPrunedBlocks : Bool) (localPruningSeed pruningSeed : Nat)
    (blockchainHeight : Nat) (blockHashes : List (Hash × Nat)) :
    BlockQueue Hash Conn Block × Nat × Nat :=
  if lastBlockHeight < firstBlockHeight ∨ maxBlocks = 0 then (q, 0, 0)
  else if blockHashes.length > lastBlockHeight then (q, 0, 0)
  else
    let blockHashesStartHeight := lastBlockHeight - blockHashes.length + 1
    let spanStartHeight := blockHashesStartHeight +
      (blockHashes.length - (skipRequested q.requestedHashes blockHashes).length)
    let spanStartHeight :=
      if !syncPrunedBlocks then
        let nextUnprunedHeight := getNextUnprunedBlockHeight spanStartHeight blockchainHeight pruningSeed
        if nextUnprunedHeight > spanStartHeight ∧
            nextUnprunedHeight < spanStartHeight + cryptonotePruningStripeSize then nextUnprunedHeight
        else spanStartHeight
      else spanStartHeight
    if spanStartHeight ≥ blockHashes.length + blockHashesStartHeight then (q, 0, 0)
    else
      let fromStart := blockHashes.drop (spanStartHeight - blockHashesStartHeight)
      let rest := skipRequested q.requestedHashes fromStart
      let spanStartHeight := spanStartHeight + (fromStart.length - rest.length)
      let firstIsPruned :=
        syncPrunedBlocks && !hasUnprunedBlock spanStartHeight blockchainHeight localPruningSeed
      let hashes := reserveSpanHashes maxBlocks spanStartHeight blockchainHeight syncPrunedBlocks
        localPruningSeed pruningSeed firstIsPruned 0 rest
      if hashes.length = 0 then (q, 0, 0)
      else
        -- `add_blocks` of a nonempty span does not throw
        let q := q.insertSpan spanStartHeight ⟨[], [], connectionId, hashes.length⟩
        (q.setSpanHashes spanStartHeight connectionId hashes, spanStartHeight, hashes.length)

end BlockQueue

/-- The calls that change the queue. -/
inductive BlockQueueOp (Hash Conn Block : Type) where
  | reserveSpan (firstBlockHeight lastBlockHeight maxBlocks : Nat) (connectionId : Conn)
      (syncPrunedBlocks : Bool) (localPruningSeed pruningSeed blockchainHeight : Nat)
      (blockHashes : List (Hash × Nat))
  | addBlocks (height : Nat) (bcel : List Block) (connectionId : Conn)
  | addScheduledBlocks (height nblocks : Nat) (connectionId : Conn)
  | setSpanHashes (startHeight : Nat) (connectionId : Conn) (hashes : List Hash)
  | removeSpan (startBlockHeight : Nat)
  | removeSpans (connectionId : Conn) (startBlockHeight : Nat)
  | flushSpans (connectionId : Conn) (all : Bool)
  | flushStaleSpans (liveConnections : Finset Conn)

namespace BlockQueue

variable {Hash Conn Block : Type} [DecidableEq Hash] [DecidableEq Conn]

/-- One call; a call that throws leaves the queue as it was. -/
def apply (q : BlockQueue Hash Conn Block) : BlockQueueOp Hash Conn Block → BlockQueue Hash Conn Block
  | .reserveSpan first last maxBlocks connectionId syncPrunedBlocks localPruningSeed pruningSeed
      blockchainHeight blockHashes =>
    (q.reserveSpan first last maxBlocks connectionId syncPrunedBlocks localPruningSeed pruningSeed
      blockchainHeight blockHashes).1
  | .addBlocks height bcel connectionId => q.addBlocks height bcel connectionId
  | .addScheduledBlocks height nblocks connectionId =>
    match q.addScheduledBlocks height nblocks connectionId with
    | .ok q => q
    | .error _ => q
  | .setSpanHashes startHeight connectionId hashes => q.setSpanHashes startHeight connectionId hashes
  | .removeSpan startBlockHeight => (q.removeSpan startBlockHeight).2
  | .removeSpans connectionId startBlockHeight => q.removeSpans connectionId startBlockHeight
  | .flushSpans connectionId all => q.flushSpans connectionId all
  | .flushStaleSpans liveConnections => q.flushStaleSpans liveConnections

/-- The calls one after the other. -/
def run (q : BlockQueue Hash Conn Block) (ops : List (BlockQueueOp Hash Conn Block)) :
    BlockQueue Hash Conn Block :=
  ops.foldl apply q

end BlockQueue

end Sumokoin.CryptonoteProtocol
