import Sumokoin.Core.ChainSupplement

/-! The chain request of `cryptonote_protocol_handler.inl` between a syncing node and a peer: the
node sends its sparse history in a `NOTIFY_REQUEST_CHAIN` and expects a
`NOTIFY_RESPONSE_CHAIN_ENTRY` that overlaps its chain (`request_missing_objects`), the peer answers
with the hashes from the newest block the two chains share (`handle_request_chain`), and the node
checks the answer before it asks for the blocks (`handle_response_chain_entry`).

A connection is the fields of `cryptonote_connection_context` that these read and write; its state,
times, scores and the objects it needs are left out. Response fields are `uint64_t` values off the
wire, so the two sums the checks make wrap. -/

namespace Sumokoin.CryptonoteProtocol

open Sumokoin.Chain Sumokoin.Core

/-- `NOTIFY_RESPONSE_CHAIN_ENTRY::ID`, `BC_COMMANDS_POOL_BASE + 7`. -/
def notifyResponseChainEntryId : Nat := 2007

/-- `BLOCKS_IDS_SYNCHRONIZING_MAX_COUNT` of `p2p_config.h`. -/
def blocksIdsSynchronizingMaxCount : Nat := 25000

/-- `crypto::null_hash`. -/
def nullHash : Nat := 0

/-- The fields of `cryptonote_connection_context` of the chain request. -/
structure ConnectionContext where
  expectResponse : Nat
  expectHeight : Nat
  remoteBlockchainHeight : Nat
  lastResponseHeight : Nat
  lastKnownHash : Nat
  deriving DecidableEq, Repr

/-- `NOTIFY_REQUEST_CHAIN::request`. -/
structure RequestChain where
  blockIds : List Nat
  prune : Bool
  deriving DecidableEq, Repr

/-- The `NOTIFY_REQUEST_CHAIN` that `request_missing_objects` sends, with the connection it leaves:
the node's sparse history, and the response expected to start at or below the node's height.
Unless the request starts from the node's own chain, the hash last known of the peer goes first and
any start height is expected. The other places that request a chain build it the same way from the
node's own chain. `none` is the assert on an empty history. -/
def requestChain (db : Db) (syncPrunedBlocks startFromCurrentChain : Bool)
    (context : ConnectionContext) : Except String (Option (ConnectionContext × RequestChain)) := do
  let blockIds ← getShortChainHistory db []
  match blockIds with
  | [] => pure none
  | front :: _ =>
    let (expectHeight, blockIds) :=
      if !startFromCurrentChain && context.lastKnownHash ≠ nullHash && front ≠ context.lastKnownHash then
        (uint64Modulus - 1, context.lastKnownHash :: blockIds)
      else (db.height, blockIds)
    pure (some
      ({ context with
          expectHeight := expectHeight
          expectResponse := notifyResponseChainEntryId },
        ⟨blockIds, syncPrunedBlocks⟩))

/-- `handle_request_chain(arg)` on a connection past the handshake, of a node with chain `db` and
pruning seed `pruningSeed`: the response, clipped to the blocks the node has unless the request
asks for pruned ones; `none` when it sends none. -/
def handleRequestChain (db : Db) (pruningSeed : Nat) (arg : RequestChain) :
    Except String (Option ResponseChainEntry) :=
  findBlockchainSupplementResponse db arg.blockIds (!arg.prune) pruningSeed

/-- The checks of `handle_response_chain_entry(arg)` before the hashes are prevalidated, with the
connection they leave; an error is a dropped connection, with the message logged. -/
def handleResponseChainEntry (context : ConnectionContext) (arg : ResponseChainEntry) :
    Except String ConnectionContext := do
  if context.expectResponse ≠ notifyResponseChainEntryId then
    throw "Got NOTIFY_RESPONSE_CHAIN_ENTRY out of the blue, dropping connection"
  let context := { context with expectResponse := 0 }
  if (arg.startHeight + 1) % uint64Modulus > context.expectHeight then
    throw "Got NOTIFY_RESPONSE_CHAIN_ENTRY past expected height, dropping connection"
  if arg.blockIds.length = 0 then
    throw "sent empty m_block_ids, dropping connection"
  if arg.totalHeight < arg.blockIds.length ∨
      arg.startHeight > arg.totalHeight - arg.blockIds.length then
    throw "sent invalid start/nblocks/height, dropping connection"
  if arg.blockWeights.length ≠ 0 ∧ arg.blockWeights.length ≠ arg.blockIds.length then
    throw "sent invalid block weight array, dropping connection"
  if arg.totalHeight ≥ cryptonoteMaxBlockNumber ∨
      arg.blockIds.length > blocksIdsSynchronizingMaxCount then
    throw ("sent wrong NOTIFY_RESPONSE_CHAIN_ENTRY, with total_height=" ++ toString arg.totalHeight ++
      " and block_ids=" ++ toString arg.blockIds.length)
  let context := { context with
    remoteBlockchainHeight := arg.totalHeight
    lastResponseHeight := (arg.startHeight + arg.blockIds.length - 1) % uint64Modulus }
  if context.lastResponseHeight > context.remoteBlockchainHeight then
    throw ("sent wrong NOTIFY_RESPONSE_CHAIN_ENTRY, with m_total_height=" ++
      toString arg.totalHeight ++ ", m_start_height=" ++ toString arg.startHeight ++
      ", m_block_ids.size()=" ++ toString arg.blockIds.length)
  if ¬arg.blockIds.Nodup then
    throw "sent duplicate block, dropping connection"
  pure context

end Sumokoin.CryptonoteProtocol
