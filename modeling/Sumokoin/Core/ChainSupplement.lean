import Sumokoin.Chain.Db
import Sumokoin.Common.Pruning

/-! The two halves of the chain request of `cryptonote_core/blockchain.cpp`: the sparse history of
its chain that a syncing node sends (`get_short_chain_history`), and the hashes that the node asked
answers with (`find_blockchain_supplement`), from the newest block that both chains have on. The
history lists the hashes of the last eleven blocks, then of blocks ever further apart, each gap
twice the one before, and last the genesis block.

Heights and offsets are `uint64_t`; the offsets of the history stay below `2 ^ 64` for any height
below `2 ^ 62`, and every height here is far below that. -/

namespace Sumokoin.Core

open Sumokoin.Chain Sumokoin.Common.Pruning

/-- `BLOCKS_IDS_SYNCHRONIZING_DEFAULT_COUNT` of `p2p_config.h`. -/
def blocksIdsSynchronizingDefaultCount : Nat := 10000

/-- The loop of `get_short_chain_history`: while `current_back_offset` is below the height, the
hash `current_back_offset` blocks below the top is pushed; the offset steps by one for the first
ten passes and then by `current_multiplier`, which doubles first. Each pass moves the offset by at
least one, so the `fuel` of the height is never used up. -/
def shortChainHistoryLoop (db : Db) :
    Nat → Nat → Nat → Nat → Bool → List Nat → Except String (List Nat × Bool)
  | 0, _, _, _, genesisIncluded, ids => pure (ids, genesisIncluded)
  | fuel + 1, i, currentMultiplier, currentBackOffset, genesisIncluded, ids =>
    if currentBackOffset < db.height then do
      let hash ← db.getBlockHashFromHeight (db.height - currentBackOffset)
      let genesisIncluded := genesisIncluded || db.height - currentBackOffset == 0
      if i < 10 then
        shortChainHistoryLoop db fuel (i + 1) currentMultiplier (currentBackOffset + 1)
          genesisIncluded (ids ++ [hash])
      else
        shortChainHistoryLoop db fuel (i + 1) (currentMultiplier * 2)
          (currentBackOffset + currentMultiplier * 2) genesisIncluded (ids ++ [hash])
    else pure (ids, genesisIncluded)

/-- `get_short_chain_history(ids)`: the hashes pushed after `ids`, newest first, with the genesis
hash last unless the loop pushed it. -/
def getShortChainHistory (db : Db) (ids : List Nat) : Except String (List Nat) :=
  if db.height = 0 then pure ids
  else do
    let (ids, genesisIncluded) ← shortChainHistoryLoop db db.height 0 1 1 false ids
    if genesisIncluded then pure ids
    else do
      let genesis ← db.getBlockHashFromHeight 0
      pure (ids ++ [genesis])

/-- `find_blockchain_supplement(qblock_ids, starter_offset)`: the height of the first of the ids,
newest first, that the chain has (`block_exists`), once the last of them is the genesis hash;
`none` is the returned `false`, with the connection dropped. -/
def findBlockchainSupplement (db : Db) (qblockIds : List Nat) : Except String (Option Nat) :=
  if qblockIds.isEmpty then pure none
  else do
    let genHash ← db.getBlockHashFromHeight 0
    if qblockIds.getLast? ≠ some genHash then pure none
    else pure (qblockIds.findSome? db.getBlockHeight)

/-- The height up to which `find_blockchain_supplement` sends hashes from `start_height`: the
height of the chain, or with `clip_pruned` the next height that the node has pruned, and `none`
when the node only has a pruned version of `start_height` itself. -/
def supplementStopHeight (startHeight currentHeight pruningSeed : Nat) (clipPruned : Bool) :
    Except String (Option Nat) :=
  if clipPruned then
    if startHeight < getNextUnprunedBlockHeight startHeight currentHeight pruningSeed then pure none
    else some <$> getNextPrunedBlockHeight startHeight currentHeight pruningSeed
  else pure (some currentHeight)

/-- A pass of the loop of `find_blockchain_supplement` at height `i`: the hash pushed, and the
weight when `weights` is given. -/
def supplementPush (db : Db) (withWeights : Bool) :
    List Nat × List Nat → Nat → Except String (List Nat × List Nat)
  | (hashes, weights), i => do
    let hash ← db.getBlockHashFromHeight i
    if withWeights then
      let weight ← db.getBlockWeight i
      pure (hashes ++ [hash], weights ++ [weight])
    else pure (hashes ++ [hash], weights)

/-- `find_blockchain_supplement(qblock_ids, hashes, weights, start_height, current_height,
clip_pruned)` on a chain of seed `pruningSeed`: the hashes from the split height on, at most
`BLOCKS_IDS_SYNCHRONIZING_DEFAULT_COUNT` of them, each with its weight when `weights` is given, then
the split height and the height of the chain. -/
def findBlockchainSupplementHashes (db : Db) (qblockIds : List Nat) (withWeights : Bool)
    (clipPruned : Bool) (pruningSeed : Nat) :
    Except String (Option (List Nat × List Nat × Nat × Nat)) := do
  let some startHeight ← findBlockchainSupplement db qblockIds | pure none
  let currentHeight := db.height
  let some stopHeight ← supplementStopHeight startHeight currentHeight pruningSeed clipPruned
    | pure none
  let heights := List.range' startHeight
    (min (stopHeight - startHeight) blocksIdsSynchronizingDefaultCount)
  let (hashes, weights) ← heights.foldlM (supplementPush db withWeights) ([], [])
  pure (some (hashes, weights, startHeight, currentHeight))

/-- `NOTIFY_RESPONSE_CHAIN_ENTRY::request` of `cryptonote_protocol_defs.h`, without
`first_block`. -/
structure ResponseChainEntry where
  startHeight : Nat
  totalHeight : Nat
  cumulativeDifficulty : Nat
  cumulativeDifficultyTop64 : Nat
  blockIds : List Nat
  blockWeights : List Nat
  deriving DecidableEq, Repr

/-- `find_blockchain_supplement(qblock_ids, clip_pruned, resp)`: the hashes and weights, with the
cumulative difficulty of the top block in two 64-bit words. -/
def findBlockchainSupplementResponse (db : Db) (qblockIds : List Nat) (clipPruned : Bool)
    (pruningSeed : Nat) : Except String (Option ResponseChainEntry) := do
  let some (blockIds, blockWeights, startHeight, totalHeight) ←
      findBlockchainSupplementHashes db qblockIds true clipPruned pruningSeed
    | pure none
  let wideCumulativeDifficulty := db.getBlockCumulativeDifficulty (totalHeight - 1)
  pure (some
    { startHeight := startHeight, totalHeight := totalHeight, blockIds := blockIds,
      blockWeights := blockWeights,
      cumulativeDifficulty := wideCumulativeDifficulty &&& 0xffffffffffffffff,
      cumulativeDifficultyTop64 := (wideCumulativeDifficulty >>> 64) &&& 0xffffffffffffffff })

end Sumokoin.Core
