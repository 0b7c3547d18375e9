import Sumokoin.Chain.Db
import Sumokoin.Epee.Median
import Sumokoin.Epee.RollingMedian

/-! The block weight limits of `Blockchain`. `get_long_term_block_weight_median` answers from a
cache of the last window of long term weights, a `rolling_median_t` keyed by the hash of the
window's top block; `get_next_long_term_block_weight` gives a new block the long term weight that
the database stores beside it; `update_next_cumulative_weight_limit` recomputes the limit for the
next block, and inserts the long term weight it recomputes for the top block into the cache.
`handle_block_to_main_chain`, `pop_block_from_blockchain` and `init` call them around the database's
`add_block` and `pop_block`, and the runs of these calls end the module. The hard fork version is
what `get_current_hard_fork_version` returns at the call: in a run, a function of the chain height,
which after `add_block` is already the version of the next block. -/

namespace Sumokoin.Core.Weight

open Sumokoin.Chain Sumokoin.Epee

/-- The members of `Blockchain` that the weight calls read and write. -/
structure Blockchain where
  db : Db
  longTermBlockWeightsWindow : Nat
  longTermBlockWeightsCacheTipHash : Nat
  longTermBlockWeightsCacheRollingMedian : RollingMedian Nat
  longTermEffectiveMedianBlockWeight : Nat
  currentBlockCumulWeightMedian : Nat
  currentBlockCumulWeightLimit : Nat

namespace Blockchain

/-- The constructor's values over a database, with the window that `init` sets: the default
`CRYPTONOTE_LONG_TERM_BLOCK_WEIGHT_WINDOW_SIZE`, or the window of the test options, for which
`init` also builds a new rolling median of that capacity. The cache is keyed by `null_hash`,
written `0`. -/
def create (db : Db) (window : Nat) : Blockchain where
  db := db
  longTermBlockWeightsWindow := window
  longTermBlockWeightsCacheTipHash := 0
  longTermBlockWeightsCacheRollingMedian := RollingMedian.create window fun _ => 0
  longTermEffectiveMedianBlockWeight := 0
  currentBlockCumulWeightMedian := 0
  currentBlockCumulWeightLimit := 0

/-- The cache under a new key. -/
def setCache (bc : Blockchain) (tipHash : Nat) (rm : RollingMedian Nat) : Blockchain :=
  { bc with
    longTermBlockWeightsCacheTipHash := tipHash
    longTermBlockWeightsCacheRollingMedian := rm }

@[simp] theorem setCache_db (bc : Blockchain) (k : Nat) (rm : RollingMedian Nat) :
    (bc.setCache k rm).db = bc.db := rfl

@[simp] theorem setCache_longTermBlockWeightsWindow (bc : Blockchain) (k : Nat) (rm : RollingMedian Nat) :
    (bc.setCache k rm).longTermBlockWeightsWindow = bc.longTermBlockWeightsWindow := rfl

@[simp] theorem setCache_longTermBlockWeightsCacheTipHash (bc : Blockchain) (k : Nat)
    (rm : RollingMedian Nat) : (bc.setCache k rm).longTermBlockWeightsCacheTipHash = k := rfl

@[simp] theorem setCache_longTermBlockWeightsCacheRollingMedian (bc : Blockchain) (k : Nat)
    (rm : RollingMedian Nat) : (bc.setCache k rm).longTermBlockWeightsCacheRollingMedian = rm := rfl

theorem setCache_self (bc : Blockchain) :
    bc.setCache bc.longTermBlockWeightsCacheTipHash bc.longTermBlockWeightsCacheRollingMedian = bc :=
  rfl

/-- `get_last_n_blocks_weights`: the weights of the last `count` blocks, or of all of them on a
shorter chain; nothing on an empty chain. -/
def getLastNBlocksWeights (db : Db) (count : Nat) : Except String (List Nat) :=
  let h := db.height
  if h = 0 then .ok []
  else db.getBlockWeights (h - min h count) count

/-- `get_long_term_block_weight_median(start_height, count)`. The cache answers when it holds
`count` values and its key is the hash of the block at `start_height + count - 1`; when its key is
the hash of the block below that one, the top block's stored long term weight is inserted;
otherwise the window is read from the database into the cleared rolling median. The key it leaves
is `null_hash` unless the first test found the window inside the chain and the cache of its
size. -/
def getLongTermBlockWeightMedian (bc : Blockchain) (startHeight count : Nat) :
    Except String (Nat × Blockchain) :=
  if count = 0 then .error "count == 0"
  else
    let rm := bc.longTermBlockWeightsCacheRollingMedian
    let tipHeight := startHeight + count - 1
    let inChain := tipHeight < bc.db.height ∧ count = rm.size
    -- the hash reads below are at heights under `tipHeight < height`, where they do not throw
    let tipHash := if inChain then (bc.db.blocks tipHeight).hash else 0
    if inChain ∧ tipHash = bc.longTermBlockWeightsCacheTipHash then .ok (rm.median, bc)
    else if 0 < tipHeight ∧ inChain ∧
        (bc.db.blocks (tipHeight - 1)).hash = bc.longTermBlockWeightsCacheTipHash then
      let rm := rm.insert (bc.db.blocks tipHeight).longTermWeight
      .ok (rm.median, bc.setCache tipHash rm)
    else
      (bc.db.getLongTermBlockWeights startHeight count).map fun weights =>
        let rm := weights.foldl RollingMedian.insert rm.clear
        (rm.median, bc.setCache tipHash rm)

/-- `short_term_constraint`: the effective median and two fifths of it. -/
def shortTermConstraint (effectiveMedian : Nat) : Nat := effectiveMedian + effectiveMedian * 2 / 5

/-- `get_next_long_term_block_weight(block_weight)`: the block weight itself before
`HF_VERSION_LONG_TERM_BLOCK_WEIGHT`, and from that version on the block weight capped by the short
term constraint of the median of the last `min(window, height)` long term weights. -/
def getNextLongTermBlockWeight (hfVersion : Nat) (bc : Blockchain) (blockWeight : Nat) :
    Except String (Nat × Blockchain) :=
  let dbHeight := bc.db.height
  let nblocks := min bc.longTermBlockWeightsWindow dbHeight
  if hfVersion < hfVersionLongTermBlockWeight then .ok (blockWeight, bc)
  else
    (bc.getLongTermBlockWeightMedian (dbHeight - nblocks) nblocks).map fun r =>
      (min blockWeight (shortTermConstraint (max cryptonoteBlockGrantedFullRewardZone r.1)), r.2)

/-- The start and the size of the window of long term weights that
`update_next_cumulative_weight_limit` asks the median of on a chain of two blocks or more: the
`min(window, height)` blocks below the top block, one fewer when the chain is that short. -/
def updateWindow (window dbHeight : Nat) : Nat × Nat :=
  let nblocks := min window dbHeight
  let nblocks := if nblocks = dbHeight then nblocks - 1 else nblocks
  (dbHeight - nblocks - 1, nblocks)

/-- The end of `update_next_cumulative_weight_limit`: the median is raised to the full reward zone,
and the limit is twice the median. -/
def setWeightLimit (bc : Blockchain) (median : Nat) : Blockchain :=
  let median := if median ≤ cryptonoteBlockGrantedFullRewardZone then
    cryptonoteBlockGrantedFullRewardZone else median
  { bc with currentBlockCumulWeightMedian := median, currentBlockCumulWeightLimit := median * 2 }

/-- The cache step of `update_next_cumulative_weight_limit` on a chain of two blocks or more: the
long term weight recomputed for the top block is inserted into the cache, whose key becomes that
block's hash; the median of the cache is returned. -/
def insertTopWeight (bc : Blockchain) (longTermBlockWeight : Nat) : Nat × Blockchain :=
  let rm := bc.longTermBlockWeightsCacheRollingMedian.insert longTermBlockWeight
  (rm.median, bc.setCache (bc.db.blocks (bc.db.height - 1)).hash rm)

/-- `update_next_cumulative_weight_limit`. Before `HF_VERSION_LONG_TERM_BLOCK_WEIGHT` the median is
that of the last `CRYPTONOTE_REWARD_BLOCKS_WINDOW` block weights. From that version on the top
block's long term weight is recomputed from the median of the long term weights below it (the full
reward zone on a chain of one block), the cache takes it, and the median is the short term median
capped by `CRYPTONOTE_SHORT_TERM_BLOCK_WEIGHT_SURGE_FACTOR` times the long term effective median of
the cache. The read of the top block's weight throws on an empty chain. -/
def updateNextCumulativeWeightLimit (hfVersion : Nat) (bc : Blockchain) : Except String Blockchain :=
  let dbHeight := bc.db.height
  let zone := cryptonoteBlockGrantedFullRewardZone
  if hfVersion < hfVersionLongTermBlockWeight then
    (getLastNBlocksWeights bc.db cryptonoteRewardBlocksWindow).map fun weights =>
      bc.setWeightLimit (Epee.median weights)
  else do
    let blockWeight ← bc.db.getBlockWeight (dbHeight - 1)
    let r ← if dbHeight = 1 then pure (zone, bc)
      else
        let window := updateWindow bc.longTermBlockWeightsWindow dbHeight
        bc.getLongTermBlockWeightMedian window.1 window.2
    let longTermBlockWeight := min blockWeight (shortTermConstraint (max zone r.1))
    let r := if dbHeight = 1 then (longTermBlockWeight, r.2) else r.2.insertTopWeight longTermBlockWeight
    let longTermEffectiveMedianBlockWeight := max zone r.1
    let weights ← getLastNBlocksWeights r.2.db cryptonoteRewardBlocksWindow
    let effectiveMedianBlockWeight := min (max zone (Epee.median weights))
      (cryptonoteShortTermBlockWeightSurgeFactor * longTermEffectiveMedianBlockWeight)
    pure ({ r.2 with longTermEffectiveMedianBlockWeight := longTermEffectiveMedianBlockWeight
      }.setWeightLimit effectiveMedianBlockWeight)

/-- The weight calls of `handle_block_to_main_chain` around the database's `add_block`: the long
term weight of `get_next_long_term_block_weight` under the version at the call is stored beside the
block, then `update_next_cumulative_weight_limit` runs under the version of the next block. -/
def addBlock (version : Nat → Nat) (bc : Blockchain) (b : BlockRecord) : Except String Blockchain := do
  let r ← bc.getNextLongTermBlockWeight (version bc.db.height) b.weight
  let bc := { r.2 with db := r.2.db.addBlock { b with longTermWeight := r.1 } }
  bc.updateNextCumulativeWeightLimit (version bc.db.height)

/-- `pop_block_from_blockchain` as the weights see it: the top block leaves, then
`update_next_cumulative_weight_limit` runs. The genesis block is never popped. -/
def popBlock (version : Nat → Nat) (bc : Blockchain) : Except String Blockchain :=
  if bc.db.height > 1 then
    let bc := { bc with db := bc.db.popBlock }
    bc.updateNextCumulativeWeightLimit (version bc.db.height)
  else .error "Cannot pop the genesis block"

/-- The calls of a run: a block handled to the main chain, a pop, a query of the next block's long
term weight, and an update of the limits, which is also the end of `init`. -/
inductive Op where
  | addBlock (b : BlockRecord)
  | popBlock
  | getNextLongTermBlockWeight (blockWeight : Nat)
  | updateNextCumulativeWeightLimit
  deriving Repr

/-- One call under the version `version h` reported at chain height `h`. A call that throws leaves
the state as it was: each throw comes before the call changes anything, and the database
transaction of a block that fails is aborted. -/
def step (version : Nat → Nat) (bc : Blockchain) : Op → Blockchain
  | .addBlock b => ((bc.addBlock version b).toOption).getD bc
  | .popBlock => ((bc.popBlock version).toOption).getD bc
  | .getNextLongTermBlockWeight w =>
    (((bc.getNextLongTermBlockWeight (version bc.db.height) w).map Prod.snd).toOption).getD bc
  | .updateNextCumulativeWeightLimit =>
    ((bc.updateNextCumulativeWeightLimit (version bc.db.height)).toOption).getD bc

/-- The state after a run of calls. -/
def run (version : Nat → Nat) (bc : Blockchain) (ops : List Op) : Blockchain :=
  ops.foldl (step version) bc

end Blockchain

end Sumokoin.Core.Weight
