import Sumokoin.Chain.Db
import Sumokoin.Difficulty.NextDifficulty

/-! `Blockchain::get_difficulty_for_next_block` with its cache of the last window of timestamps and
cumulative difficulties, the resets of that cache in `pop_block_from_blockchain` and
`cleanup_handle_incoming_blocks`, and the runs of these calls over a growing and shrinking chain.
The hard fork version is what `get_current_hard_fork_version` returns at the call; in a run it is a
function of the chain height. -/

namespace Sumokoin.Core

open Sumokoin.Chain Sumokoin.Difficulty

/-- The members of `Blockchain` that the difficulty calls read and write. -/
structure Blockchain where
  db : Db
  nettype : NetworkType
  fixedDifficulty : Nat
  difficultyForNextBlockTopHash : Nat
  difficultyForNextBlock : Nat
  timestamps : List Nat
  difficulties : List Nat
  timestampsAndDifficultiesHeight : Nat
  resetTimestampsAndDifficultiesHeight : Bool

/-- The constructor's values for these members over a database: no fixed difficulty, the memo of
`m_difficulty_for_next_block` at `null_hash` and `1`, an empty cache marked for reset. -/
def Blockchain.init (db : Db) (nettype : NetworkType) : Blockchain where
  db := db
  nettype := nettype
  fixedDifficulty := 0
  difficultyForNextBlockTopHash := 0
  difficultyForNextBlock := 1
  timestamps := []
  difficulties := []
  timestampsAndDifficultiesHeight := 0
  resetTimestampsAndDifficultiesHeight := true

/-- The heights `[max 1 (height - count), height)` of the window that the uncached path reads:
`offset = height - min(height, count)`, moved past the genesis block. -/
def windowHeights (height count : Nat) : List Nat :=
  let offset := height - min height count
  let offset := if offset = 0 then offset + 1 else offset
  List.range' offset (height - offset)

/-- The timestamps and cumulative difficulties of the blocks of `windowHeights` read from the
database: the window of the uncached path. -/
def loadWindow (db : Db) (height count : Nat) : List Nat × List Nat :=
  ((windowHeights height count).map db.getBlockTimestamp,
    (windowHeights height count).map db.getBlockCumulativeDifficulty)

/-- `while (v.size() > count) v.erase(v.begin())`. -/
def eraseFront (v : List Nat) (count : Nat) : List Nat := v.drop (v.length - count)

/-- The part of `get_difficulty_for_next_block` after its early returns: the window it passes to
the algorithm, and the cache it leaves. When the cache holds the window of the height below, the
window is the cached one with the top block pushed and the oldest entries erased above `count`;
otherwise it is loaded from the database. -/
def nextBlockWindow (hfVersion : Nat) (bc : Blockchain) : List Nat × List Nat × Blockchain :=
  let height := bc.db.height
  let count := difficultyBlocksCountFor hfVersion
  let bc := if bc.resetTimestampsAndDifficultiesHeight then
    { bc with timestampsAndDifficultiesHeight := 0 } else bc
  if bc.timestampsAndDifficultiesHeight ≠ 0 ∧ height - bc.timestampsAndDifficultiesHeight = 1 then
    let index := height - 1
    let timestamps := eraseFront (bc.timestamps ++ [bc.db.getBlockTimestamp index]) count
    let difficulties :=
      eraseFront (bc.difficulties ++ [bc.db.getBlockCumulativeDifficulty index]) count
    (timestamps, difficulties,
      { bc with
        timestamps := timestamps
        difficulties := difficulties
        timestampsAndDifficultiesHeight := height })
  else
    let (timestamps, difficulties) := loadWindow bc.db height count
    (timestamps, difficulties,
      { bc with
        timestamps := timestamps
        difficulties := difficulties
        timestampsAndDifficultiesHeight := height })

/-- The fixed difficulties that `get_difficulty_for_next_block` returns on mainnet after the hard
forks 3, 6 and 7, for `DIFFICULTY_BLOCKS_COUNT_V2` or `_V3` heights from the fork on. -/
def resetDifficulty (nettype : NetworkType) (height : Nat) : Option Nat :=
  if nettype = .mainnet ∧ mainnetHardforkV3Height ≤ height ∧
      height ≤ mainnetHardforkV3Height + difficultyBlocksCountV2 then some 480000000
  else if nettype = .mainnet ∧ mainnetHardforkV6Height ≤ height ∧
      height ≤ mainnetHardforkV6Height + difficultyBlocksCountV3 then some 48000000000
  else if nettype = .mainnet ∧ mainnetHardforkV7Height ≤ height ∧
      height ≤ mainnetHardforkV7Height + difficultyBlocksCountV3 then some 240000000
  else none

/-- `Blockchain::get_difficulty_for_next_block`, with `next_difficulty_v3` given: the fixed
difficulty when one is set, the memo when the top hash is its key, the mainnet reset difficulties,
and otherwise the algorithm of the version over the window of `nextBlockWindow`. -/
def getDifficultyForNextBlock (nextDifficultyV3 : List Nat → List Nat → Nat → Nat)
    (hfVersion : Nat) (bc : Blockchain) : Nat × Blockchain :=
  if bc.fixedDifficulty ≠ 0 then (if bc.db.height ≠ 0 then bc.fixedDifficulty else 1, bc)
  else if bc.db.topBlockHash = bc.difficultyForNextBlockTopHash then (bc.difficultyForNextBlock, bc)
  else
    match resetDifficulty bc.nettype bc.db.height with
    | some d => (d, bc)
    | none =>
      let (timestamps, difficulties, bc) := nextBlockWindow hfVersion bc
      (nextDifficultyFor nextDifficultyV3 hfVersion timestamps difficulties difficultyTarget, bc)

/-- `pop_block_from_blockchain` as the chain state sees it: the cache is marked for reset, then the
top block leaves. The genesis block is never popped: the throw comes after the reset, which stays,
and is returned beside the state. -/
def popBlockFromBlockchain (bc : Blockchain) : Blockchain × Option String :=
  let bc := { bc with
    timestampsAndDifficultiesHeight := 0
    resetTimestampsAndDifficultiesHeight := true }
  if bc.db.height > 1 then ({ bc with db := bc.db.popBlock }, none)
  else (bc, some "Cannot pop the genesis block")

/-- `cleanup_handle_incoming_blocks` after a successful batch: a pending reset empties the cache
and is cleared. -/
def cleanupHandleIncomingBlocks (bc : Blockchain) : Blockchain :=
  if bc.resetTimestampsAndDifficultiesHeight then
    { bc with
      timestampsAndDifficultiesHeight := 0
      resetTimestampsAndDifficultiesHeight := false }
  else bc

/-- The calls of a run: a block stored on top of the chain, a pop, the end of a batch of incoming
blocks, and a difficulty query. -/
inductive Op where
  | addBlock (b : BlockRecord)
  | popBlock
  | cleanup
  | query
  deriving Repr

/-- One call, with `version h` the hard fork version reported at chain height `h`; a refused pop
keeps what it did before it threw. -/
def step (nextDifficultyV3 : List Nat → List Nat → Nat → Nat) (version : Nat → Nat)
    (bc : Blockchain) : Op → Blockchain
  | .addBlock b => { bc with db := bc.db.addBlock b }
  | .popBlock => (popBlockFromBlockchain bc).1
  | .cleanup => cleanupHandleIncomingBlocks bc
  | .query => (getDifficultyForNextBlock nextDifficultyV3 (version bc.db.height) bc).2

/-- The state after a run of calls. -/
def run (nextDifficultyV3 : List Nat → List Nat → Nat → Nat) (version : Nat → Nat)
    (bc : Blockchain) (ops : List Op) : Blockchain :=
  ops.foldl (step nextDifficultyV3 version) bc

end Sumokoin.Core
