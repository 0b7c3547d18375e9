import Mathlib
import Sumokoin.Config

/-! The main chain as the daemon's `BlockchainDB` presents it to `Blockchain` and `HardFork`: a
height, the record of the block at each height below it, and the table of hard fork versions that
`set_hard_fork_version` writes. A read at a height at or above `height` throws `BLOCK_DNE` in the
database; `getBlockHashFromHeight` models that throw, and the other reads are only made below the
height by the modelled callers. -/

namespace Sumokoin.Chain

/-- The fields of a stored block that the modelled code reads: the header versions (the minor
version is the hard fork vote), the timestamp, the hash and the cumulative difficulty, and the
weight and long term weight that `add_block` stores beside it. -/
structure BlockRecord where
  majorVersion : Nat
  minorVersion : Nat
  timestamp : Nat
  hash : Nat
  cumulativeDifficulty : Nat
  weight : Nat
  longTermWeight : Nat
  deriving DecidableEq, Repr

/-- The database: blocks `0` to `height - 1`, and the hard fork version recorded for each
height. -/
structure Db where
  height : Nat
  blocks : Nat → BlockRecord
  hardForkVersions : Nat → Nat

namespace Db

/-- `get_block_timestamp`. -/
def getBlockTimestamp (db : Db) (h : Nat) : Nat := (db.blocks h).timestamp

/-- `get_block_cumulative_difficulty`. -/
def getBlockCumulativeDifficulty (db : Db) (h : Nat) : Nat := (db.blocks h).cumulativeDifficulty

/-- `get_block_hash_from_height`: the hash, or `BLOCK_DNE` at or above the height. -/
def getBlockHashFromHeight (db : Db) (h : Nat) : Except String Nat :=
  if h < db.height then .ok (db.blocks h).hash
  else .error "Attempt to get hash from height failed -- hash not in db"

/-- `block_exists` with the height it reports, the lookup of the `block_heights` table: the height
below the top whose block has the hash. -/
def getBlockHeight (db : Db) (hash : Nat) : Option Nat :=
  (List.range db.height).find? fun h => (db.blocks h).hash == hash

/-- `get_block_weight`: the weight, or `BLOCK_DNE` at or above the height. -/
def getBlockWeight (db : Db) (h : Nat) : Except String Nat :=
  if h < db.height then .ok (db.blocks h).weight
  else .error ("Attempt to get block size from height " ++ toString h ++ " failed -- block size not in db")

/-- `get_block_info_64bit_fields`: a field of the blocks from `startHeight` on, at most `count` of
them and none at or above the height; `DB_ERROR` when `startHeight` is not below the height. -/
def getBlockInfo64bitFields (db : Db) (field : BlockRecord → Nat) (startHeight count : Nat) :
    Except String (List Nat) :=
  if startHeight < db.height then
    .ok ((List.range' startHeight (min count (db.height - startHeight))).map fun h => field (db.blocks h))
  else .error ("Height " ++ toString startHeight ++ " not in blockchain")

/-- `get_block_weights`. -/
def getBlockWeights (db : Db) (startHeight count : Nat) : Except String (List Nat) :=
  db.getBlockInfo64bitFields BlockRecord.weight startHeight count

/-- `get_long_term_block_weights`. -/
def getLongTermBlockWeights (db : Db) (startHeight count : Nat) : Except String (List Nat) :=
  db.getBlockInfo64bitFields BlockRecord.longTermWeight startHeight count

/-- `get_hard_fork_version`. -/
def getHardForkVersion (db : Db) (h : Nat) : Nat := db.hardForkVersions h

/-- `set_hard_fork_version`. -/
def setHardForkVersion (db : Db) (h v : Nat) : Db :=
  { db with hardForkVersions := Function.update db.hardForkVersions h v }

/-- The part of `add_block` that the chain sees: the block goes to the top. -/
def addBlock (db : Db) (b : BlockRecord) : Db :=
  { db with height := db.height + 1, blocks := Function.update db.blocks db.height b }

/-- The part of `pop_block` that the chain sees: the top block leaves. -/
def popBlock (db : Db) : Db := { db with height := db.height - 1 }

/-- `top_block_hash`: the hash of the block at `height - 1`, and `null_hash`, written `0`, for an
empty chain. -/
def topBlockHash (db : Db) : Nat := if db.height ≠ 0 then (db.blocks (db.height - 1)).hash else 0

/-- The first `n` blocks of the chain: the chain as it stood at height `n`. -/
def truncate (db : Db) (n : Nat) : Db := { db with height := n }

@[simp] theorem addBlock_height (db : Db) (b : BlockRecord) : (db.addBlock b).height = db.height + 1 :=
  rfl

@[simp] theorem popBlock_height (db : Db) : db.popBlock.height = db.height - 1 := rfl

@[simp] theorem truncate_height (db : Db) (n : Nat) : (db.truncate n).height = n := rfl

@[simp] theorem setHardForkVersion_height (db : Db) (h v : Nat) :
    (db.setHardForkVersion h v).height = db.height := rfl

@[simp] theorem setHardForkVersion_blocks (db : Db) (h v : Nat) :
    (db.setHardForkVersion h v).blocks = db.blocks := rfl

@[simp] theorem getHardForkVersion_setHardForkVersion (db : Db) (h v h' : Nat) :
    (db.setHardForkVersion h v).getHardForkVersion h' = if h' = h then v else db.getHardForkVersion h' := by
  simp [setHardForkVersion, getHardForkVersion, Function.update_apply]

@[simp] theorem getHardForkVersion_addBlock (db : Db) (b : BlockRecord) (h : Nat) :
    (db.addBlock b).getHardForkVersion h = db.getHardForkVersion h := rfl

/-- Writing back the version recorded at a height changes nothing. -/
theorem setHardForkVersion_self (db : Db) (h : Nat) :
    db.setHardForkVersion h (db.getHardForkVersion h) = db := by
  simp [setHardForkVersion, getHardForkVersion]

theorem addBlock_blocks_below (db : Db) (b : BlockRecord) {h : Nat} (hh : h < db.height) :
    (db.addBlock b).blocks h = db.blocks h := by
  simp [addBlock, Function.update, Nat.ne_of_lt hh]

@[simp] theorem addBlock_blocks_top (db : Db) (b : BlockRecord) :
    (db.addBlock b).blocks db.height = b := by
  simp [addBlock]

theorem getBlockHeight_lt {db : Db} {hash h : Nat} (hh : db.getBlockHeight hash = some h) :
    h < db.height :=
  List.mem_range.mp (List.mem_of_find?_eq_some hh)

@[simp] theorem getBlockTimestamp_truncate (db : Db) (n h : Nat) :
    (db.truncate n).getBlockTimestamp h = db.getBlockTimestamp h := rfl

@[simp] theorem getBlockCumulativeDifficulty_truncate (db : Db) (n h : Nat) :
    (db.truncate n).getBlockCumulativeDifficulty h = db.getBlockCumulativeDifficulty h := rfl

/-! ### Blocks added one after another -/

theorem foldl_addBlock_height (db : Db) (bs : List BlockRecord) :
    (bs.foldl addBlock db).height = db.height + bs.length := by
  induction bs generalizing db with
  | nil => rfl
  | cons b bs ih =>
    rw [List.foldl_cons, ih, addBlock_height, List.length_cons]
    omega

theorem foldl_addBlock_blocks_below (db : Db) (bs : List BlockRecord) {h : Nat} (below : h < db.height) :
    (bs.foldl addBlock db).blocks h = db.blocks h := by
  induction bs generalizing db with
  | nil => rfl
  | cons b bs ih =>
    rw [List.foldl_cons, ih _ (by rw [addBlock_height]; omega), addBlock_blocks_below _ _ below]

/-- The `i`-th added block stands `i` above the old top. -/
theorem foldl_addBlock_blocks (db : Db) (bs : List BlockRecord) {i : Nat} (hi : i < bs.length) :
    (bs.foldl addBlock db).blocks (db.height + i) = bs[i] := by
  induction bs generalizing db i with
  | nil => exact absurd hi (Nat.not_lt_zero _)
  | cons b bs ih =>
    rw [List.foldl_cons]
    cases i with
    | zero => rw [Nat.add_zero, foldl_addBlock_blocks_below _ _ (by simp), addBlock_blocks_top]; rfl
    | succ i =>
      rw [show db.height + (i + 1) = (db.addBlock b).height + i by simp; omega]
      exact ih _ (by simpa using hi)

end Db

end Sumokoin.Chain
