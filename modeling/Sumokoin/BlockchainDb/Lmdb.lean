import Mathlib
import Sumokoin.ProofKit.SortedMap

/-! The LMDB block database as `BlockchainDB::add_block` and `BlockchainDB::pop_block` change it.
Each table is a sorted map from the key that orders its entries: the key itself for plain tables,
and for the duplicate-sorted tables stored under the zero key the field that their comparison
reads (a hash, a height, an output id). `output_amounts` keeps several outputs under one amount,
sorted by their index among the outputs of that amount, so its entries are keyed by the pair.
Blobs are the values they encode; hashes are the values the hashing functions return. -/

namespace Sumokoin.BlockchainDb

open Sumokoin.ProofKit

/-- `txin_v` as the database reads it; `txin_to_script` and `txin_to_scripthash` are `other`. -/
inductive TxIn
  | gen (height : Nat)
  | toKey (amount : Nat) (keyImage : Nat)
  | other
  deriving DecidableEq, Repr, Inhabited

/-- `txout_target_v`: the one-time key of a `txout_to_key`, or another target. -/
inductive TxOutTarget
  | toKey (key : Nat)
  | other
  deriving DecidableEq, Repr, Inhabited

structure TxOut where
  amount : Nat
  target : TxOutTarget
  deriving DecidableEq, Repr, Inhabited

/-- The fields of a transaction that the database reads. `outPk` holds the masks of
`rct_signatures.outPk`, `prunable` the part after `unprunable_size`, and `hash` and `prunableHash`
what `get_transaction_hash` and `get_transaction_prunable_hash` return. -/
structure Transaction where
  version : Nat
  unlockTime : Nat
  vin : List TxIn
  vout : List TxOut
  outPk : List Nat
  prunable : List Nat
  hash : Nat
  prunableHash : Nat
  deriving DecidableEq, Repr, Inhabited

/-- The fields of a block that the database reads; `hash` is `get_block_hash`. -/
structure Block where
  majorVersion : Nat
  timestamp : Nat
  prevId : Nat
  minerTx : Transaction
  txHashes : List Nat
  hash : Nat
  deriving DecidableEq, Repr, Inhabited

/-- `mdb_block_info`; the two halves of the cumulative difficulty are one number. -/
structure BlockInfo where
  height : Nat
  timestamp : Nat
  coins : Nat
  weight : Nat
  cumulativeDifficulty : Nat
  hash : Nat
  cumRct : Nat
  longTermWeight : Nat
  deriving DecidableEq, Repr

/-- `txindex.data`. -/
structure TxIndex where
  txId : Nat
  unlockTime : Nat
  blockId : Nat
  deriving DecidableEq, Repr

/-- `outtx` without its output id, which is its key. -/
structure OutTx where
  txHash : Nat
  localIndex : Nat
  deriving DecidableEq, Repr

/-- The commitment of an RCT output: `rct::zeroCommit(amount)` for a coinbase output, or the mask
of `outPk`. -/
inductive Commitment
  | zeroCommit (amount : Nat)
  | mask (key : Nat)
  deriving DecidableEq, Repr

/-- `outkey` without its amount index, which is part of its key; only an output of amount `0` keeps
its commitment (`pre_rct_outkey` is stored otherwise). -/
structure OutKey where
  outputId : Nat
  pubkey : Nat
  unlockTime : Nat
  height : Nat
  commitment : Option Commitment
  deriving DecidableEq, Repr

/-- The tables that adding and popping blocks write, and the pruning seed. -/
@[ext] structure BlockchainLMDB where
  pruningSeed : Nat
  blocks : SortedMap Nat Block
  blockInfo : SortedMap Nat BlockInfo
  blockHeights : SortedMap Nat Nat
  txIndices : SortedMap Nat TxIndex
  txsPruned : SortedMap Nat Transaction
  txsPrunable : SortedMap Nat (List Nat)
  txsPrunableHash : SortedMap Nat Nat
  txsPrunableTip : SortedMap Nat Nat
  txOutputs : SortedMap Nat (List Nat)
  outputTxs : SortedMap Nat OutTx
  outputAmounts : SortedMap (Nat ×ₗ Nat) OutKey
  spentKeys : SortedMap Nat Unit

/-- `mdb_strerror(MDB_KEYEXIST)`, what a put that breaks the order of an append gets. -/
def keyExist : String := "MDB_KEYEXIST: Key/data pair already exists"

/-- `mdb_strerror(MDB_NOTFOUND)`. -/
def notFound : String := "MDB_NOTFOUND: No matching key/data pair found"

/-- Whether `add_transaction` saw a `txin_gen`: the `miner_tx` flag. -/
def isMinerTx (vin : List TxIn) : Bool :=
  vin.any fun | .gen _ => true | _ => false

/-- `is_pseudo_rct` of `remove_tx_outputs`: a coinbase of version 2 or later with one input. -/
def isPseudoRct (tx : Transaction) : Bool :=
  decide (2 ≤ tx.version) && tx.vin.length == 1 &&
    match tx.vin.head? with
    | some (.gen _) => true
    | _ => false

namespace BlockchainLMDB

variable (db : BlockchainLMDB)

/-- An empty database with the given pruning seed. -/
def empty (pruningSeed : Nat) : BlockchainLMDB :=
  ⟨pruningSeed, .empty, .empty, .empty, .empty, .empty, .empty, .empty, .empty, .empty, .empty,
    .empty, .empty⟩

/-- `height()`: the entries of `m_blocks`. -/
def height : Nat := db.blocks.size

/-- `get_tx_count()`: the entries of `m_txs_pruned`. -/
def getTxCount : Nat := db.txsPruned.size

/-- `num_outputs()`: one more than the last output id. -/
def numOutputs : Nat :=
  match db.outputTxs.lastKey? with
  | none => 0
  | some id => id + 1

/-- `mdb_cursor_count` on the outputs of an amount, `0` when the amount is not found. -/
def numOutputsOfAmount (amount : Nat) : Nat :=
  (db.outputAmounts.entries.filter fun e => (ofLex e.1).1 == amount).length

/-- `MDB_APPENDDUP` under `amount`: the index is above that of every output of the amount. -/
def appendableOutput (amount amountIndex : Nat) : Bool :=
  db.outputAmounts.entries.all fun e => (ofLex e.1).1 != amount || decide ((ofLex e.1).2 < amountIndex)

/-! ### `BlockchainLMDB`: the writes of one block -/

def addSpentKey (kImage : Nat) : Except String BlockchainLMDB :=
  if (db.spentKeys.find? kImage).isSome then
    .error "Attempting to add spent key image that's already in the db"
  else .ok { db with spentKeys := db.spentKeys.insert kImage () }

/-- `remove_spent_key`: a key image that is not found is left alone. -/
def removeSpentKey (kImage : Nat) : BlockchainLMDB :=
  { db with spentKeys := db.spentKeys.erase kImage }

/-- `add_transaction_data`: the index of the hash, the pruned and prunable parts, the height of a
pruned database and the prunable hash of a version 2 transaction, all under the next tx id. -/
def addTransactionData (tx : Transaction) (txHash : Nat) : Except String (BlockchainLMDB × Nat) :=
  let txId := db.getTxCount
  match db.txIndices.find? txHash with
  | some ti => .error ("Attempting to add transaction that's already in the db (tx id " ++
      toString ti.txId ++ ")")
  | none =>
    let db := { db with txIndices := db.txIndices.insert txHash ⟨txId, tx.unlockTime, db.height⟩ }
    if !db.txsPruned.appendable txId then
      .error ("Failed to add pruned tx blob to db transaction: " ++ keyExist)
    else
      let db := { db with txsPruned := db.txsPruned.insert txId { tx with prunable := [] } }
      if !db.txsPrunable.appendable txId then
        .error ("Failed to add prunable tx blob to db transaction: " ++ keyExist)
      else
        let db := { db with txsPrunable := db.txsPrunable.insert txId tx.prunable }
        -- a plain put: it overwrites
        let db := { db with txsPrunableTip :=
          if db.pruningSeed ≠ 0 then db.txsPrunableTip.insert txId db.height else db.txsPrunableTip }
        if 1 < tx.version then
          if !db.txsPrunableHash.appendable txId then
            .error ("Failed to add prunable tx prunable hash to db transaction: " ++ keyExist)
          else .ok ({ db with txsPrunableHash := db.txsPrunableHash.insert txId tx.prunableHash }, txId)
        else .ok (db, txId)

/-- `add_output`: the output under the next output id, and under its amount at the next index of
that amount, which it returns. -/
def addOutput (txHash : Nat) (txOutput : TxOut) (localIndex unlockTime : Nat)
    (commitment : Option Commitment) : Except String (BlockchainLMDB × Nat) :=
  match txOutput.target with
  | .other => .error "Wrong output type: expected txout_to_key"
  | .toKey key =>
    if txOutput.amount = 0 ∧ commitment = none then .error "RCT output without commitment"
    else
      let outputId := db.numOutputs
      if !db.outputTxs.appendable outputId then
        .error ("Failed to add output tx hash to db transaction: " ++ keyExist)
      else
        let db := { db with outputTxs := db.outputTxs.insert outputId ⟨txHash, localIndex⟩ }
        let amountIndex := db.numOutputsOfAmount txOutput.amount
        if !db.appendableOutput txOutput.amount amountIndex then
          .error ("Failed to add output pubkey to db transaction: " ++ keyExist)
        else
          let ok : OutKey := ⟨outputId, key, unlockTime, db.height,
            if txOutput.amount = 0 then commitment else none⟩
          .ok ({ db with outputAmounts := db.outputAmounts.insert (toLex (txOutput.amount, amountIndex)) ok },
            amountIndex)

def addTxAmountOutputIndices (txId : Nat) (amountOutputIndices : List Nat) :
    Except String BlockchainLMDB :=
  if !db.txOutputs.appendable txId then
    .error ("Failed to add <tx hash, amount output index array> to db transaction: " ++ keyExist)
  else .ok { db with txOutputs := db.txOutputs.insert txId amountOutputIndices }

/-- `add_block` of the LMDB back end: the block, its info and its height by hash, after the checks
that the block is new and that its parent is the top block. -/
def addBlock (blk : Block) (blockWeight longTermBlockWeight cumulativeDifficulty coinsGenerated
    numRctOuts blkHash : Nat) : Except String BlockchainLMDB :=
  let mHeight := db.height
  if (db.blockHeights.find? blkHash).isSome then .error "Attempting to add block that's already in the db"
  else
    let parent : Except String Unit :=
      if 0 < mHeight then
        match db.blockHeights.find? blk.prevId with
        | none => .error ("Failed to get top block hash to check for new block's parent: " ++ notFound)
        | some prev => if prev ≠ mHeight - 1 then .error "Top block is not new block's parent" else .ok ()
      else .ok ()
    match parent with
    | .error e => .error e
    | .ok () =>
      if !db.blocks.appendable mHeight then
        .error ("Failed to add block blob to db transaction: " ++ keyExist)
      else
        let db := { db with blocks := db.blocks.insert mHeight blk }
        -- `m_height - 1` on `uint64_t`
        let cumRct : Except String Nat :=
          if 4 ≤ blk.majorVersion then
            match db.blockInfo.find? ((mHeight + 2 ^ 64 - 1) % 2 ^ 64) with
            | none => .error ("Failed to get block info: " ++ notFound)
            | some biPrev => .ok (numRctOuts + biPrev.cumRct)
          else .ok numRctOuts
        match cumRct with
        | .error e => .error e
        | .ok cumRct =>
          if !db.blockInfo.appendable mHeight then
            .error ("Failed to add block info to db transaction: " ++ keyExist)
          else
            let bi : BlockInfo := ⟨mHeight, blk.timestamp, coinsGenerated, blockWeight,
              cumulativeDifficulty, blkHash, cumRct, longTermBlockWeight⟩
            .ok { db with
              blockInfo := db.blockInfo.insert mHeight bi
              blockHeights := db.blockHeights.insert blkHash mHeight }

/-! ### `BlockchainLMDB`: the removals of one block -/

/-- `remove_block`: the top block, its info and its height by hash. -/
def removeBlock : Except String BlockchainLMDB :=
  let mHeight := db.height
  if mHeight = 0 then .error "Attempting to remove block from an empty blockchain"
  else
    match db.blockInfo.find? (mHeight - 1) with
    | none => .error ("Attempting to remove block that's not in the db: " ++ notFound)
    | some bi =>
      if (db.blockHeights.find? bi.hash).isNone then
        .error ("Failed to locate block height by hash for removal: " ++ notFound)
      else
        -- the cursor on m_blocks stands where get_top_block left it, at the top block
        .ok { db with
          blockHeights := db.blockHeights.erase bi.hash
          blocks := db.blocks.erase (mHeight - 1)
          blockInfo := db.blockInfo.erase (mHeight - 1) }

/-- `remove_output`: the output of an amount at an index, and its output id. -/
def removeOutput (amount outIndex : Nat) : Except String BlockchainLMDB :=
  match db.outputAmounts.find? (toLex (amount, outIndex)) with
  | none => .error "Attempting to get an output index by amount and amount index, but amount not found"
  | some ok =>
    match db.outputTxs.find? ok.outputId with
    | none => .error "Unexpected: global output index not found in m_output_txs"
    | some _ => .ok { db with
        outputTxs := db.outputTxs.erase ok.outputId
        outputAmounts := db.outputAmounts.erase (toLex (amount, outIndex)) }

/-- `get_tx_amount_output_indices(tx_id, 1).front()`; a missing entry reads as none. -/
def getTxAmountOutputIndices (txId : Nat) : List Nat := (db.txOutputs.find? txId).getD []

/-- The loop of `remove_tx_outputs` from output `i - 1` down to `0`. -/
def removeOutputsFrom (tx : Transaction) (amountOutputIndices : List Nat) :
    Nat → BlockchainLMDB → Except String BlockchainLMDB
  | 0, db => .ok db
  | i + 1, db =>
    let amount := if isPseudoRct tx then 0 else (tx.vout.getD i default).amount
    match db.removeOutput amount (amountOutputIndices.getD i 0) with
    | .error e => .error e
    | .ok db => removeOutputsFrom tx amountOutputIndices i db

def removeTxOutputs (txId : Nat) (tx : Transaction) : Except String BlockchainLMDB :=
  let amountOutputIndices := db.getTxAmountOutputIndices txId
  if amountOutputIndices.isEmpty ∧ !tx.vout.isEmpty then .error "tx has outputs, but no output indices found"
  else removeOutputsFrom tx amountOutputIndices tx.vout.length db

/-- `remove_transaction_data`: every entry under the tx id, then the index of the hash. -/
def removeTransactionData (txHash : Nat) (tx : Transaction) : Except String BlockchainLMDB :=
  match db.txIndices.find? txHash with
  | none => .error "Attempting to remove transaction that isn't in the db"
  | some ti =>
    let txId := ti.txId
    if (db.txsPruned.find? txId).isNone then
      .error ("Failed to locate pruned tx for removal: " ++ notFound)
    else
      -- the prunable part and the pruned height are removed when found
      let db := { db with
        txsPruned := db.txsPruned.erase txId
        txsPrunable := db.txsPrunable.erase txId
        txsPrunableTip := db.txsPrunableTip.erase txId }
      if 1 < tx.version ∧ (db.txsPrunableHash.find? txId).isNone then
        .error ("Failed to locate prunable hash tx for removal: " ++ notFound)
      else
        let db := { db with txsPrunableHash :=
          if 1 < tx.version then db.txsPrunableHash.erase txId else db.txsPrunableHash }
        match db.removeTxOutputs txId tx with
        | .error e => .error e
        | .ok db => .ok { db with
            txOutputs := db.txOutputs.erase txId
            txIndices := db.txIndices.erase txHash }

/-! ### Reads -/

/-- `get_pruned_tx`: the pruned part of the transaction of a hash. -/
def getPrunedTx (txHash : Nat) : Option Transaction := do
  let ti ← db.txIndices.find? txHash
  db.txsPruned.find? ti.txId

/-- `get_tx`: the pruned and the prunable parts of the transaction of a hash, joined. -/
def getTx (txHash : Nat) : Option Transaction := do
  let ti ← db.txIndices.find? txHash
  let pruned ← db.txsPruned.find? ti.txId
  let prunable ← db.txsPrunable.find? ti.txId
  pure { pruned with prunable := prunable }

/-- `get_top_block`: the block below the height, or a default block on an empty chain. -/
def getTopBlock : Except String Block :=
  if db.height ≠ 0 then
    match db.blocks.find? (db.height - 1) with
    | none => .error ("Attempt to get block from height " ++ toString (db.height - 1) ++
        " failed -- block not in db")
    | some blk => .ok blk
  else .ok default

end BlockchainLMDB

/-! ### `BlockchainDB`: adding and popping a block -/

namespace BlockchainDB

open BlockchainLMDB

/-- The input loop of `add_transaction`: each key image is spent, and a `txin_gen` marks a miner
transaction. -/
def addInputs : List TxIn → BlockchainLMDB → Except String BlockchainLMDB
  | [], db => .ok db
  | .toKey _ kImage :: vin, db =>
    match db.addSpentKey kImage with
    | .error e => .error e
    | .ok db => addInputs vin db
  | .gen _ :: vin, db => addInputs vin db
  | .other :: _, _ => .error "Unexpected input type, aborting"

/-- The output loop of `add_transaction` over outputs `0` to `n - 1`: a version 2 miner
transaction stores its outputs as RCT outputs of amount `0`. -/
def addOutputs (tx : Transaction) (txHash : Nat) (minerTx : Bool) :
    Nat → BlockchainLMDB → Except String (BlockchainLMDB × List Nat)
  | 0, db => .ok (db, [])
  | i + 1, db =>
    match addOutputs tx txHash minerTx i db with
    | .error e => .error e
    | .ok (db, amountOutputIndices) =>
      let vout := tx.vout.getD i default
      let added :=
        if minerTx && tx.version == 2 then
          db.addOutput txHash { vout with amount := 0 } i tx.unlockTime (some (.zeroCommit vout.amount))
        else
          db.addOutput txHash vout i tx.unlockTime
            (if 1 < tx.version then some (.mask (tx.outPk.getD i 0)) else none)
      match added with
      | .error e => .error e
      | .ok (db, amountIndex) => .ok (db, amountOutputIndices ++ [amountIndex])

def addTransaction (db : BlockchainLMDB) (tx : Transaction) (txHash : Nat) :
    Except String BlockchainLMDB :=
  match addInputs tx.vin db with
  | .error e => .error e
  | .ok db =>
    match db.addTransactionData tx txHash with
    | .error e => .error e
    | .ok (db, txId) =>
      match addOutputs tx txHash (isMinerTx tx.vin) tx.vout.length db with
      | .error e => .error e
      | .ok (db, amountOutputIndices) => db.addTxAmountOutputIndices txId amountOutputIndices

/-- The loop of `add_block` over the transactions after the miner transaction, each under its
hash in `tx_hashes`, counting the outputs of amount `0`. -/
def addTxs : List (Nat × Transaction) → BlockchainLMDB → Nat → Except String (BlockchainLMDB × Nat)
  | [], db, numRctOuts => .ok (db, numRctOuts)
  | (txHash, tx) :: txs, db, numRctOuts =>
    match addTransaction db tx txHash with
    | .error e => .error e
    | .ok db => addTxs txs db (numRctOuts + (tx.vout.filter fun vout => vout.amount == 0).length)

/-- `BlockchainDB::add_block`: the miner transaction, the other transactions, then the block;
it returns the height the block was added at. -/
def addBlock (db : BlockchainLMDB) (blk : Block) (blockWeight longTermBlockWeight
    cumulativeDifficulty coinsGenerated : Nat) (txs : List Transaction) :
    Except String (Nat × BlockchainLMDB) :=
  if blk.txHashes.length ≠ txs.length then .error "Inconsistent tx/hashes sizes"
  else
    let prevHeight := db.height
    match addTransaction db blk.minerTx blk.minerTx.hash with
    | .error e => .error e
    | .ok db =>
      let numRctOuts := if blk.minerTx.version = 2 then blk.minerTx.vout.length else 0
      match addTxs (blk.txHashes.zip txs) db numRctOuts with
      | .error e => .error e
      | .ok (db, numRctOuts) =>
        match db.addBlock blk blockWeight longTermBlockWeight cumulativeDifficulty coinsGenerated
            numRctOuts blk.hash with
        | .error e => .error e
        | .ok db => .ok (prevHeight, db)

/-- The input loop of `remove_transaction`. -/
def removeSpentKeys : List TxIn → BlockchainLMDB → BlockchainLMDB
  | [], db => db
  | .toKey _ kImage :: vin, db => removeSpentKeys vin (db.removeSpentKey kImage)
  | _ :: vin, db => removeSpentKeys vin db

def removeTransaction (db : BlockchainLMDB) (txHash : Nat) : Except String BlockchainLMDB :=
  match db.getPrunedTx txHash with
  | none => .error ("pruned tx with hash " ++ toString txHash ++ " not found in db")
  | some tx => (removeSpentKeys tx.vin db).removeTransactionData txHash tx

/-- The loop of `pop_block` over the hashes of the block's transactions, last first: each
transaction is read, then removed. -/
def removeTxs : List Nat → BlockchainLMDB → Except String (BlockchainLMDB × List Transaction)
  | [], db => .ok (db, [])
  | txHash :: hashes, db =>
    match db.getTx txHash <|> db.getPrunedTx txHash with
    | none => .error "Failed to get pruned or unpruned transaction from the db"
    | some tx =>
      match removeTransaction db txHash with
      | .error e => .error e
      | .ok db =>
        match removeTxs hashes db with
        | .error e => .error e
        | .ok (db, txs) => .ok (db, tx :: txs)

/-- `BlockchainDB::pop_block`: the top block and its transactions, last first. The LMDB back end
runs it in a write transaction that it aborts on an exception, so a failed pop leaves the
database as it was. -/
def popBlock (db : BlockchainLMDB) : Except String (Block × List Transaction × BlockchainLMDB) :=
  match db.getTopBlock with
  | .error e => .error e
  | .ok blk =>
    match db.removeBlock with
    | .error e => .error e
    | .ok db =>
      match removeTxs blk.txHashes.reverse db with
      | .error e => .error e
      | .ok (db, txs) =>
        match removeTransaction db blk.minerTx.hash with
        | .error e => .error e
        | .ok db => .ok (blk, txs, db)

/-- The databases that `add_block` builds from an empty one. -/
inductive Reachable (pruningSeed : Nat) : BlockchainLMDB → Prop
  | empty : Reachable pruningSeed (BlockchainLMDB.empty pruningSeed)
  | addBlock {db db' : BlockchainLMDB} {blk : Block} {w ltw cd cg : Nat} {txs : List Transaction}
      {h : Nat} : Reachable pruningSeed db → addBlock db blk w ltw cd cg txs = .ok (h, db') →
      Reachable pruningSeed db'

end BlockchainDB

end Sumokoin.BlockchainDb
