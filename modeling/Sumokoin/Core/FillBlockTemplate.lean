import Sumokoin.BlockchainDb.TxpoolMeta
import Sumokoin.BlockchainDb.Lmdb
import Sumokoin.Basic.BlockReward

/-! `tx_memory_pool::fill_block_template` of `cryptonote_core/tx_pool.cpp`: the greedy choice of
the pool transactions of a block template. It walks `m_txs_by_fee_and_receive_time` in order and
takes a transaction when its relay method may be mined, it is not pruned, the block stays within
`2 M - CRYPTONOTE_COINBASE_BLOB_RESERVED_SIZE`, the coinbase does not fall, it is ready to go and
none of its key images is taken. The height is a `uint8_t` parameter; `create_block_template`
passes the 64-bit block height, so every reward is compared at the height modulo `256`.

The pool is the record of each id, which the walk updates when `is_transaction_ready_to_go`
changes it, and the transaction parsed from the blob of each id. The readiness test reads the
chain and is a parameter; it writes only the five fields of `withReadiness`. The
share of the money supply emitted per interval is the parameter of `get_block_reward`. -/

namespace Sumokoin.Core.TxPool

open Sumokoin.BlockchainDb Sumokoin.Basic

/-- `(float)amount` for a word `amount`: the nearest number of 24 significant bits, ties to an
even significand. `fuel` bounds the halvings to the 64 of a word. -/
def floatShift : Nat → Nat → Nat
  | 0, _ => 0
  | fuel + 1, amount => if amount < 2 ^ 24 then 0 else floatShift fuel (amount / 2) + 1

/-- `template_accept_threshold(amount)`, `amount * ACCEPT_THRESHOLD` with the threshold the `float`
`1.0f`: the product is the `float` of the amount, read back as a `uint64_t`. -/
def templateAcceptThreshold (amount : Nat) : Nat :=
  let shift := floatShift 64 amount
  let significand := amount / 2 ^ shift
  let dropped := amount % 2 ^ shift
  let half := 2 ^ shift / 2
  let significand :=
    if dropped > half ∨ (dropped = half ∧ shift > 0 ∧ significand % 2 = 1) then significand + 1
    else significand
  significand * 2 ^ shift

/-- The key image of a `txin_to_key`. -/
def inputKeyImage : TxIn → Option Nat
  | .toKey _ kImage => some kImage
  | _ => none

/-- The key images a transaction spends. -/
def keyImagesOf (tx : Transaction) : List Nat := tx.vin.filterMap inputKeyImage

/-- `have_key_images(k_images, tx)`: some key image of the inputs is in the set; the walk stops
with `false` at an input that is not a `txin_to_key`. -/
def haveKeyImages (kImages : List Nat) : List TxIn → Bool
  | [] => false
  | .toKey _ kImage :: vin => if kImage ∈ kImages then true else haveKeyImages kImages vin
  | _ :: _ => false

/-- `append_key_images(k_images, tx)`: the key images inserted one by one, stopping with `false`
at an input that is not a `txin_to_key` or at an image already in the set. -/
def appendKeyImages (kImages : List Nat) : List TxIn → Bool × List Nat
  | [] => (true, kImages)
  | .toKey _ kImage :: vin =>
    if kImage ∈ kImages then (false, kImages) else appendKeyImages (kImage :: kImages) vin
  | _ :: _ => (false, kImages)

/-- The record with the fields that `is_transaction_ready_to_go` writes taken from `checked`:
the block its inputs were checked against, and its last failure and double spend. -/
def withReadiness (txd checked : TxpoolTxMeta) : TxpoolTxMeta :=
  { txd with
    maxUsedBlockId := checked.maxUsedBlockId
    maxUsedBlockHeight := checked.maxUsedBlockHeight
    lastFailedId := checked.lastFailedId
    lastFailedHeight := checked.lastFailedHeight
    doubleSpendSeen := checked.doubleSpendSeen }

/-- What the walk reads and does not change: the emission share of `get_block_reward`,
`m_mine_stem_txes`, the transaction of each pool blob, and `is_transaction_ready_to_go`, which
returns whether the transaction may be mined and the record it leaves. -/
structure FillEnv where
  moneySupplyShare : Nat → Nat
  mineStemTxes : Bool
  txOf : Nat → Transaction
  isTransactionReadyToGo : TxpoolTxMeta → Nat → Transaction → Bool × TxpoolTxMeta

/-- The state of the walk: the pool's records, the ids taken, `total_weight`, `fee`,
`best_coinbase` and `k_images`. -/
structure FillState where
  txpool : Nat → Option TxpoolTxMeta
  txHashes : List Nat
  totalWeight : Nat
  fee : Nat
  bestCoinbase : Nat
  kImages : List Nat

/-- `max_total_weight`, `(200 * median_weight) / 100 - CRYPTONOTE_COINBASE_BLOB_RESERVED_SIZE` on
`size_t`. -/
def maxTotalWeight (medianWeight : Nat) : Nat :=
  Difficulty.sub64 (200 * medianWeight % uint64Modulus / 100) cryptonoteCoinbaseBlobReservedSize

section Walk

variable (env : FillEnv) (medianWeight alreadyGeneratedCoins height : Nat)

/-- The last lines of a pass, once the coinbase `coinbase` with the record `txd` passed: the
readiness test, whose record is written back when it changed, then the key images. -/
def takeIfReady (s : FillState) (txid : Nat) (txd : TxpoolTxMeta) (coinbase : Nat) : FillState :=
  let tx := env.txOf txid
  let (ready, checked) := env.isTransactionReadyToGo txd txid tx
  let checked := withReadiness txd checked
  let s := if checked ≠ txd then
      { s with txpool := fun j => if j = txid then some checked else s.txpool j }
    else s
  if !ready then s
  else if haveKeyImages s.kImages tx.vin then s
  else
    { s with
      txHashes := s.txHashes ++ [txid]
      totalWeight := (s.totalWeight + checked.weight) % uint64Modulus
      fee := (s.fee + checked.fee) % uint64Modulus
      bestCoinbase := coinbase
      kImages := (appendKeyImages s.kImages tx.vin).2 }

/-- One pass of the loop of `fill_block_template`, for the id `txid` of the sorted container;
`height` is the promoted `uint8_t`. -/
def fillStep (s : FillState) (txid : Nat) : FillState :=
  match s.txpool txid with
  | none => s
  | some txd =>
    if !txd.relayMatches .legacy && !(env.mineStemTxes && txd.getRelayMethod == .stem) then s
    else if txd.pruned then s
    -- Can not exceed maximum block weight
    else if maxTotalWeight medianWeight < (s.totalWeight + txd.weight) % uint64Modulus then s
    else
      match getBlockReward env.moneySupplyShare medianWeight
        ((s.totalWeight + txd.weight) % uint64Modulus) alreadyGeneratedCoins height with
      | none => s
      | some blockReward =>
        let coinbase := (blockReward + s.fee + txd.fee) % uint64Modulus
        -- If we're getting lower coinbase tx, stop including more tx
        if coinbase < templateAcceptThreshold s.bestCoinbase then s
        else takeIfReady env s txid txd coinbase

/-- The loop from the empty template with the reward of the empty block. -/
def fillTxs (bestCoinbase : Nat) (txpool : Nat → Option TxpoolTxMeta) (sorted : List Nat) :
    FillState :=
  sorted.foldl (fillStep env medianWeight alreadyGeneratedCoins height)
    ⟨txpool, [], 0, 0, bestCoinbase, []⟩

end Walk

/-- What `fill_block_template` leaves: `bl.tx_hashes`, `total_weight`, `fee`, `expected_reward`
and the pool's records. -/
structure BlockTemplateFill where
  txHashes : List Nat
  totalWeight : Nat
  fee : Nat
  expectedReward : Nat
  txpool : Nat → Option TxpoolTxMeta

/-- `fill_block_template(bl, median_weight, already_generated_coins, total_weight, fee,
expected_reward, height)` on the pool records `txpool` and the ids `sorted` of
`m_txs_by_fee_and_receive_time`; `blTxHashes` and `expectedReward` are the values it receives in
`bl.tx_hashes` and `expected_reward`. -/
def fillBlockTemplate (env : FillEnv) (blTxHashes : List Nat)
    (medianWeight alreadyGeneratedCoins expectedReward : Nat) (height : UInt8)
    (txpool : Nat → Option TxpoolTxMeta) (sorted : List Nat) : Option BlockTemplateFill :=
  -- baseline empty block
  match getBlockReward env.moneySupplyShare medianWeight 0 alreadyGeneratedCoins height.toNat with
  | none => none
  | some bestCoinbase =>
    let s := fillTxs env medianWeight alreadyGeneratedCoins height.toNat bestCoinbase txpool sorted
    let h := height.toNat
    -- this need updating before block 657450 is reached
    let expectedReward :=
      if h < 460215 then (42930000000 + s.bestCoinbase) % uint64Modulus else expectedReward
    let expectedReward :=
      if h ≥ 460215 ∧ h < 525960 then (53890000000 + s.bestCoinbase) % uint64Modulus
      else expectedReward
    let expectedReward :=
      if h ≥ 525960 ∧ h < 591705 then (65920000000 + s.bestCoinbase) % uint64Modulus
      else expectedReward
    let expectedReward :=
      if h ≥ 591705 ∧ h < 657450 then (53150000000 + s.bestCoinbase) % uint64Modulus
      else expectedReward
    some ⟨blTxHashes ++ s.txHashes, s.totalWeight, s.fee, expectedReward, s.txpool⟩

end Sumokoin.Core.TxPool
