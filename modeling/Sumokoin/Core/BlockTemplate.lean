import Sumokoin.Core.MinerTx
import Sumokoin.Core.FillBlockTemplate

/-! `Blockchain::create_block_template` of `cryptonote_core/blockchain.cpp` on the main chain
(`from_block` null). The pool fills the template for the median `m_current_block_cumul_weight_limit
/ 2`; then the miner transaction is built twice, first for the weight of the transactions alone
and then in a loop of ten tries for the block's cumulative weight: the reward depends on the
block's weight, which depends on the coinbase's size, which depends on the reward. A try whose
coinbase is heavier than the room it was built for starts over with the larger weight; a lighter
one is padded with zero bytes of extra, and one byte less when the varint of the extra's length
grew with the padding.

The cache of the last template (`m_btc`), which returns a copy of a template that this path built
for the same top block and pool, is not modelled; nor are the timestamp, which the miner checks do
not read, and the difficulty, `get_difficulty_for_next_block`, which is a value here. The block
that the callers pass is a default one: its `tx_hashes` start empty. -/

namespace Sumokoin.Core.Miner

open Sumokoin.BlockchainDb Sumokoin.Basic

/-- `b.miner_tx.extra.insert(b.miner_tx.extra.end(), delta, 0)`. -/
def MinerTransaction.pad (tx : MinerTransaction) (delta : Nat) : MinerTransaction :=
  { tx with extra := { tx.extra with padding := tx.extra.padding + delta } }

/-- `b.miner_tx.extra.resize(b.miner_tx.extra.size() - 1)`, after a padding: its last zero byte
goes. -/
def MinerTransaction.dropPadding (tx : MinerTransaction) : MinerTransaction :=
  { tx with extra := { tx.extra with padding := tx.extra.padding - 1 } }

/-- What `create_block_template` reads besides the chain's weights: the daemon's values of the miner
checks, the pool (`m_mine_stem_txes`, the transaction of each blob, the readiness test, the
records and the ids of `m_txs_by_fee_and_receive_time`), the difficulty of the next block, and the
keys of each call of `construct_miner_tx`, `0` the first. -/
structure TemplateEnv where
  chain : ChainEnv
  mineStemTxes : Bool
  txOf : Nat → Transaction
  isTransactionReadyToGo : TxpoolTxMeta → Nat → Transaction → Bool × TxpoolTxMeta
  txpool : Nat → Option TxpoolTxMeta
  sorted : List Nat
  difficulty : Nat
  keys : Nat → MinerTxKeys

/-- The pool's side of the environment, with the emission share of the chain's. -/
def TemplateEnv.fill (env : TemplateEnv) : TxPool.FillEnv :=
  ⟨env.chain.moneySupplyShare, env.mineStemTxes, env.txOf, env.isTransactionReadyToGo⟩

/-- What a try of the loop leaves: the miner transaction, or the cumulative weight that the next try
builds one for. -/
inductive Fitting where
  | fitted (tx : MinerTransaction)
  | retry (cumulativeWeight : Nat)
  deriving DecidableEq, Repr

section Fit

variable (env : TemplateEnv) (height medianWeight alreadyGeneratedCoins txsWeight fee : Nat)
  (extraNonce : List Nat)

/-- Call `call` of `construct_miner_tx` for the block weight `currentBlockWeight`. -/
def construct (call currentBlockWeight : Nat) : Option MinerTransaction :=
  constructMinerTx env.chain.moneySupplyShare env.chain.nettype height medianWeight
    alreadyGeneratedCoins currentBlockWeight fee (env.keys call) extraNonce

/-- The last check of a try, that the block weight is the one the coinbase was built for. -/
def checkFitted (cumulativeWeight : Nat) (tx : MinerTransaction) : Option Fitting :=
  if cumulativeWeight = (txsWeight + env.chain.getTransactionWeight tx) % uint64Modulus then
    some (.fitted tx)
  else none

/-- One try once its coinbase is built for `cumulativeWeight`: the coinbase's weight against the
room `cumulative_weight - txs_weight` it was built for. -/
def fitTry (cumulativeWeight : Nat) (tx : MinerTransaction) : Option Fitting :=
  let coinbaseWeight := env.chain.getTransactionWeight tx
  let room := Difficulty.sub64 cumulativeWeight txsWeight
  if coinbaseWeight > room then some (.retry ((txsWeight + coinbaseWeight) % uint64Modulus))
  else if coinbaseWeight < room then
    let delta := Difficulty.sub64 room coinbaseWeight
    let tx := tx.pad delta
    if cumulativeWeight ≠ (txsWeight + env.chain.getTransactionWeight tx) % uint64Modulus then
      -- here could be 1 byte difference, because of extra field counter is varint
      if (cumulativeWeight + 1) % uint64Modulus ≠
          (txsWeight + env.chain.getTransactionWeight tx) % uint64Modulus then none
      else
        let tx := tx.dropPadding
        if cumulativeWeight ≠ (txsWeight + env.chain.getTransactionWeight tx) % uint64Modulus then
          -- -1 makes varint-counter size smaller, in that case we continue to grow
          some (.retry ((cumulativeWeight + delta - 1) % uint64Modulus))
        else checkFitted env txsWeight cumulativeWeight tx
    else checkFitted env txsWeight cumulativeWeight tx
  else checkFitted env txsWeight cumulativeWeight tx

/-- Try `tryCount` of the loop: call `tryCount + 1` of `construct_miner_tx` for
`cumulativeWeight`, then the comparison of its weight. -/
def tryMinerTx (tryCount cumulativeWeight : Nat) : Option Fitting :=
  (construct env height medianWeight alreadyGeneratedCoins fee extraNonce (tryCount + 1)
    cumulativeWeight).bind (fitTry env txsWeight cumulativeWeight)

/-- The loop `for (try_count = 0; try_count != 10; ++try_count)` from the try `tryCount` with `fuel`
tries left. -/
def fitMinerTx : Nat → Nat → Nat → Option MinerTransaction
  | 0, _, _ => none
  | fuel + 1, tryCount, cumulativeWeight =>
    match tryMinerTx env height medianWeight alreadyGeneratedCoins txsWeight fee extraNonce tryCount
        cumulativeWeight with
    | none => none
    | some (.fitted tx) => some tx
    | some (.retry cumulativeWeight) => fitMinerTx fuel (tryCount + 1) cumulativeWeight

end Fit

/-- The fields of the block that the miner checks read: the header's major version, the top
block's hash, the miner transaction and the ids of the pool transactions. -/
structure BlockTemplate where
  majorVersion : Nat
  prevId : Nat
  minerTx : MinerTransaction
  txHashes : List Nat
  deriving DecidableEq, Repr

/-- What `create_block_template` returns in `b`, `diffic`, `height` and `expected_reward`, with the
records that the pool's walk leaves. -/
structure CreatedTemplate where
  block : BlockTemplate
  difficulty : Nat
  height : Nat
  expectedReward : Nat
  txpool : Nat → Option TxpoolTxMeta

/-- `create_block_template(b, nullptr, miner_address, diffic, height, expected_reward, ex_nonce)`
without a cached template. -/
def createBlockTemplate (env : TemplateEnv) (bc : Weight.Blockchain) (expectedReward : Nat)
    (extraNonce : List Nat) : Option CreatedTemplate :=
  let height := bc.db.height
  let medianWeight := bc.currentBlockCumulWeightLimit / 2
  if env.difficulty = 0 then none
  else
    let alreadyGeneratedCoins := generatedCoinsAt env.chain height
    match TxPool.fillBlockTemplate env.fill [] medianWeight alreadyGeneratedCoins expectedReward
        (UInt8.ofNat height) env.txpool env.sorted with
    | none => none
    | some filled =>
      -- first chance: the coinbase for the weight of the transactions alone
      match construct env height medianWeight alreadyGeneratedCoins filled.fee extraNonce 0
          filled.totalWeight with
      | none => none
      | some tx =>
        let cumulativeWeight :=
          (filled.totalWeight + env.chain.getTransactionWeight tx) % uint64Modulus
        (fitMinerTx env height medianWeight alreadyGeneratedCoins filled.totalWeight filled.fee
            extraNonce 10 0 cumulativeWeight).map fun minerTx =>
          ⟨⟨env.chain.version height, bc.db.topBlockHash, minerTx, filled.txHashes⟩, env.difficulty,
            height, filled.expectedReward, filled.txpool⟩

end Sumokoin.Core.Miner
