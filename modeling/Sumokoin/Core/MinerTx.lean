import Sumokoin.BlockchainDb.Lmdb
import Sumokoin.Basic.BlockReward
import Sumokoin.Core.LongTermWeight

/-! The miner transaction of a block: `construct_miner_tx` of `cryptonote_core/cryptonote_tx_utils.cpp`,
which pays the block reward and the fees to a one-time key of the miner, and on the main network at
`EXCHANGE_FUND_RELEASE_HEIGHT` the exchange fund to a key of the fund; and the checks of
`Blockchain` that a block's miner transaction passes: `prevalidate_miner_transaction`,
`validate_miner_transaction`, and the lines of `handle_block_to_main_chain` that sum the weights and
the fees of the block's transactions between them.

The keys are what the curve operations return, and parameters here: the key pair that a call of
`construct_miner_tx` generates, with the one-time keys it derives from it, and the derivations that
the validation makes from the transaction public key with the exchange fund's keys. The extra field
is kept as its fields, the public key, the extra nonce and the zero bytes of padding that
`create_block_template` appends; its bytes are read only by `get_transaction_weight`, a parameter
of the callers. -/

namespace Sumokoin.Core.Miner

open Sumokoin.BlockchainDb Sumokoin.Basic

/-- `tx.extra` of a miner transaction: the public key of `add_tx_pub_key_to_extra`, the nonce of
`add_extra_nonce_to_tx_extra` (no field when it is empty), and `padding` zero bytes after them. -/
structure MinerExtra where
  txPubKey : Nat
  extraNonce : List Nat
  padding : Nat
  deriving DecidableEq, Repr

/-- The fields of a miner transaction that its construction writes. -/
structure MinerTransaction where
  version : Nat
  unlockTime : Nat
  vin : List TxIn
  vout : List TxOut
  extra : MinerExtra
  deriving DecidableEq, Repr

/-- What one call of `construct_miner_tx` gets from `keypair::generate`: the public key of the pair,
and the one-time keys of the miner's output and of the exchange fund's output that
`generate_key_derivation` and `derive_public_key` give with its secret key, `none` when one of
them fails. -/
structure MinerTxKeys where
  txPubKey : Nat
  minerKey : Option Nat
  fundKey : Option Nat
  deriving DecidableEq, Repr

/-- `construct_miner_tx(nettype, height, median_weight, already_generated_coins,
current_block_weight, fee, miner_address, tx, extra_nonce, max_outs, hard_fork_version)` under the
keys of its call: one output of the block reward and the fee, and at the release of the exchange
fund a second one of `EXCHANGE_FUND_AMOUNT`. `sort_tx_extra` of the two fields it writes succeeds. -/
def constructMinerTx (moneySupplyShare : Nat → Nat) (nettype : NetworkType)
    (height medianWeight alreadyGeneratedCoins currentBlockWeight fee : Nat) (keys : MinerTxKeys)
    (extraNonce : List Nat) : Option MinerTransaction :=
  -- extra nonce could be 255 bytes max
  if extraNonce.length > txExtraNonceMaxCount then none
  else
    match getBlockReward moneySupplyShare medianWeight currentBlockWeight alreadyGeneratedCoins
        height with
    | none => none
    | some blockReward =>
      let blockReward := (blockReward + fee) % uint64Modulus
      match keys.minerKey with
      | none => none
      | some minerKey =>
        let vout : List TxOut := [⟨blockReward, .toKey minerKey⟩]
        let vout :=
          if nettype = .mainnet ∧ height = exchangeFundReleaseHeight then
            keys.fundKey.map fun fundKey => vout ++ [⟨exchangeFundAmount, .toKey fundKey⟩]
          else some vout
        vout.map fun vout =>
          { version := 2
            unlockTime := height + cryptonoteMinedMoneyUnlockWindow
            vin := [.gen height]
            vout := vout
            extra := ⟨keys.txPubKey, extraNonce, 0⟩ }

/-- The loop of `check_outs_overflow` from the sum `money`. -/
def checkOutsOverflowFrom (money : Nat) : List TxOut → Bool
  | [] => true
  | o :: vout =>
    if money > (o.amount + money) % uint64Modulus then false
    else checkOutsOverflowFrom ((money + o.amount) % uint64Modulus) vout

/-- `check_outs_overflow(tx)`: the amounts add up in a `uint64_t` without wrapping. -/
def checkOutsOverflow (tx : MinerTransaction) : Bool := checkOutsOverflowFrom 0 tx.vout

/-- `prevalidate_miner_transaction(b, height)`: one input, a `txin_gen` of the block's height, the
unlock time of mined money, and outputs that do not overflow. -/
def prevalidateMinerTransaction (tx : MinerTransaction) (height : Nat) : Except String Unit :=
  match tx.vin with
  | [.gen inHeight] =>
    if inHeight ≠ height then .error "The miner transaction in block has invalid height"
    else if tx.unlockTime ≠ height + cryptonoteMinedMoneyUnlockWindow then
      .error "coinbase transaction transaction has the wrong unlock time"
    else if !checkOutsOverflow tx then .error "miner transaction has money overflow in block"
    else .ok ()
  | [_] => .error "coinbase transaction in the block has the wrong type"
  | _ => .error "coinbase transaction in the block has no inputs"

/-- The exchange fund's side of the derivations of `validate_miner_transaction`:
`generate_key_derivation(tx_pub, m_exchange_fund_view_key)`, `none` for `null_pkey` or when it
fails, and `derive_public_key(derivation, i, m_exchange_fund_spend_key)`, `none` when it fails. -/
structure ExchangeFundKeys where
  derivation : Nat → Option Nat
  derivePublicKey : Nat → Nat → Option Nat

/-- The loop over the outputs at the release of the exchange fund, from output `i` with the sums
`(exchange_fund_amount, money_in_use)`: an amount to the fund's one-time key of its index goes to
the first sum, any other to the second. `boost::get<txout_to_key>` throws on another target. -/
def splitFundOutputs (fund : ExchangeFundKeys) (derivation : Nat) :
    Nat → Nat × Nat → List TxOut → Except String (Nat × Nat)
  | _, sums, [] => .ok sums
  | i, (fundAmount, moneyInUse), o :: vout =>
    match fund.derivePublicKey derivation i, o.target with
    | none, _ => .error "Exchange fund public key is invalid!"
    | some _, .other => .error "boost::bad_get"
    | some pk, .toKey key =>
      splitFundOutputs fund derivation (i + 1)
        (if key = pk then ((fundAmount + o.amount) % uint64Modulus, moneyInUse)
          else (fundAmount, (moneyInUse + o.amount) % uint64Modulus)) vout

/-- `money_in_use` of `validate_miner_transaction`: the outputs' amounts, as a `uint64_t` sum, and at
the release of the exchange fund the amounts to other keys than the fund's, once the fund's add up
to `EXCHANGE_FUND_AMOUNT`. -/
def moneyInUse (nettype : NetworkType) (fund : ExchangeFundKeys) (tx : MinerTransaction)
    (height : Nat) : Except String Nat :=
  if nettype = .mainnet ∧ height = exchangeFundReleaseHeight then
    match fund.derivation tx.extra.txPubKey with
    | none => .error "Tx public key is invalid!"
    | some derivation => do
      let (fundAmount, moneyInUse) ← splitFundOutputs fund derivation 0 (0, 0) tx.vout
      if fundAmount ≠ exchangeFundAmount then
        .error "Coinbase transaction generates wrong exchange fund amount."
      else pure moneyInUse
  else .ok (tx.vout.foldl (fun money o => (money + o.amount) % uint64Modulus) 0)

/-- The median of the penalty in `validate_miner_transaction`: `m_current_block_cumul_weight_median`
from `HF_VERSION_EFFECTIVE_SHORT_TERM_MEDIAN_IN_PENALTY` on, and before it the median of the last
`CRYPTONOTE_REWARD_BLOCKS_WINDOW` block weights. -/
def penaltyMedianWeight (bc : Weight.Blockchain) (version : Nat) : Except String Nat :=
  if version ≥ hfVersionEffectiveShortTermMedianInPenalty then .ok bc.currentBlockCumulWeightMedian
  else (Weight.Blockchain.getLastNBlocksWeights bc.db cryptonoteRewardBlocksWindow).map Epee.median

/-- The reward check of `validate_miner_transaction` once `money_in_use` and the median are known:
`get_block_reward` at the block's weight, outputs of at most the reward and the fees, and the base
reward and `partial_block_reward` it leaves. -/
def checkBlockReward (moneySupplyShare : Nat → Nat)
    (medianWeight cumulativeBlockWeight fee alreadyGeneratedCoins height moneyInUse : Nat) :
    Except String (Nat × Bool) :=
  match getBlockReward moneySupplyShare medianWeight cumulativeBlockWeight alreadyGeneratedCoins
      height with
  | none => .error "block weight is bigger than allowed for this blockchain"
  | some baseReward =>
    if (baseReward + fee) % uint64Modulus < moneyInUse then
      .error "coinbase transaction spend too much money"
    else if ¬Difficulty.sub64 moneyInUse fee ≤ baseReward then .error "base reward calculation bug"
    else .ok (Difficulty.sub64 moneyInUse fee, (baseReward + fee) % uint64Modulus ≠ moneyInUse)

/-- `validate_miner_transaction(b, cumulative_block_weight, fee, base_reward,
already_generated_coins, partial_block_reward, version, height)`: the base reward it leaves and
`partial_block_reward`. The reward's height is `m_db->height()`. -/
def validateMinerTransaction (moneySupplyShare : Nat → Nat) (nettype : NetworkType)
    (fund : ExchangeFundKeys) (bc : Weight.Blockchain) (tx : MinerTransaction)
    (cumulativeBlockWeight fee alreadyGeneratedCoins version height : Nat) :
    Except String (Nat × Bool) := do
  let moneyInUse ← moneyInUse nettype fund tx height
  let medianWeight ← penaltyMedianWeight bc version
  checkBlockReward moneySupplyShare medianWeight cumulativeBlockWeight fee alreadyGeneratedCoins
    bc.db.height moneyInUse

/-- What the miner transaction's construction and its checks read of the daemon besides the
weights: the emission share of `get_block_reward`, the network, the hard fork version at each
height, `get_block_already_generated_coins`, and `get_transaction_weight` of a miner
transaction. -/
structure ChainEnv where
  moneySupplyShare : Nat → Nat
  nettype : NetworkType
  version : Nat → Nat
  generatedCoins : Nat → Nat
  txWeight : MinerTransaction → Nat

/-- `get_transaction_weight(tx)` of a miner transaction, a `uint64_t`. -/
def ChainEnv.getTransactionWeight (env : ChainEnv) (tx : MinerTransaction) : Nat :=
  env.txWeight tx % uint64Modulus

/-- The coins generated before the emission interval of `height`, which both the template and the
validation pass to `get_block_reward`. -/
def generatedCoinsAt (env : ChainEnv) (height : Nat) : Nat :=
  let calHeight := height - height % coinEmissionHeightInterval
  if calHeight ≠ 0 then env.generatedCoins (calHeight - 1) else 0

/-- `cumulative_block_weight`: the coinbase weight and the weights of the block's transactions, a
`size_t` sum. -/
def cumulativeBlockWeight (coinbaseWeight : Nat) (weights : List Nat) : Nat :=
  weights.foldl (fun total w => (total + w) % uint64Modulus) coinbaseWeight

/-- `fee_summary`: the fees of the block's transactions, a `uint64_t` sum. -/
def feeSummary (fees : List Nat) : Nat :=
  fees.foldl (fun total f => (total + f) % uint64Modulus) 0

/-- The miner transaction checks of `handle_block_to_main_chain` at the chain's height, for a block
whose transactions the pool gave with the weights `weights` and the fees `fees`: the base reward
and `m_partial_block_reward` that `validate_miner_transaction` leaves. -/
def handleBlockMinerChecks (env : ChainEnv) (fund : ExchangeFundKeys) (bc : Weight.Blockchain)
    (tx : MinerTransaction) (weights fees : List Nat) : Except String (Nat × Bool) := do
  let blockchainHeight := bc.db.height
  -- sanity check basic miner tx properties
  prevalidateMinerTransaction tx blockchainHeight
  validateMinerTransaction env.moneySupplyShare env.nettype fund bc tx
    (cumulativeBlockWeight (env.getTransactionWeight tx) weights) (feeSummary fees)
    (generatedCoinsAt env blockchainHeight) (env.version blockchainHeight) blockchainHeight

end Sumokoin.Core.Miner
