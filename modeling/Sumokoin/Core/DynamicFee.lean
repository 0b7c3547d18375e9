import Sumokoin.Core.LongTermWeight
import Sumokoin.Basic.BlockReward

/-! The dynamic fee of `Blockchain` in `cryptonote_core/blockchain.cpp`. `get_dynamic_base_fee`
gives the fee per byte, per kB before `HF_VERSION_PER_BYTE_FEE`, for a block reward and a median
block weight; `check_fee` accepts a transaction's fee against the fee for half the current weight
limit; `get_dynamic_base_fee_estimate`, which the daemon answers wallets with, takes the median of
the last `CRYPTONOTE_REWARD_BLOCKS_WINDOW - grace_blocks` block weights padded with `grace_blocks`
weights of the full reward zone. From `HF_VERSION_LONG_TERM_BLOCK_WEIGHT` on both take the smaller
of their median and the long term effective median. The wallet's `calculate_fee_from_weight` of
`wallet/wallet2.cpp` turns a fee per byte into the fee of a transaction.

The state is the `Blockchain` of the weight limits, and the hard fork version is the one
`get_current_hard_fork_version` reports, a parameter. Two reads are parameters too: the coins
generated up to a block, `get_block_already_generated_coins` of the database, and the `float`
product `(uint64_t)(kB * fee_per_kb)` of `check_fee` before `HF_VERSION_PER_BYTE_FEE`. The medians
are taken over `Nat`, as in the weight limits. -/

namespace Sumokoin.Core.Weight

open Sumokoin.Epee Sumokoin.Basic

/-- `HF_VERSION_PER_BYTE_FEE`. -/
def hfVersionPerByteFee : Nat := 7

/-- `DYNAMIC_FEE_PER_KB_BASE_FEE`. -/
def dynamicFeePerKbBaseFee : Nat := 500000

/-- `DYNAMIC_FEE_PER_KB_BASE_BLOCK_REWARD`. -/
def dynamicFeePerKbBaseBlockReward : Nat := 64000000000

/-- `DYNAMIC_FEE_REFERENCE_TRANSACTION_WEIGHT`. -/
def dynamicFeeReferenceTransactionWeight : Nat := 5000

/-- `CRYPTONOTE_DISPLAY_DECIMAL_POINT`. -/
def cryptonoteDisplayDecimalPoint : Nat := 9

/-- `PER_KB_FEE_QUANTIZATION_DECIMALS`. -/
def perKbFeeQuantizationDecimals : Nat := 6

/-- `BLOCK_REWARD_OVERESTIMATE` of `blockchain.cpp`. -/
def blockRewardOverestimate : Nat := 16000000000

/-- `get_min_block_weight(version)`: the full reward zone at every version. -/
def getMinBlockWeight (_version : Nat) : Nat := cryptonoteBlockGrantedFullRewardZone

/-- `get_fee_quantization_mask()`. -/
def getFeeQuantizationMask : Nat :=
  10 ^ (cryptonoteDisplayDecimalPoint - perKbFeeQuantizationDecimals)

/-- `(fee + mask - 1) / mask * mask` in `uint64_t`: the fee rounded up to a multiple of the mask,
as `get_dynamic_base_fee`, `check_fee` and `calculate_fee_from_weight` each write it. -/
def quantizeFee (fee mask : Nat) : Nat := (fee + mask - 1) % uint64Modulus / mask * mask

/-- `get_dynamic_base_fee(block_reward, median_block_weight, version)`. The median is raised to
the minimum block weight. From `HF_VERSION_PER_BYTE_FEE` on the fee per byte is
`R * 5000 / min_block_weight / median / 5`, the product in `mul128` and the quotients in
`div128_64`; before it the fee per kB scales `DYNAMIC_FEE_PER_KB_BASE_FEE` by the reward and is
quantized up. -/
def getDynamicBaseFee (blockReward medianBlockWeight version : Nat) : Nat :=
  let minBlockWeight := getMinBlockWeight version
  let medianBlockWeight :=
    if medianBlockWeight < minBlockWeight then minBlockWeight else medianBlockWeight
  if version ≥ hfVersionPerByteFee then
    let (lo, hi) := mul128 blockReward dynamicFeeReferenceTransactionWeight
    let (hi, lo) := div128_64 hi lo minBlockWeight
    let (_, lo) := div128_64 hi lo medianBlockWeight
    lo / 5
  else
    let medianBlockWeight :=
      if medianBlockWeight < blockSizeGrowthFavoredZone then blockSizeGrowthFavoredZone
      else medianBlockWeight
    -- the reward is raised to the base block reward, so that the fee of a full block stays high
    let blockReward :=
      if blockReward < dynamicFeePerKbBaseBlockReward then dynamicFeePerKbBaseBlockReward
      else blockReward
    let unscaledFeePerKb := dynamicFeePerKbBaseFee * blockSizeGrowthFavoredZone / medianBlockWeight
    let (lo, hi) := mul128 unscaledFeePerKb blockReward
    let (_, lo) := div128_64 hi lo dynamicFeePerKbBaseBlockReward
    quantizeFee lo getFeeQuantizationMask

namespace Blockchain

/-- The base reward that `check_fee` and `get_dynamic_base_fee_estimate` ask `get_block_reward`
for: that of a block of weight `1` under the median `limit / 2` at the chain height, with the
coins generated before the first block of the current emission interval. -/
def feeBlockReward (moneySupplyShare alreadyGeneratedCoins : Nat → Nat) (bc : Blockchain) :
    Option Nat :=
  let height := bc.db.height
  let calHeight := height - height % coinEmissionHeightInterval
  let calGeneratedCoins := if calHeight ≠ 0 then alreadyGeneratedCoins (calHeight - 1) else 0
  getBlockReward moneySupplyShare (bc.currentBlockCumulWeightLimit / 2) 1 calGeneratedCoins height

/-- `use_median_value`: from `HF_VERSION_LONG_TERM_BLOCK_WEIGHT` on, the smaller of a median and
the long term effective median. -/
def useMedianValue (version : Nat) (bc : Blockchain) (median : Nat) : Nat :=
  if version ≥ hfVersionLongTermBlockWeight then min median bc.longTermEffectiveMedianBlockWeight
  else median

/-- `check_fee(tx_weight, fee)`: refused when the reward is; from `HF_VERSION_PER_BYTE_FEE` on the
needed fee is the weight times the fee per byte, quantized up, and before it the fee per kB of the
weight past `CRYPTONOTE_COINBASE_BLOB_RESERVED_SIZE`, rounded down to a hundred. A fee two percent
short of the needed one still passes. -/
def checkFee (moneySupplyShare alreadyGeneratedCoins : Nat → Nat) (kbNeededFee : Nat → Nat → Nat)
    (version : Nat) (bc : Blockchain) (txWeight fee : Nat) : Bool :=
  let median := bc.currentBlockCumulWeightLimit / 2
  match bc.feeBlockReward moneySupplyShare alreadyGeneratedCoins with
  | none => false
  | some baseReward =>
    let neededFee :=
      if version ≥ hfVersionPerByteFee then
        let feePerByte := getDynamicBaseFee baseReward (bc.useMedianValue version median) version
        quantizeFee (txWeight * feePerByte % uint64Modulus) getFeeQuantizationMask
      else
        let feePerKb := getDynamicBaseFee baseReward median version
        kbNeededFee (Difficulty.sub64 txWeight cryptonoteCoinbaseBlobReservedSize) feePerKb
          / 100 * 100
    !(fee < neededFee - neededFee / 50)

/-- `get_dynamic_base_fee_estimate(grace_blocks)`: at most `CRYPTONOTE_REWARD_BLOCKS_WINDOW - 1`
grace blocks; the median of the weights, raised to the full reward zone; the reward of
`check_fee`, or `BLOCK_REWARD_OVERESTIMATE` when it is refused. -/
def getDynamicBaseFeeEstimate (moneySupplyShare alreadyGeneratedCoins : Nat → Nat) (version : Nat)
    (bc : Blockchain) (graceBlocks : Nat) : Except String Nat := do
  let graceBlocks :=
    if graceBlocks ≥ cryptonoteRewardBlocksWindow then cryptonoteRewardBlocksWindow - 1
    else graceBlocks
  let sz ← getLastNBlocksWeights bc.db (cryptonoteRewardBlocksWindow - graceBlocks)
  let sz := sz ++ List.replicate graceBlocks cryptonoteBlockGrantedFullRewardZone
  let median := Epee.median sz
  let median :=
    if median ≤ cryptonoteBlockGrantedFullRewardZone then cryptonoteBlockGrantedFullRewardZone
    else median
  let baseReward :=
    (bc.feeBlockReward moneySupplyShare alreadyGeneratedCoins).getD blockRewardOverestimate
  pure (getDynamicBaseFee baseReward (bc.useMedianValue version median) version)

end Blockchain

end Sumokoin.Core.Weight

namespace Sumokoin.Wallet

open Sumokoin.Core.Weight

/-- `calculate_fee_from_weight(base_fee, weight, fee_multiplier, fee_quantization_mask)`: the
fee of a transaction of that weight, quantized up. -/
def calculateFeeFromWeight (baseFee weight feeMultiplier feeQuantizationMask : Nat) : Nat :=
  let fee := weight * baseFee * feeMultiplier % uint64Modulus
  quantizeFee fee feeQuantizationMask

end Sumokoin.Wallet
