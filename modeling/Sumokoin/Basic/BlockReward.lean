import Mathlib
import Sumokoin.Difficulty.NextDifficulty
import Sumokoin.Epee.IntUtil

/-! `get_block_reward` of `cryptonote_basic/cryptonote_basic_impl.cpp`. The base reward follows the
emission schedule and is rounded down to a multiple of `10 ^ 7`; a block heavier than its median
`M`, raised to the full reward zone, loses a part of it, `B * W * (2 M - W) / M ^ 2` for a block of
weight `W`, and a block heavier than `2 M` is refused. The product `(2 M - W) * W` is formed in a
`uint64_t`, then multiplied by the base reward with `mul128` and divided twice by `M` with
`div128_64`. Weights are `size_t`, a 64-bit word here. The share of the money supply emitted in the
first four and a half years is computed in `double`; it is a parameter. -/

namespace Sumokoin.Basic

open Sumokoin.Epee

/-- The base reward of `get_block_reward(..., already_generated_coins, ..., height)`, rounded.
`moneySupplyShare intervalNum` is `(uint64_t)(MONEY_SUPPLY * money_supply_pct)`, the `double`
share of the money supply in the emission interval `intervalNum`. -/
def baseReward (moneySupplyShare : Nat → Nat) (alreadyGeneratedCoins height : Nat) : Nat :=
  let roundFactor := 10000000
  let baseReward :=
    if height > 0 then
      if height < peakCoinEmissionHeight + coinEmissionHeightInterval then
        let intervalNum := height / coinEmissionHeightInterval
        (moneySupplyShare intervalNum % uint64Modulus) >>> emissionSpeedFactor
      else Difficulty.sub64 moneySupply alreadyGeneratedCoins >>> emissionSpeedFactor
    else genesisBlockReward
  let baseReward :=
    if baseReward < finalSubsidy then
      if moneySupply > alreadyGeneratedCoins then finalSubsidy else finalSubsidy / 2
    else baseReward
  -- rounding (floor) base reward
  baseReward / roundFactor * roundFactor

/-- The weight up to which a block keeps the whole base reward: the median, and ten percent more
while the median is below `BLOCK_SIZE_GROWTH_FAVORED_ZONE`. -/
def penaltyFreeWeight (medianWeight : Nat) : Nat :=
  if medianWeight < blockSizeGrowthFavoredZone then medianWeight * 110 % uint64Modulus / 100
  else medianWeight

/-- `get_block_reward(median_weight, current_block_weight, already_generated_coins, reward,
height)`: the reward, or `none` when it returns `false`. -/
def getBlockReward (moneySupplyShare : Nat → Nat)
    (medianWeight currentBlockWeight alreadyGeneratedCoins height : Nat) : Option Nat :=
  let baseReward := baseReward moneySupplyShare alreadyGeneratedCoins height
  -- make it soft
  let medianWeight := if medianWeight < cryptonoteBlockGrantedFullRewardZone then
    cryptonoteBlockGrantedFullRewardZone else medianWeight
  if currentBlockWeight > 2 * medianWeight % uint64Modulus then none
  else if currentBlockWeight ≤ penaltyFreeWeight medianWeight then some baseReward
  else
    let multiplicand := Difficulty.sub64 (2 * medianWeight % uint64Modulus) currentBlockWeight
    let multiplicand := multiplicand * currentBlockWeight % uint64Modulus
    let (productLo, productHi) := mul128 baseReward multiplicand
    let (rewardHi, rewardLo) := div128_64 productHi productLo medianWeight
    let (_, rewardLo) := div128_64 rewardHi rewardLo medianWeight
    some rewardLo

end Sumokoin.Basic
