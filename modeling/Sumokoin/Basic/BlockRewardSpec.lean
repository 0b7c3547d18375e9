import Mathlib
import Sumokoin.Basic.BlockReward

/-! What `get_block_reward` returns. With the median `M` raised to the full reward zone and
`2 M` a `size_t`, a block heavier than `2 M` is refused, a block up to the penalty free weight gets
the base reward `B`, and a heavier block of weight `W` gets `B * m / M ^ 2` with
`m = (2 M - W) * W mod 2 ^ 64`: `mul128` and `div128_64` are exact, and the two divisions by `M`
are one by `M ^ 2`, but the multiplicand wraps once `(2 M - W) * W` reaches `2 ^ 64`. Below that,
for every median under `2 ^ 32`, the reward is the penalty of the formula, at most `B`, and falls
as the block grows. -/

namespace Sumokoin.Basic

open Sumokoin.Epee

/-! ### Words -/

theorem softMedian_eq (medianWeight : Nat) :
    (if medianWeight < cryptonoteBlockGrantedFullRewardZone then cryptonoteBlockGrantedFullRewardZone
      else medianWeight) = max medianWeight cryptonoteBlockGrantedFullRewardZone := by
  split_ifs with low
  · exact (max_eq_right low.le).symm
  · exact (max_eq_left (not_lt.mp low)).symm

theorem baseReward_lt (moneySupplyShare : Nat → Nat) (alreadyGeneratedCoins height : Nat) :
    baseReward moneySupplyShare alreadyGeneratedCoins height < 2 ^ 64 := by
  have shifted : ∀ x, x < 2 ^ 64 → x >>> emissionSpeedFactor < 2 ^ 64 := fun x hx => by
    rw [Nat.shiftRight_eq_div_pow]
    exact lt_of_le_of_lt (Nat.div_le_self _ _) hx
  have share := Nat.mod_lt (moneySupplyShare (height / coinEmissionHeightInterval))
    (show 0 < uint64Modulus by decide)
  have rest : Difficulty.sub64 moneySupply alreadyGeneratedCoins < 2 ^ 64 :=
    Nat.mod_lt _ (by decide)
  unfold baseReward
  -- the rounding only lowers the reward of each branch, and every branch is a word
  refine lt_of_le_of_lt (Nat.div_mul_le_self _ _) ?_
  split_ifs
  all_goals first
    | exact shifted _ share
    | exact shifted _ rest
    | (simp only [finalSubsidy, genesisBlockReward]; norm_num)

/-- The base reward is at most the genesis reward: a shifted word is below `2 ^ 45`, and the tail
emission and the final subsidy are smaller still. -/
theorem baseReward_le_genesisBlockReward (moneySupplyShare : Nat → Nat)
    (alreadyGeneratedCoins height : Nat) :
    baseReward moneySupplyShare alreadyGeneratedCoins height ≤ genesisBlockReward := by
  have shifted : ∀ x, x < 2 ^ 64 → x >>> emissionSpeedFactor ≤ genesisBlockReward := fun x hx => by
    rw [Nat.shiftRight_eq_div_pow]
    have small : x / 2 ^ emissionSpeedFactor < 2 ^ 45 := by
      rw [Nat.div_lt_iff_lt_mul (by decide)]
      simpa [emissionSpeedFactor] using hx
    simp only [genesisBlockReward]
    omega
  have share := Nat.mod_lt (moneySupplyShare (height / coinEmissionHeightInterval))
    (show 0 < uint64Modulus by decide)
  have rest : Difficulty.sub64 moneySupply alreadyGeneratedCoins < 2 ^ 64 :=
    Nat.mod_lt _ (by decide)
  unfold baseReward
  refine le_trans (Nat.div_mul_le_self _ _) ?_
  split_ifs
  all_goals first
    | exact shifted _ share
    | exact shifted _ rest
    | (simp only [finalSubsidy, genesisBlockReward]; norm_num)

/-- The base reward is never below half the final subsidy: a smaller reward is raised to the
final subsidy, or to its half once the supply is out, and both are multiples of the rounding. -/
theorem finalSubsidy_div_two_le_baseReward (moneySupplyShare : Nat → Nat)
    (alreadyGeneratedCoins height : Nat) :
    finalSubsidy / 2 ≤ baseReward moneySupplyShare alreadyGeneratedCoins height := by
  unfold baseReward
  dsimp only
  split_ifs <;> simp only [finalSubsidy] at * <;> omega

/-- The products `(2 M - W) * W` for `W` up to `2 M` are at most `M ^ 2`. -/
theorem sub_mul_le_mul_self (medianWeight currentBlockWeight : Nat) :
    (2 * medianWeight - currentBlockWeight) * currentBlockWeight ≤ medianWeight * medianWeight := by
  by_cases within : currentBlockWeight ≤ 2 * medianWeight
  · obtain ⟨rest, split⟩ : ∃ rest, rest + currentBlockWeight = 2 * medianWeight :=
      ⟨2 * medianWeight - currentBlockWeight, by omega⟩
    rw [show 2 * medianWeight - currentBlockWeight = rest by omega]
    nlinarith [sq_nonneg ((rest : Int) - currentBlockWeight)]
  · rw [show 2 * medianWeight - currentBlockWeight = 0 by omega, Nat.zero_mul]
    exact Nat.zero_le _

/-- Past the median the products `(2 M - W) * W` fall as `W` grows. -/
theorem sub_mul_antitone {medianWeight w1 w2 : Nat} (above : medianWeight ≤ w1) (le : w1 ≤ w2) :
    (2 * medianWeight - w2) * w2 ≤ (2 * medianWeight - w1) * w1 := by
  by_cases within : w2 ≤ 2 * medianWeight
  · obtain ⟨t1, rfl⟩ : ∃ t, w1 = medianWeight + t := ⟨w1 - medianWeight, by omega⟩
    obtain ⟨t2, rfl⟩ : ∃ t, w2 = medianWeight + t := ⟨w2 - medianWeight, by omega⟩
    rw [show 2 * medianWeight - (medianWeight + t2) = medianWeight - t2 by omega,
      show 2 * medianWeight - (medianWeight + t1) = medianWeight - t1 by omega]
    have t12 : t1 ≤ t2 := by omega
    have t2m : t2 ≤ medianWeight := by omega
    -- `(M - t) (M + t) = M ^ 2 - t ^ 2`
    obtain ⟨r2, rfl⟩ : ∃ r, medianWeight = t2 + r := ⟨medianWeight - t2, by omega⟩
    rw [show t2 + r2 - t2 = r2 by omega, show t2 + r2 - t1 = r2 + (t2 - t1) by omega]
    nlinarith [Nat.sub_add_cancel t12]
  · rw [show 2 * medianWeight - w2 = 0 by omega, Nat.zero_mul]
    exact Nat.zero_le _

/-- The penalty of `get_block_reward`: the product of the base reward and the multiplicand in
`mul128`, then `div128_64` twice by the median, is the product divided by the square of the
median. -/
theorem penalty_eq {baseReward multiplicand medianWeight : Nat} (hB : baseReward < 2 ^ 64)
    (hm : multiplicand < 2 ^ 64) (fits : baseReward * multiplicand / (medianWeight * medianWeight) < 2 ^ 64) :
    (div128_64 (div128_64 (mul128 baseReward multiplicand).2 (mul128 baseReward multiplicand).1
        medianWeight).1 (div128_64 (mul128 baseReward multiplicand).2 (mul128 baseReward multiplicand).1
        medianWeight).2 medianWeight).2 =
      baseReward * multiplicand / (medianWeight * medianWeight) :=
  div128_64_div128_64_mul128 hB hm medianWeight medianWeight fits

/-- The penalty never exceeds the base reward: the multiplicand, wrapped or not, is at most the
square of the median. -/
theorem penalized_le {reward multiplicand median : Nat} (le : multiplicand ≤ median * median) : reward * multiplicand / (median * median) ≤ reward :=
  Nat.div_le_of_le_mul (by rw [Nat.mul_comm (median * median)]; exact Nat.mul_le_mul_left _ le)

/-! ### `get_block_reward` -/

theorem getBlockReward_eq_of_fits (moneySupplyShare : Nat → Nat) {medianWeight currentBlockWeight : Nat}
    (alreadyGeneratedCoins height : Nat)
    (fits : 2 * max medianWeight cryptonoteBlockGrantedFullRewardZone < 2 ^ 64) :
    getBlockReward moneySupplyShare medianWeight currentBlockWeight alreadyGeneratedCoins height =
      let median := max medianWeight cryptonoteBlockGrantedFullRewardZone
      let reward := baseReward moneySupplyShare alreadyGeneratedCoins height
      if 2 * median < currentBlockWeight then none
      else if currentBlockWeight ≤ penaltyFreeWeight median then some reward
      else some (reward * ((2 * median - currentBlockWeight) * currentBlockWeight % 2 ^ 64) /
        (median * median)) := by
  simp only [getBlockReward, softMedian_eq, uint64Modulus]
  set median := max medianWeight cryptonoteBlockGrantedFullRewardZone
  have hB := baseReward_lt moneySupplyShare alreadyGeneratedCoins height
  rw [Nat.mod_eq_of_lt fits]
  by_cases refused : 2 * median < currentBlockWeight
  · rw [if_pos refused, if_pos refused]
  rw [if_neg refused, if_neg refused]
  by_cases free : currentBlockWeight ≤ penaltyFreeWeight median
  · rw [if_pos free, if_pos free]
  rw [if_neg free, if_neg free, Difficulty.sub64_of_le fits (not_lt.mp refused)]
  -- the multiplicand, wrapped, is below the square of the median, so the reward fits a word
  have multiplicand : (2 * median - currentBlockWeight) * currentBlockWeight % 2 ^ 64 ≤ median * median :=
    le_trans (Nat.mod_le _ _) (sub_mul_le_mul_self _ _)
  have penalized := @penalized_le (baseReward moneySupplyShare alreadyGeneratedCoins height) _ _
    multiplicand
  rw [penalty_eq hB (Nat.mod_lt _ (by decide)) (lt_of_le_of_lt penalized hB)]

/-- `get_block_reward` for every median whose double is a `size_t`: refused above twice the median,
the base reward up to the penalty free weight, and otherwise the base reward times the
multiplicand `(2 M - W) * W` as a `uint64_t`, over the square of the median. -/
theorem getBlockReward_eq (moneySupplyShare : Nat → Nat) {medianWeight currentBlockWeight : Nat}
    (alreadyGeneratedCoins height : Nat)
    (fits : 2 * max medianWeight cryptonoteBlockGrantedFullRewardZone < 2 ^ 64) :
    getBlockReward moneySupplyShare medianWeight currentBlockWeight alreadyGeneratedCoins height =
      let median := max medianWeight cryptonoteBlockGrantedFullRewardZone
      let reward := baseReward moneySupplyShare alreadyGeneratedCoins height
      if 2 * median < currentBlockWeight then none
      else if currentBlockWeight ≤ penaltyFreeWeight median then some reward
      else some (reward * ((2 * median - currentBlockWeight) * currentBlockWeight % 2 ^ 64) /
        (median * median)) :=
  getBlockReward_eq_of_fits moneySupplyShare alreadyGeneratedCoins height fits

/-- The median `2 ^ 33` and a block one unit heavier, past the start of the tail emission with no
coins generated: the multiplicand `(2 ^ 33 - 1) * (2 ^ 33 + 1)` wraps to `2 ^ 64 - 1`, and the
reward is about a quarter of the base reward `169540000000`, where the formula gives one unit
less than the base reward. -/
theorem getBlockReward_eq_wrapped :
    getBlockReward (fun _ => 0) (2 ^ 33) (2 ^ 33 + 1) 0 1000000 = some 42384999999 ∧
      baseReward (fun _ => 0) 0 1000000 * ((2 * 2 ^ 33 - (2 ^ 33 + 1)) * (2 ^ 33 + 1)) / (2 ^ 33 * 2 ^ 33) =
        169539999999 :=
  ⟨by rw [getBlockReward_eq (fun _ => 0) 0 1000000 (by decide)]; decide, by decide⟩

theorem le_penaltyFreeWeight (median : Nat) : median ≤ penaltyFreeWeight median := by
  unfold penaltyFreeWeight
  split_ifs with favored
  · simp only [blockSizeGrowthFavoredZone, cryptonoteBlockGrantedFullRewardZone, uint64Modulus] at favored ⊢
    rw [Nat.mod_eq_of_lt (by omega)]
    omega
  · exact le_refl _

/-- An empty block gets the base reward, whatever the median. -/
theorem getBlockReward_zero (moneySupplyShare : Nat → Nat) (medianWeight alreadyGeneratedCoins
    height : Nat) :
    getBlockReward moneySupplyShare medianWeight 0 alreadyGeneratedCoins height =
      some (baseReward moneySupplyShare alreadyGeneratedCoins height) := by
  simp [getBlockReward]

section Reward

variable (moneySupplyShare : Nat → Nat) {medianWeight currentBlockWeight : Nat}
  (alreadyGeneratedCoins height : Nat)

theorem getBlockReward_eq_none_iff (fits : 2 * max medianWeight cryptonoteBlockGrantedFullRewardZone < 2 ^ 64) :
    getBlockReward moneySupplyShare medianWeight currentBlockWeight alreadyGeneratedCoins height = none ↔
      2 * max medianWeight cryptonoteBlockGrantedFullRewardZone < currentBlockWeight := by
  rw [getBlockReward_eq_of_fits moneySupplyShare alreadyGeneratedCoins height fits]
  dsimp only
  split_ifs with refused <;> simp [refused]

/-- The reward never exceeds the base reward, wrapped multiplicand or not. -/
theorem getBlockReward_le {reward : Nat}
    (fits : 2 * max medianWeight cryptonoteBlockGrantedFullRewardZone < 2 ^ 64)
    (rewarded : getBlockReward moneySupplyShare medianWeight currentBlockWeight alreadyGeneratedCoins height =
      some reward) :
    reward ≤ baseReward moneySupplyShare alreadyGeneratedCoins height := by
  rw [getBlockReward_eq_of_fits moneySupplyShare alreadyGeneratedCoins height fits] at rewarded
  dsimp only at rewarded
  split_ifs at rewarded
  · cases rewarded
    exact le_refl _
  · cases rewarded
    exact penalized_le (le_trans (Nat.mod_le _ _) (sub_mul_le_mul_self _ _))

/-- While the multiplicand does not wrap, the penalty is the one of the formula. -/
theorem getBlockReward_of_penalty (fits : 2 * max medianWeight cryptonoteBlockGrantedFullRewardZone < 2 ^ 64)
    (penalized : penaltyFreeWeight (max medianWeight cryptonoteBlockGrantedFullRewardZone) < currentBlockWeight)
    (within : currentBlockWeight ≤ 2 * max medianWeight cryptonoteBlockGrantedFullRewardZone)
    (noWrap : (2 * max medianWeight cryptonoteBlockGrantedFullRewardZone - currentBlockWeight) *
      currentBlockWeight < 2 ^ 64) :
    getBlockReward moneySupplyShare medianWeight currentBlockWeight alreadyGeneratedCoins height =
      some (baseReward moneySupplyShare alreadyGeneratedCoins height *
        ((2 * max medianWeight cryptonoteBlockGrantedFullRewardZone - currentBlockWeight) * currentBlockWeight) /
        (max medianWeight cryptonoteBlockGrantedFullRewardZone * max medianWeight cryptonoteBlockGrantedFullRewardZone)) := by
  rw [getBlockReward_eq_of_fits moneySupplyShare alreadyGeneratedCoins height fits]
  dsimp only
  rw [if_neg (not_lt.mpr within), if_neg (not_le.mpr penalized), Nat.mod_eq_of_lt noWrap]

/-- No multiplicand wraps for a median below `2 ^ 32`. -/
theorem multiplicand_lt {median : Nat} (small : median < 2 ^ 32) (currentBlockWeight : Nat) :
    (2 * median - currentBlockWeight) * currentBlockWeight < 2 ^ 64 :=
  calc (2 * median - currentBlockWeight) * currentBlockWeight ≤ median * median := sub_mul_le_mul_self _ _
    _ < 2 ^ 32 * 2 ^ 32 := Nat.mul_lt_mul'' small small
    _ = 2 ^ 64 := by norm_num

/-- For a median below `2 ^ 32` the reward falls as the block grows. -/
theorem getBlockReward_antitone {w1 w2 r1 r2 : Nat}
    (small : max medianWeight cryptonoteBlockGrantedFullRewardZone < 2 ^ 32) (le : w1 ≤ w2)
    (first : getBlockReward moneySupplyShare medianWeight w1 alreadyGeneratedCoins height = some r1)
    (second : getBlockReward moneySupplyShare medianWeight w2 alreadyGeneratedCoins height = some r2) :
    r2 ≤ r1 := by
  have fits : 2 * max medianWeight cryptonoteBlockGrantedFullRewardZone < 2 ^ 64 := by omega
  have free := le_penaltyFreeWeight (max medianWeight cryptonoteBlockGrantedFullRewardZone)
  rw [getBlockReward_eq_of_fits moneySupplyShare alreadyGeneratedCoins height fits] at first second
  dsimp only at first second
  split_ifs at first second with refused1 free1 refused2 free2 free2 <;> cases first <;> cases second
  · exact le_refl _
  · -- the first block keeps the base reward, the second is penalized
    exact penalized_le (le_trans (Nat.mod_le _ _) (sub_mul_le_mul_self _ _))
  · omega
  · -- both are penalized, the heavier one by more
    rw [Nat.mod_eq_of_lt (multiplicand_lt small _), Nat.mod_eq_of_lt (multiplicand_lt small _)]
    exact Nat.div_le_div_right (Nat.mul_le_mul_left _ (sub_mul_antitone (by omega) le))

/-- `get_block_reward` reads the median only raised to the full reward zone. -/
theorem getBlockReward_soft (medianWeight currentBlockWeight : Nat) :
    getBlockReward moneySupplyShare (max medianWeight cryptonoteBlockGrantedFullRewardZone)
        currentBlockWeight alreadyGeneratedCoins height =
      getBlockReward moneySupplyShare medianWeight currentBlockWeight alreadyGeneratedCoins height := by
  simp only [getBlockReward, softMedian_eq, max_assoc, max_self]

/-- Two medians that the full reward zone raises alike give the same rewards. -/
theorem getBlockReward_congr_zone {medianWeight medianWeight' : Nat} (currentBlockWeight : Nat)
    (same : max medianWeight cryptonoteBlockGrantedFullRewardZone =
      max medianWeight' cryptonoteBlockGrantedFullRewardZone) :
    getBlockReward moneySupplyShare medianWeight currentBlockWeight alreadyGeneratedCoins height =
      getBlockReward moneySupplyShare medianWeight' currentBlockWeight alreadyGeneratedCoins height := by
  rw [← getBlockReward_soft, same, getBlockReward_soft]

/-- The reward never exceeds the base reward, for every median: one whose double wraps leaves
room only for blocks within the median. -/
theorem getBlockReward_le_baseReward {reward : Nat}
    (rewarded : getBlockReward moneySupplyShare medianWeight currentBlockWeight alreadyGeneratedCoins height =
      some reward) :
    reward ≤ baseReward moneySupplyShare alreadyGeneratedCoins height := by
  by_cases fits : 2 * max medianWeight cryptonoteBlockGrantedFullRewardZone < 2 ^ 64
  · exact getBlockReward_le moneySupplyShare alreadyGeneratedCoins height fits rewarded
  · have free := le_penaltyFreeWeight (max medianWeight cryptonoteBlockGrantedFullRewardZone)
    have wrapped : 2 * max medianWeight cryptonoteBlockGrantedFullRewardZone % uint64Modulus <
        max medianWeight cryptonoteBlockGrantedFullRewardZone := by
      simp only [uint64Modulus] at fits ⊢
      omega
    unfold getBlockReward at rewarded
    rw [softMedian_eq] at rewarded
    dsimp only at rewarded
    split_ifs at rewarded with refused within
    · cases rewarded
      exact le_refl _
    · omega

end Reward

end Sumokoin.Basic
