import Sumokoin.Core.DynamicFee
import Sumokoin.Basic.BlockRewardSpec
import Sumokoin.Core.BlockTemplateSpec

/-! What the node's fee check asks against what its estimate offers. From `HF_VERSION_PER_BYTE_FEE`
on the fee per byte is `R * 5000 / (Z * max M Z) / 5` for the reward `R`, the median `M` and the
full reward zone `Z`, and it falls as the median grows. `check_fee` takes the median of half the
weight limit and the estimate the median of the padded window, each through `use_median_value`: a
wallet that pays the estimate is accepted whenever the estimate's median is at most the check's, in
particular from `HF_VERSION_LONG_TERM_BLOCK_WEIGHT` on whenever the long term effective median is at
most half the limit. Before that version the two medians are those of two different windows, and
the padding can raise the estimate's above the check's: thirty light blocks and thirty heavy ones
after `init` leave a limit whose half is the full reward zone, while the estimate's window of the
fifty last weights and ten padded ones has its median halfway between the zone and the heavy
weight, so a transaction that pays the estimate is refused. -/

namespace Sumokoin.Core.Weight

open Sumokoin.Chain Sumokoin.Epee Sumokoin.Basic

/-! ### Quantization -/

theorem quantizeFee_eq {fee mask : Nat} (fits : fee + mask - 1 < 2 ^ 64) :
    quantizeFee fee mask = (fee + mask - 1) / mask * mask := by
  rw [quantizeFee, uint64Modulus, Nat.mod_eq_of_lt fits]

/-- Rounding up never lowers a fee that stays in a word. -/
theorem le_quantizeFee {fee mask : Nat} (pos : 0 < mask) (fits : fee + mask - 1 < 2 ^ 64) :
    fee ≤ quantizeFee fee mask := by
  rw [quantizeFee_eq fits]
  have split := Nat.div_add_mod' (fee + mask - 1) mask
  have small := Nat.mod_lt (fee + mask - 1) pos
  omega

theorem quantizeFee_mono {fee fee' mask : Nat} (le : fee ≤ fee') (fits : fee' + mask - 1 < 2 ^ 64) :
    quantizeFee fee mask ≤ quantizeFee fee' mask := by
  rw [quantizeFee_eq (by omega), quantizeFee_eq fits]
  exact Nat.mul_le_mul_right _ (Nat.div_le_div_right (by omega))

/-- A fee that is a whole multiple of the mask is kept by the rounding. -/
theorem quantizeFee_of_dvd {fee mask : Nat} (pos : 0 < mask) (dvd : mask ∣ fee)
    (fits : fee + mask - 1 < 2 ^ 64) : quantizeFee fee mask = fee := by
  obtain ⟨k, rfl⟩ := dvd
  rw [quantizeFee_eq fits, Nat.add_sub_assoc pos, Nat.mul_add_div pos,
    Nat.div_eq_of_lt (by omega), Nat.add_zero, Nat.mul_comm]

/-! ### The fee per byte -/

/-- From `HF_VERSION_PER_BYTE_FEE` on, for every reward that is a word, the fee per byte is the
reward times `DYNAMIC_FEE_REFERENCE_TRANSACTION_WEIGHT` over the zone and the median raised to it,
over five: `mul128` and `div128_64` are exact. -/
theorem getDynamicBaseFee_of_perByte {version : Nat} (perByte : hfVersionPerByteFee ≤ version)
    {blockReward : Nat} (word : blockReward < 2 ^ 64) (medianBlockWeight : Nat) :
    getDynamicBaseFee blockReward medianBlockWeight version =
      blockReward * dynamicFeeReferenceTransactionWeight /
        (cryptonoteBlockGrantedFullRewardZone *
          max medianBlockWeight cryptonoteBlockGrantedFullRewardZone) / 5 := by
  -- the divisor is at least the square of the zone, above the reference weight
  have fits : blockReward * dynamicFeeReferenceTransactionWeight /
      (cryptonoteBlockGrantedFullRewardZone *
        max medianBlockWeight cryptonoteBlockGrantedFullRewardZone) < 2 ^ 64 := by
    have square : dynamicFeeReferenceTransactionWeight ≤ cryptonoteBlockGrantedFullRewardZone *
        max medianBlockWeight cryptonoteBlockGrantedFullRewardZone :=
      le_trans (by decide) (Nat.mul_le_mul_left _ (le_max_right _ _))
    refine Nat.div_lt_of_lt_mul ?_
    calc blockReward * dynamicFeeReferenceTransactionWeight
        < 2 ^ 64 * dynamicFeeReferenceTransactionWeight :=
          Nat.mul_lt_mul_of_pos_right word (by decide)
      _ ≤ 2 ^ 64 * (cryptonoteBlockGrantedFullRewardZone *
          max medianBlockWeight cryptonoteBlockGrantedFullRewardZone) := Nat.mul_le_mul_left _ square
      _ = _ := Nat.mul_comm _ _
  have raised : (if medianBlockWeight < getMinBlockWeight version then getMinBlockWeight version
      else medianBlockWeight) = max medianBlockWeight cryptonoteBlockGrantedFullRewardZone :=
    softMedian_eq medianBlockWeight
  simp only [getDynamicBaseFee]
  rw [if_pos perByte, raised, show getMinBlockWeight version = cryptonoteBlockGrantedFullRewardZone from rfl,
    div128_64_div128_64_mul128 word (by decide) _ _ fits]

/-- The fee per byte falls as the median grows. -/
theorem getDynamicBaseFee_antitone {version : Nat} (perByte : hfVersionPerByteFee ≤ version)
    {blockReward : Nat} (word : blockReward < 2 ^ 64) {median median' : Nat} (le : median ≤ median') :
    getDynamicBaseFee blockReward median' version ≤ getDynamicBaseFee blockReward median version := by
  rw [getDynamicBaseFee_of_perByte perByte word, getDynamicBaseFee_of_perByte perByte word]
  have pos : 0 < cryptonoteBlockGrantedFullRewardZone *
      max median cryptonoteBlockGrantedFullRewardZone :=
    Nat.mul_pos (by decide) (lt_of_lt_of_le (by decide) (le_max_right _ _))
  refine Nat.div_le_div_right (Nat.div_le_div_left ?_ pos)
  exact Nat.mul_le_mul_left _ (max_le_max le le_rfl)

namespace Blockchain

variable (moneySupplyShare alreadyGeneratedCoins : Nat → Nat) (kbNeededFee : Nat → Nat → Nat)

/-! ### The check and the estimate -/

/-- From `HF_VERSION_PER_BYTE_FEE` on, with the reward granted, `check_fee` accepts a fee exactly
when it is at least the needed fee, the weight times the fee per byte of the median of
`use_median_value`, quantized, less two percent. -/
theorem checkFee_of_perByte {version : Nat} (perByte : hfVersionPerByteFee ≤ version)
    {bc : Blockchain} {baseReward : Nat}
    (reward : bc.feeBlockReward moneySupplyShare alreadyGeneratedCoins = some baseReward)
    (txWeight fee : Nat) :
    bc.checkFee moneySupplyShare alreadyGeneratedCoins kbNeededFee version txWeight fee = true ↔
      let neededFee := quantizeFee (txWeight * getDynamicBaseFee baseReward
        (bc.useMedianValue version (bc.currentBlockCumulWeightLimit / 2)) version % uint64Modulus)
        getFeeQuantizationMask
      neededFee - neededFee / 50 ≤ fee := by
  simp only [checkFee, reward, if_pos perByte]
  simp

/-- The estimate for fewer grace blocks than the window: the fee for the median of the read
weights and the padding, raised to the zone, with the reward of `check_fee` or the
overestimate. -/
theorem getDynamicBaseFeeEstimate_eq (version : Nat) (bc : Blockchain) {graceBlocks : Nat}
    (within : graceBlocks < cryptonoteRewardBlocksWindow) {weights : List Nat}
    (read : getLastNBlocksWeights bc.db (cryptonoteRewardBlocksWindow - graceBlocks) = .ok weights) :
    bc.getDynamicBaseFeeEstimate moneySupplyShare alreadyGeneratedCoins version graceBlocks =
      .ok (getDynamicBaseFee
        ((bc.feeBlockReward moneySupplyShare alreadyGeneratedCoins).getD blockRewardOverestimate)
        (bc.useMedianValue version (max (Epee.median
          (weights ++ List.replicate graceBlocks cryptonoteBlockGrantedFullRewardZone))
          cryptonoteBlockGrantedFullRewardZone)) version) := by
  have raised : ∀ m : Nat, (if m ≤ cryptonoteBlockGrantedFullRewardZone then
      cryptonoteBlockGrantedFullRewardZone else m) = max m cryptonoteBlockGrantedFullRewardZone := by
    intro m
    split_ifs <;> omega
  simp only [getDynamicBaseFeeEstimate, if_neg (Nat.not_le.mpr within), read, raised]
  rfl

/-- A reward granted to `check_fee` is a word: it is at most the base reward. -/
theorem feeBlockReward_lt {bc : Blockchain} {baseReward : Nat}
    (reward : bc.feeBlockReward moneySupplyShare alreadyGeneratedCoins = some baseReward) :
    baseReward < 2 ^ 64 :=
  lt_of_le_of_lt (getBlockReward_le_baseReward moneySupplyShare _ _ reward) (baseReward_lt _ _ _)

/-- From `HF_VERSION_PER_BYTE_FEE` on, a wallet that pays at least the fee per byte that the check
asks, times the weight and a multiplier of at least one, is accepted, as long as its fee and the
rounding stay in a word. -/
theorem checkFee_calculateFeeFromWeight_of_le {version : Nat} (perByte : hfVersionPerByteFee ≤ version)
    {bc : Blockchain} {baseReward : Nat}
    (reward : bc.feeBlockReward moneySupplyShare alreadyGeneratedCoins = some baseReward)
    {feePerByte txWeight feeMultiplier : Nat}
    (le : getDynamicBaseFee baseReward
      (bc.useMedianValue version (bc.currentBlockCumulWeightLimit / 2)) version ≤ feePerByte)
    (multiplier : 1 ≤ feeMultiplier)
    (fits : txWeight * feePerByte * feeMultiplier + getFeeQuantizationMask - 1 < 2 ^ 64) :
    bc.checkFee moneySupplyShare alreadyGeneratedCoins kbNeededFee version txWeight
      (Wallet.calculateFeeFromWeight feePerByte txWeight feeMultiplier getFeeQuantizationMask) =
        true := by
  rw [checkFee_of_perByte moneySupplyShare alreadyGeneratedCoins kbNeededFee perByte reward]
  generalize getDynamicBaseFee baseReward
    (bc.useMedianValue version (bc.currentBlockCumulWeightLimit / 2)) version = asked at le
  have mask : 0 < getFeeQuantizationMask := by decide
  have product : txWeight * asked ≤ txWeight * feePerByte * feeMultiplier :=
    calc txWeight * asked ≤ txWeight * feePerByte := Nat.mul_le_mul_left _ le
      _ ≤ txWeight * feePerByte * feeMultiplier := Nat.le_mul_of_pos_right _ multiplier
  have wordAsked : txWeight * asked % uint64Modulus = txWeight * asked :=
    Nat.mod_eq_of_lt (by unfold uint64Modulus; omega)
  have wordPaid : txWeight * feePerByte * feeMultiplier % uint64Modulus =
      txWeight * feePerByte * feeMultiplier :=
    Nat.mod_eq_of_lt (by unfold uint64Modulus; omega)
  -- the needed fee, quantized, is at most the wallet's, quantized in the same way
  have quantized := quantizeFee_mono product fits
  simp only [Wallet.calculateFeeFromWeight, wordAsked, wordPaid]
  omega

/-- From `HF_VERSION_PER_BYTE_FEE` on, with the reward granted, the estimate for fewer grace blocks
than the window is a fee that `check_fee` accepts from every wallet that pays it for any weight
and any multiplier of at least one within a word, whenever the estimate's median is at most the
check's. -/
theorem checkFee_estimate_of_median_le {version : Nat} (perByte : hfVersionPerByteFee ≤ version)
    {bc : Blockchain} {baseReward : Nat}
    (reward : bc.feeBlockReward moneySupplyShare alreadyGeneratedCoins = some baseReward)
    {graceBlocks : Nat} (within : graceBlocks < cryptonoteRewardBlocksWindow) {weights : List Nat}
    (read : getLastNBlocksWeights bc.db (cryptonoteRewardBlocksWindow - graceBlocks) = .ok weights)
    (le : bc.useMedianValue version (max (Epee.median
        (weights ++ List.replicate graceBlocks cryptonoteBlockGrantedFullRewardZone))
        cryptonoteBlockGrantedFullRewardZone) ≤
      bc.useMedianValue version (bc.currentBlockCumulWeightLimit / 2)) :
    ∃ fee, bc.getDynamicBaseFeeEstimate moneySupplyShare alreadyGeneratedCoins version graceBlocks =
        .ok fee ∧
      ∀ txWeight feeMultiplier, 1 ≤ feeMultiplier →
        txWeight * fee * feeMultiplier + getFeeQuantizationMask - 1 < 2 ^ 64 →
        bc.checkFee moneySupplyShare alreadyGeneratedCoins kbNeededFee version txWeight
          (Wallet.calculateFeeFromWeight fee txWeight feeMultiplier getFeeQuantizationMask) = true := by
  refine ⟨_, getDynamicBaseFeeEstimate_eq moneySupplyShare alreadyGeneratedCoins version bc within read,
    fun txWeight feeMultiplier multiplier fits => ?_⟩
  rw [reward, Option.getD_some] at fits ⊢
  -- the smaller median asks the larger fee per byte
  exact checkFee_calculateFeeFromWeight_of_le moneySupplyShare alreadyGeneratedCoins kbNeededFee
    perByte reward (getDynamicBaseFee_antitone perByte (feeBlockReward_lt _ _ reward) le) multiplier fits

/-- From `HF_VERSION_LONG_TERM_BLOCK_WEIGHT` on, both medians are capped by the long term effective
median: when that is at most half the limit, the estimate is accepted. -/
theorem checkFee_estimate_of_longTerm_le {version : Nat} (late : hfVersionLongTermBlockWeight ≤ version)
    {bc : Blockchain} {baseReward : Nat}
    (reward : bc.feeBlockReward moneySupplyShare alreadyGeneratedCoins = some baseReward)
    (longTerm : bc.longTermEffectiveMedianBlockWeight ≤ bc.currentBlockCumulWeightLimit / 2)
    {graceBlocks : Nat} (within : graceBlocks < cryptonoteRewardBlocksWindow) :
    ∃ fee, bc.getDynamicBaseFeeEstimate moneySupplyShare alreadyGeneratedCoins version graceBlocks =
        .ok fee ∧
      ∀ txWeight feeMultiplier, 1 ≤ feeMultiplier →
        txWeight * fee * feeMultiplier + getFeeQuantizationMask - 1 < 2 ^ 64 →
        bc.checkFee moneySupplyShare alreadyGeneratedCoins kbNeededFee version txWeight
          (Wallet.calculateFeeFromWeight fee txWeight feeMultiplier getFeeQuantizationMask) = true := by
  obtain ⟨weights, read⟩ := Miner.getLastNBlocksWeights_ok bc.db
    (show 0 < cryptonoteRewardBlocksWindow - graceBlocks by omega)
  refine checkFee_estimate_of_median_le moneySupplyShare alreadyGeneratedCoins kbNeededFee
    (le_trans (by decide) late) reward within read ?_
  simp only [useMedianValue, if_pos late, min_eq_right longTerm]
  exact min_le_right _ _

/-! ### The chain before the long term weights -/

/-- The weights of the last `count` blocks, when at least that many were added last. -/
theorem getLastNBlocksWeights_foldl_addBlock (db : Db) (bs : List BlockRecord) {count : Nat}
    (pos : 0 < count) (le : count ≤ bs.length) :
    getLastNBlocksWeights (bs.foldl Db.addBlock db) count =
      .ok ((bs.drop (bs.length - count)).map BlockRecord.weight) := by
  have height := Db.foldl_addBlock_height db bs
  have start : (bs.foldl Db.addBlock db).height - min (bs.foldl Db.addBlock db).height count =
      db.height + (bs.length - count) := by omega
  simp only [getLastNBlocksWeights, Db.getBlockWeights, Db.getBlockInfo64bitFields]
  rw [if_neg (by omega), start, if_pos (by omega)]
  congr 1
  apply List.ext_getElem
  · simp only [List.length_map, List.length_range', List.length_drop]
    omega
  · intro i within _
    have inside : bs.length - count + i < bs.length := by simp at within; omega
    rw [List.getElem_map, List.getElem_range', List.getElem_map, List.getElem_drop, Nat.one_mul,
      Nat.add_assoc, Db.foldl_addBlock_blocks db bs inside]

/-- Before `HF_VERSION_LONG_TERM_BLOCK_WEIGHT`, at the height of the call and the next, adding a
block does not throw and puts it on the chain with its weight as its long term weight. -/
theorem addBlock_db_of_lt {version : Nat → Nat} {bc : Blockchain} (b : BlockRecord)
    (now : version bc.db.height < hfVersionLongTermBlockWeight)
    (next : version (bc.db.height + 1) < hfVersionLongTermBlockWeight) :
    ∃ bc', bc.addBlock version b = .ok bc' ∧
      bc'.db = bc.db.addBlock { b with longTermWeight := b.weight } := by
  obtain ⟨weights, read⟩ := Miner.getLastNBlocksWeights_ok
    (bc.db.addBlock { b with longTermWeight := b.weight })
    (show 0 < cryptonoteRewardBlocksWindow by decide)
  refine ⟨({ bc with db := bc.db.addBlock { b with longTermWeight := b.weight } }).setWeightLimit
    (Epee.median weights), ?_, rfl⟩
  simp only [addBlock, getNextLongTermBlockWeight, if_pos now]
  simp [bind, Except.bind, updateNextCumulativeWeightLimit, next, read, Except.map]

/-- Before `HF_VERSION_LONG_TERM_BLOCK_WEIGHT` from the chain's height on, a run of additions puts
the blocks on the chain one after another. -/
theorem run_addBlocks_db {version : Nat → Nat} (bs : List BlockRecord) {bc : Blockchain}
    (early : ∀ h, bc.db.height ≤ h → version h < hfVersionLongTermBlockWeight) :
    (bc.run version (bs.map .addBlock)).db =
      (bs.map fun b => { b with longTermWeight := b.weight }).foldl Db.addBlock bc.db := by
  induction bs generalizing bc with
  | nil => rfl
  | cons b bs ih =>
    obtain ⟨bc', added, db'⟩ := addBlock_db_of_lt b (early _ le_rfl) (early _ (Nat.le_succ _))
    have stepped : bc.step version (.addBlock b) = bc' := by
      simp [step, added, Except.toOption]
    have early' : ∀ h, bc'.db.height ≤ h → version h < hfVersionLongTermBlockWeight := by
      intro h above
      rw [db', Db.addBlock_height] at above
      exact early h (by omega)
    show (run version (bc.step version (.addBlock b)) (bs.map .addBlock)).db = _
    rw [stepped, ih early', db']
    rfl

/-- The update of the limits keeps the chain, whether it throws or not. -/
theorem step_update_db (version : Nat → Nat) (bc : Blockchain) :
    (bc.step version .updateNextCumulativeWeightLimit).db = bc.db := by
  simp only [step]
  cases update : bc.updateNextCumulativeWeightLimit (version bc.db.height) with
  | error e => rfl
  | ok bc' => exact (Miner.updateNextCumulativeWeightLimit_eq_ok update).1

end Blockchain

/-! ### An estimate the check refuses -/

/-- Thirty blocks of `1000` bytes, then thirty of `490000`, each within twice the full reward zone,
the smallest limit. -/
def lightHeavyBlocks : List BlockRecord :=
  List.replicate 30 ⟨7, 7, 0, 0, 0, 1000, 0⟩ ++ List.replicate 30 ⟨7, 7, 0, 0, 0, 490000, 0⟩

open Sumokoin.Core.Weight.Blockchain in
theorem checkFee_rejects_dynamicBaseFeeEstimate (moneySupplyShare alreadyGeneratedCoins : Nat → Nat)
    (kbNeededFee : Nat → Nat → Nat) (version : Nat → Nat) (db : Db) (window : Nat)
    (perByte : ∀ h, db.height ≤ h → version h = hfVersionPerByteFee) :
    let bc := (Blockchain.create db window).run version
      (.updateNextCumulativeWeightLimit :: lightHeavyBlocks.map .addBlock)
    ∃ fee, bc.getDynamicBaseFeeEstimate moneySupplyShare alreadyGeneratedCoins
        (version bc.db.height) 10 = .ok fee ∧
      3000 * fee * 1 < 2 ^ 64 ∧
      bc.checkFee moneySupplyShare alreadyGeneratedCoins kbNeededFee (version bc.db.height) 3000
        (Wallet.calculateFeeFromWeight fee 3000 1 getFeeQuantizationMask) = false := by
  intro bc
  -- the update of `init` keeps the chain, and the sixty blocks go on top of it
  have early : ∀ h, db.height ≤ h → version h < hfVersionLongTermBlockWeight := by
    intro h above
    rw [perByte h above]
    decide
  have chain : bc.db =
      (lightHeavyBlocks.map fun b => { b with longTermWeight := b.weight }).foldl Db.addBlock db := by
    show (((Blockchain.create db window).step version .updateNextCumulativeWeightLimit).run version
      (lightHeavyBlocks.map .addBlock)).db = _
    rw [run_addBlocks_db _ (by rw [step_update_db]; exact early), step_update_db]
    rfl
  have height : bc.db.height = db.height + 60 := by
    rw [chain, Db.foldl_addBlock_height]
    rfl
  have current : version bc.db.height = hfVersionPerByteFee := perByte _ (by omega)
  -- the weights that the check and the estimate read
  have lastSixty : getLastNBlocksWeights bc.db cryptonoteRewardBlocksWindow =
      .ok (List.replicate 30 1000 ++ List.replicate 30 490000) := by
    rw [chain, getLastNBlocksWeights_foldl_addBlock _ _ (by decide)
      (by simp [lightHeavyBlocks, cryptonoteRewardBlocksWindow])]
    simp [lightHeavyBlocks, cryptonoteRewardBlocksWindow]
  have lastFifty : getLastNBlocksWeights bc.db (cryptonoteRewardBlocksWindow - 10) =
      .ok (List.replicate 20 1000 ++ List.replicate 30 490000) := by
    rw [chain, getLastNBlocksWeights_foldl_addBlock _ _ (by decide)
      (by simp [lightHeavyBlocks, cryptonoteRewardBlocksWindow])]
    simp [lightHeavyBlocks, cryptonoteRewardBlocksWindow]
  -- the check's median: half the limit, tied by the bounds of the run to the sixty weights
  have bounds := Miner.medianBounds_run version db window (lightHeavyBlocks.map .addBlock)
  have half : max (bc.currentBlockCumulWeightLimit / 2) cryptonoteBlockGrantedFullRewardZone =
      cryptonoteBlockGrantedFullRewardZone := by
    rw [bounds.limit, Nat.mul_div_cancel _ (by decide),
      bounds.shortTerm (by rw [current]; decide) _ lastSixty,
      median_replicate_append_replicate (by decide) (by decide)]
    decide
  -- the reward of a block of weight one under that median is the base reward
  obtain ⟨baseReward, reward, low, high⟩ : ∃ baseReward,
      bc.feeBlockReward moneySupplyShare alreadyGeneratedCoins = some baseReward ∧
        finalSubsidy / 2 ≤ baseReward ∧ baseReward ≤ genesisBlockReward := by
    simp only [feeBlockReward]
    rw [getBlockReward_eq_of_fits moneySupplyShare _ _ (by rw [half]; decide)]
    simp only [half]
    rw [if_neg (by decide), if_pos (by decide)]
    exact ⟨_, rfl, finalSubsidy_div_two_le_baseReward _ _ _, baseReward_le_genesisBlockReward _ _ _⟩
  have word := feeBlockReward_lt moneySupplyShare alreadyGeneratedCoins reward
  -- the estimate's median: halfway between the zone and the heavy weight
  have padded : max (Epee.median (List.replicate 20 1000 ++ List.replicate 30 490000 ++
      List.replicate 10 cryptonoteBlockGrantedFullRewardZone)) cryptonoteBlockGrantedFullRewardZone =
      367880 := by
    rw [median_padded (by decide) (by decide) (by decide) (by decide)]
    decide
  have estimated := getDynamicBaseFeeEstimate_eq moneySupplyShare alreadyGeneratedCoins
    (version bc.db.height) bc (show 10 < cryptonoteRewardBlocksWindow by decide) lastFifty
  -- before the long term weights each median is its own
  have own : ¬hfVersionPerByteFee ≥ hfVersionLongTermBlockWeight := by decide
  rw [current, padded, reward, Option.getD_some] at estimated
  simp only [useMedianValue, if_neg own] at estimated
  rw [current]
  refine ⟨_, estimated, ?_, ?_⟩
  all_goals rw [getDynamicBaseFee_of_perByte le_rfl word,
    show max 367880 cryptonoteBlockGrantedFullRewardZone = 367880 by decide]
  · simp only [dynamicFeeReferenceTransactionWeight, cryptonoteBlockGrantedFullRewardZone,
      genesisBlockReward] at high ⊢
    omega
  · rw [Bool.eq_false_iff, ne_eq,
      checkFee_of_perByte moneySupplyShare alreadyGeneratedCoins kbNeededFee le_rfl reward]
    simp only [useMedianValue, if_neg own]
    rw [getDynamicBaseFee_of_perByte le_rfl word, half]
    -- the fees per byte asked and offered, each one quotient of the same product
    have askedEq : baseReward * dynamicFeeReferenceTransactionWeight / (cryptonoteBlockGrantedFullRewardZone *
        cryptonoteBlockGrantedFullRewardZone) / 5 = baseReward * 5000 / 301989888000 := by
      rw [Nat.div_div_eq_div_mul]
      rfl
    have offeredEq : baseReward * dynamicFeeReferenceTransactionWeight / (cryptonoteBlockGrantedFullRewardZone *
        367880) / 5 = baseReward * 5000 / 452050944000 := by
      rw [Nat.div_div_eq_div_mul]
      rfl
    rw [askedEq, offeredEq]
    -- the padded median offers about two thirds of what the check asks
    have short : 50 * (baseReward * 5000 / 452050944000) < 49 * (baseReward * 5000 / 301989888000) := by
      simp only [finalSubsidy] at low
      omega
    have small : baseReward * 5000 / 301989888000 < 2 ^ 50 := by
      simp only [genesisBlockReward] at high
      omega
    have mask : getFeeQuantizationMask = 1000 := by decide
    have wordAsked : 3000 * (baseReward * 5000 / 301989888000) % uint64Modulus =
        3000 * (baseReward * 5000 / 301989888000) :=
      Nat.mod_eq_of_lt (show 3000 * (baseReward * 5000 / 301989888000) < 2 ^ 64 by omega)
    have wordOffered : 3000 * (baseReward * 5000 / 452050944000) * 1 % uint64Modulus =
        3000 * (baseReward * 5000 / 452050944000) := by
      rw [Nat.mul_one]
      exact Nat.mod_eq_of_lt (show 3000 * (baseReward * 5000 / 452050944000) < 2 ^ 64 by omega)
    -- both fees are whole multiples of the mask, which the rounding keeps
    simp only [Wallet.calculateFeeFromWeight, wordAsked, wordOffered, mask]
    rw [quantizeFee_of_dvd (by decide) (Dvd.dvd.mul_right (by decide) _) (by omega),
      quantizeFee_of_dvd (by decide) (Dvd.dvd.mul_right (by decide) _) (by omega)]
    omega


/-- The run from an empty chain at version `7` throughout, with no share of the supply emitted, so
that the base reward is the final subsidy. -/
theorem checkFee_rejects_dynamicBaseFeeEstimate_emptyChain :
    (∀ h, (⟨0, fun _ => ⟨0, 0, 0, 0, 0, 0, 0⟩, fun _ => 0⟩ : Db).height ≤ h →
      (fun _ => 7 : Nat → Nat) h = hfVersionPerByteFee) ∧
    let bc := (Blockchain.create ⟨0, fun _ => ⟨0, 0, 0, 0, 0, 0, 0⟩, fun _ => 0⟩
      cryptonoteLongTermBlockWeightWindowSize).run (fun _ => 7)
      (.updateNextCumulativeWeightLimit :: lightHeavyBlocks.map .addBlock)
    ∃ fee, bc.getDynamicBaseFeeEstimate (fun _ => 0) (fun _ => 0) 7 10 = .ok fee ∧
      3000 * fee * 1 < 2 ^ 64 ∧
      bc.checkFee (fun _ => 0) (fun _ => 0) (fun _ _ => 0) 7 3000
        (Wallet.calculateFeeFromWeight fee 3000 1 getFeeQuantizationMask) = false :=
  ⟨fun _ _ => rfl, checkFee_rejects_dynamicBaseFeeEstimate (fun _ => 0) (fun _ => 0) (fun _ _ => 0)
    (fun _ => 7) _ _ (fun _ _ => rfl)⟩

end Sumokoin.Core.Weight

