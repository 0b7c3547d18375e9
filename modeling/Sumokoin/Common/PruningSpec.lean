import Sumokoin.Common.Pruning
import Sumokoin.ProofKit.Stripes
import Mathlib

/-! What the pruning functions compute on the seeds of `make_pruning_seed` with at least two
stripes. The stripe of a height is the label of its group of `CRYPTONOTE_PRUNING_STRIPE_SIZE`
heights among `2 ^ log_stripes` labels (`groupLabel`), and `get_next_unpruned_block_height`
jumps to the next group with the seed's label (`nextStart`), or to the tip. -/

namespace Sumokoin.Common.Pruning

open Sumokoin.ProofKit

/-! ### Seeds -/

/-- What `make_pruning_seed` checks and packs. -/
theorem makePruningSeed_eq_ok {stripe logStripes pruningSeed : Nat}
    (made : makePruningSeed stripe logStripes = .ok pruningSeed) :
    logStripes ≤ 7 ∧ 0 < stripe ∧ stripe ≤ 2 ^ logStripes ∧
      pruningSeed = logStripes * 2 ^ 7 + (stripe - 1) := by
  unfold makePruningSeed at made
  split_ifs at made with log range
  change logStripes ≤ 7 at log
  rw [Nat.one_shiftLeft] at range
  have stripes : 2 ^ logStripes ≤ 2 ^ 7 := Nat.pow_le_pow_right (by decide) log
  have low : stripe - 1 < 2 ^ 7 := by omega
  simp only [Except.ok.injEq, pruningSeedLogStripesShift, pruningSeedStripeShift,
    Nat.shiftLeft_zero] at made
  rw [← Nat.shiftLeft_add_eq_or_of_lt low, Nat.shiftLeft_eq] at made
  exact ⟨log, range.1, range.2, made.symm⟩

theorem makePruningSeed_of_le {stripe logStripes : Nat} (log : logStripes ≤ 7) (pos : 0 < stripe)
    (le : stripe ≤ 2 ^ logStripes) :
    ∃ pruningSeed, makePruningSeed stripe logStripes = .ok pruningSeed := by
  unfold makePruningSeed
  rw [if_neg (show ¬¬logStripes ≤ pruningSeedLogStripesMask from not_not.mpr log),
    if_neg (not_not.mpr ⟨pos, by rw [Nat.one_shiftLeft]; exact le⟩)]
  exact ⟨_, rfl⟩

/-- A seed of `make_pruning_seed` with at least two stripes gives back its stripe and its number
of stripes. -/
theorem decode_makePruningSeed {stripe logStripes pruningSeed : Nat} (logPos : 1 ≤ logStripes)
    (made : makePruningSeed stripe logStripes = .ok pruningSeed) :
    getPruningStripe pruningSeed = stripe ∧ getPruningLogStripes pruningSeed = logStripes := by
  obtain ⟨log, pos, le, rfl⟩ := makePruningSeed_eq_ok made
  have stripes : 2 ^ logStripes ≤ 2 ^ 7 := Nat.pow_le_pow_right (by decide) log
  constructor
  · rw [getPruningStripe, if_neg (by omega), pruningSeedStripeShift, Nat.shiftRight_zero,
      pruningSeedStripeMask, show (0x7f : Nat) = 2 ^ 7 - 1 from rfl,
      Nat.and_two_pow_sub_one_eq_mod]
    omega
  · rw [getPruningLogStripes, pruningSeedLogStripesShift, Nat.shiftRight_eq_div_pow,
      pruningSeedLogStripesMask, show (0x7 : Nat) = 2 ^ 3 - 1 from rfl,
      Nat.and_two_pow_sub_one_eq_mod]
    omega

/-! ### Stripes of heights -/

/-- Out of the tip a height's stripe is its group's label, from `1`. -/
theorem getBlockPruningStripe_eq {blockHeight blockchainHeight : Nat} (logStripes : Nat)
    (fits : blockHeight + cryptonotePruningTipBlocks < uint64Modulus) :
    getBlockPruningStripe blockHeight blockchainHeight logStripes =
      if blockchainHeight ≤ blockHeight + cryptonotePruningTipBlocks then 0
      else groupLabel cryptonotePruningStripeSize (2 ^ logStripes) blockHeight + 1 := by
  rw [getBlockPruningStripe, Nat.mod_eq_of_lt fits, Nat.one_shiftLeft,
    Nat.and_two_pow_sub_one_eq_mod]
  rfl

/-- A seed of stripe `stripe` keeps the tip and the heights whose label is `stripe - 1`. -/
theorem hasUnprunedBlock_iff {stripe logStripes pruningSeed : Nat} (logPos : 1 ≤ logStripes)
    (made : makePruningSeed stripe logStripes = .ok pruningSeed) {blockHeight blockchainHeight : Nat}
    (fits : blockHeight + cryptonotePruningTipBlocks < uint64Modulus) :
    hasUnprunedBlock blockHeight blockchainHeight pruningSeed = true ↔
      blockchainHeight ≤ blockHeight + cryptonotePruningTipBlocks ∨
        groupLabel cryptonotePruningStripeSize (2 ^ logStripes) blockHeight = stripe - 1 := by
  obtain ⟨-, pos, -, -⟩ := makePruningSeed_eq_ok made
  obtain ⟨stripeEq, logEq⟩ := decode_makePruningSeed logPos made
  simp only [hasUnprunedBlock, stripeEq, logEq, getBlockPruningStripe_eq _ fits,
    if_neg (show stripe ≠ 0 by omega)]
  split_ifs with tip
  · simp [tip]
  · simp only [tip, false_or, Bool.or_eq_true, beq_iff_eq]
    omega

/-- Out of the tip, a height of another label is pruned. -/
theorem hasUnprunedBlock_eq_false {stripe logStripes pruningSeed : Nat} (logPos : 1 ≤ logStripes)
    (made : makePruningSeed stripe logStripes = .ok pruningSeed) {blockHeight blockchainHeight : Nat}
    (fits : blockHeight + cryptonotePruningTipBlocks < uint64Modulus)
    (notTip : blockHeight + cryptonotePruningTipBlocks < blockchainHeight)
    (other : groupLabel cryptonotePruningStripeSize (2 ^ logStripes) blockHeight ≠ stripe - 1) :
    hasUnprunedBlock blockHeight blockchainHeight pruningSeed = false := by
  rw [Bool.eq_false_iff, ne_eq, hasUnprunedBlock_iff logPos made fits, not_or]
  exact ⟨by omega, other⟩

/-- The seed `0` keeps every block. -/
@[simp] theorem hasUnprunedBlock_zero (blockHeight blockchainHeight : Nat) :
    hasUnprunedBlock blockHeight blockchainHeight 0 = true := rfl

/-! ### The next unpruned height -/

/-- The start of the group the jump computes, as `nextStart`. -/
theorem cycleStart_eq (blockHeight count stripe : Nat) (pos : 0 < stripe) :
    (blockHeight / cryptonotePruningStripeSize / count +
          if stripe > blockHeight / cryptonotePruningStripeSize % count + 1 then 0 else 1) *
        (cryptonotePruningStripeSize * count) + (stripe - 1) * cryptonotePruningStripeSize =
      nextStart cryptonotePruningStripeSize count (stripe - 1) blockHeight := by
  have cond : (stripe > blockHeight / cryptonotePruningStripeSize % count + 1) ↔
      blockHeight / cryptonotePruningStripeSize % count < stripe - 1 := by omega
  rw [nextStart, nextGroup]
  simp only [cond]
  ring

/-- `get_next_unpruned_block_height` on a seed with at least two stripes, for heights below
`CRYPTONOTE_MAX_BLOCK_NUMBER`: the height itself in the tip or in the seed's stripe, else the
start of the seed's next group, or the start of the tip when that group starts past it. -/
theorem getNextUnprunedBlockHeight_eq {stripe logStripes pruningSeed : Nat} (logPos : 1 ≤ logStripes)
    (made : makePruningSeed stripe logStripes = .ok pruningSeed) {blockHeight blockchainHeight : Nat}
    (heightFits : blockHeight ≤ cryptonoteMaxBlockNumber + 1)
    (chainFits : blockchainHeight ≤ cryptonoteMaxBlockNumber + 1) :
    getNextUnprunedBlockHeight blockHeight blockchainHeight pruningSeed =
      if blockchainHeight ≤ blockHeight + cryptonotePruningTipBlocks then blockHeight
      else if groupLabel cryptonotePruningStripeSize (2 ^ logStripes) blockHeight = stripe - 1 then
        blockHeight
      else if blockchainHeight < nextStart cryptonotePruningStripeSize (2 ^ logStripes) (stripe - 1)
          blockHeight + cryptonotePruningTipBlocks then
        blockchainHeight - cryptonotePruningTipBlocks
      else nextStart cryptonotePruningStripeSize (2 ^ logStripes) (stripe - 1) blockHeight := by
  obtain ⟨log, pos, le, -⟩ := makePruningSeed_eq_ok made
  obtain ⟨stripeEq, logEq⟩ := decode_makePruningSeed logPos made
  have stripes : 2 ^ logStripes ≤ 2 ^ 7 := Nat.pow_le_pow_right (by decide) log
  have fits : blockHeight + cryptonotePruningTipBlocks < uint64Modulus := by
    simp only [cryptonoteMaxBlockNumber, cryptonotePruningTipBlocks, uint64Modulus] at *
    omega
  -- the jump stays within two cycles, far below a wrap
  have near := @nextStart_lt cryptonotePruningStripeSize _ _ (by decide)
    (show stripe - 1 < 2 ^ logStripes by omega) blockHeight
  have jumpFits : nextStart cryptonotePruningStripeSize (2 ^ logStripes) (stripe - 1) blockHeight +
      cryptonotePruningTipBlocks < uint64Modulus := by
    simp only [cryptonoteMaxBlockNumber, cryptonotePruningTipBlocks, uint64Modulus,
      cryptonotePruningStripeSize] at *
    omega
  unfold getNextUnprunedBlockHeight
  simp only [heightFits, chainFits, not_true_eq_false, if_false, stripeEq, logEq,
    if_neg (show stripe ≠ 0 by omega), if_pos (show logStripes ≠ 0 by omega), Nat.mod_eq_of_lt fits,
    ge_iff_le, Nat.shiftLeft_eq, Nat.one_mul, Nat.and_two_pow_sub_one_eq_mod,
    Nat.shiftRight_eq_div_pow, cycleStart_eq _ _ _ pos]
  rw [Nat.mod_eq_of_lt (show nextStart cryptonotePruningStripeSize (2 ^ logStripes) (stripe - 1)
    blockHeight < uint64Modulus by omega), Nat.mod_eq_of_lt jumpFits]
  have label : (blockHeight / cryptonotePruningStripeSize % 2 ^ logStripes + 1 = stripe) ↔
      groupLabel cryptonotePruningStripeSize (2 ^ logStripes) blockHeight = stripe - 1 := by
    rw [groupLabel]
    omega
  have later := @lt_nextStart cryptonotePruningStripeSize _ _ (by decide)
    (show stripe - 1 < 2 ^ logStripes by omega) blockHeight
  simp only [label, gt_iff_lt]
  by_cases tip : blockchainHeight ≤ blockHeight + cryptonotePruningTipBlocks
  · rw [if_pos tip, if_pos tip]
  rw [if_neg tip, if_neg tip]
  by_cases same : groupLabel cryptonotePruningStripeSize (2 ^ logStripes) blockHeight = stripe - 1
  · rw [if_pos same, if_pos same]
  rw [if_neg same, if_neg same]
  by_cases past : blockchainHeight < nextStart cryptonotePruningStripeSize (2 ^ logStripes)
      (stripe - 1) blockHeight + cryptonotePruningTipBlocks
  · rw [if_pos past, if_pos past, if_neg (by omega)]
  · -- the check that the jump is not below the height never fails
    rw [if_neg past, if_neg past, if_neg (not_not.mpr later.le)]

/-- The heights the claims read lie far below a wrap of the tip's sum. -/
theorem tip_fits {x : Nat} (small : x ≤ cryptonoteMaxBlockNumber + 1 + 2 * (2 ^ 7 * 4096)) :
    x + cryptonotePruningTipBlocks < uint64Modulus := by
  simp only [cryptonoteMaxBlockNumber, cryptonotePruningTipBlocks, uint64Modulus] at *
  omega

/-- `get_next_unpruned_block_height` returns the least unpruned height from `block_height` on, for
heights below `CRYPTONOTE_MAX_BLOCK_NUMBER` and the seed `0` or one of `make_pruning_seed` with at
least two stripes; the check that the jump is not below the height never fails. -/
theorem getNextUnprunedBlockHeight_least (blockHeight blockchainHeight pruningSeed : Nat)
    (heightFits : blockHeight ≤ cryptonoteMaxBlockNumber + 1)
    (chainFits : blockchainHeight ≤ cryptonoteMaxBlockNumber + 1)
    (seed : pruningSeed = 0 ∨ ∃ stripe logStripes, 1 ≤ logStripes ∧ logStripes ≤ 7 ∧ 1 ≤ stripe ∧
      stripe ≤ 2 ^ logStripes ∧ makePruningSeed stripe logStripes = .ok pruningSeed) :
    blockHeight ≤ getNextUnprunedBlockHeight blockHeight blockchainHeight pruningSeed ∧
      hasUnprunedBlock (getNextUnprunedBlockHeight blockHeight blockchainHeight pruningSeed)
        blockchainHeight pruningSeed = true ∧
      ∀ x, blockHeight ≤ x → x < getNextUnprunedBlockHeight blockHeight blockchainHeight pruningSeed →
        hasUnprunedBlock x blockchainHeight pruningSeed = false := by
  rcases seed with rfl | ⟨stripe, logStripes, logPos, -, -, -, made⟩
  · -- the seed `0` keeps every block, and the height is returned as it is
    have same : getNextUnprunedBlockHeight blockHeight blockchainHeight 0 = blockHeight := by
      simp [getNextUnprunedBlockHeight, heightFits, chainFits, getPruningStripe]
    rw [same]
    exact ⟨le_refl _, rfl, fun x hx lt => absurd lt (by omega)⟩
  obtain ⟨log, pos, le, -⟩ := makePruningSeed_eq_ok made
  have stripes : 2 ^ logStripes ≤ 2 ^ 7 := Nat.pow_le_pow_right (by decide) log
  have label : stripe - 1 < 2 ^ logStripes := by omega
  have near := @nextStart_lt cryptonotePruningStripeSize _ _ (by decide) label blockHeight
  have later := @lt_nextStart cryptonotePruningStripeSize _ _ (by decide) label blockHeight
  -- every height up to the jump has a tip sum without a wrap
  have fitsBelow : ∀ x, x ≤ nextStart cryptonotePruningStripeSize (2 ^ logStripes) (stripe - 1)
      blockHeight → x + cryptonotePruningTipBlocks < uint64Modulus := by
    intro x hx
    apply tip_fits
    have : 2 ^ logStripes * cryptonotePruningStripeSize ≤ 2 ^ 7 * 4096 :=
      Nat.mul_le_mul_right _ stripes
    omega
  rw [getNextUnprunedBlockHeight_eq logPos made heightFits chainFits]
  split_ifs with tip same past
  · exact ⟨le_refl _, (hasUnprunedBlock_iff logPos made (fitsBelow _ later.le)).mpr (Or.inl tip),
      fun x hx lt => absurd lt (by omega)⟩
  · exact ⟨le_refl _, (hasUnprunedBlock_iff logPos made (fitsBelow _ later.le)).mpr (Or.inr same),
      fun x hx lt => absurd lt (by omega)⟩
  · -- the seed's next group starts in the tip: the tip's start is the first height kept
    refine ⟨by omega, (hasUnprunedBlock_iff logPos made (fitsBelow _ (by omega))).mpr
      (Or.inl (by omega)), fun x hx lt => ?_⟩
    exact hasUnprunedBlock_eq_false logPos made (fitsBelow _ (by omega)) (by omega)
      (groupLabel_ne_of_lt_nextStart (by decide) label same hx (by omega))
  · refine ⟨later.le, (hasUnprunedBlock_iff logPos made (fitsBelow _ le_rfl)).mpr
      (Or.inr (groupLabel_nextStart (by decide) label blockHeight)), fun x hx lt => ?_⟩
    exact hasUnprunedBlock_eq_false logPos made (fitsBelow _ lt.le) (by omega)
      (groupLabel_ne_of_lt_nextStart (by decide) label same hx lt)

/-- From `CRYPTONOTE_PRUNING_STRIPE_SIZE` with the first of eight stripes the jump goes to the next
cycle. -/
theorem getNextUnprunedBlockHeight_least_nextCycle :
    getNextUnprunedBlockHeight 4096 10000000 384 = 32768 ∧
      hasUnprunedBlock 32768 10000000 384 = true ∧
      ∀ x, 4096 ≤ x → x < 32768 → hasUnprunedBlock x 10000000 384 = false := by
  have least := getNextUnprunedBlockHeight_least 4096 10000000 384 (by decide) (by decide)
    (Or.inr ⟨1, 3, by decide, by decide, by decide, by decide, rfl⟩)
  have jump : getNextUnprunedBlockHeight 4096 10000000 384 = 32768 := by decide
  rw [jump] at least
  exact ⟨jump, least.2⟩

example : getNextUnprunedBlockHeight (2 * 4096) 10000000 385 = 32768 + 4096 := by decide

example : getNextUnprunedBlockHeight 4096 10000000 391 = 7 * 4096 := by decide

/-! ### The next pruned height -/

/-- `get_next_pruned_block_height` on a seed with at least two stripes: the height itself when it
is pruned, the chain's height from the tip on, and from a height of the seed's stripe the next
unpruned height of the next stripe in the cycle. -/
theorem getNextPrunedBlockHeight_eq {stripe logStripes pruningSeed : Nat} (logPos : 1 ≤ logStripes)
    (made : makePruningSeed stripe logStripes = .ok pruningSeed) {blockHeight blockchainHeight : Nat}
    (fits : blockHeight + cryptonotePruningTipBlocks < uint64Modulus) :
    ∃ nextSeed, makePruningSeed (stripe % 2 ^ logStripes + 1) logStripes = .ok nextSeed ∧
      getNextPrunedBlockHeight blockHeight blockchainHeight pruningSeed =
        if blockchainHeight ≤ blockHeight + cryptonotePruningTipBlocks then .ok blockchainHeight
        else if groupLabel cryptonotePruningStripeSize (2 ^ logStripes) blockHeight ≠ stripe - 1 then
          .ok blockHeight
        else .ok (getNextUnprunedBlockHeight blockHeight blockchainHeight nextSeed) := by
  obtain ⟨log, pos, le, -⟩ := makePruningSeed_eq_ok made
  obtain ⟨stripeEq, logEq⟩ := decode_makePruningSeed logPos made
  obtain ⟨nextSeed, nextMade⟩ := makePruningSeed_of_le log (Nat.succ_pos _)
    (show stripe % 2 ^ logStripes + 1 ≤ 2 ^ logStripes from Nat.mod_lt _ (Nat.two_pow_pos _))
  refine ⟨nextSeed, nextMade, ?_⟩
  have label : (blockHeight / cryptonotePruningStripeSize % 2 ^ logStripes + 1 ≠ stripe) ↔
      groupLabel cryptonotePruningStripeSize (2 ^ logStripes) blockHeight ≠ stripe - 1 := by
    rw [groupLabel]
    omega
  unfold getNextPrunedBlockHeight
  simp only [stripeEq, logEq, if_neg (show stripe ≠ 0 by omega), if_pos (show logStripes ≠ 0 by omega),
    Nat.mod_eq_of_lt fits, ge_iff_le, Nat.shiftLeft_eq, Nat.one_mul, Nat.and_two_pow_sub_one_eq_mod]
  by_cases tip : blockchainHeight ≤ blockHeight + cryptonotePruningTipBlocks
  · rw [if_pos tip, if_pos tip]
  rw [if_neg tip, if_neg tip]
  by_cases other : blockHeight / cryptonotePruningStripeSize % 2 ^ logStripes + 1 ≠ stripe
  · rw [if_pos other, if_pos (label.mp other)]
  · -- in the seed's stripe the next stripe is `stripe % 2 ^ log_stripes + 1`
    rw [if_neg other, if_neg (mt label.mpr other), not_not.mp other, Nat.add_comm 1, nextMade]
    rfl

/-- What `get_next_pruned_block_height` returns, for a height not above the chain's and a chain
below `CRYPTONOTE_MAX_BLOCK_NUMBER`, on the seed `0` or one of `make_pruning_seed` with at least
two stripes: a height from which every height before it is unpruned, and which is the first
pruned height when there is one below the chain's height. When there is none, it is the chain's
height, or the start of the tip when `block_height` is in the seed's stripe. -/
theorem getNextPrunedBlockHeight_spec (blockHeight blockchainHeight pruningSeed : Nat)
    (below : blockHeight ≤ blockchainHeight)
    (chainFits : blockchainHeight ≤ cryptonoteMaxBlockNumber + 1)
    (seed : pruningSeed = 0 ∨ ∃ stripe logStripes, 1 ≤ logStripes ∧ logStripes ≤ 7 ∧
      makePruningSeed stripe logStripes = .ok pruningSeed) :
    ∃ r, getNextPrunedBlockHeight blockHeight blockchainHeight pruningSeed = .ok r ∧
      blockHeight ≤ r ∧ r ≤ blockchainHeight ∧
      (∀ x, blockHeight ≤ x → x < r → hasUnprunedBlock x blockchainHeight pruningSeed = true) ∧
      ((r < blockchainHeight ∧ hasUnprunedBlock r blockchainHeight pruningSeed = false) ∨
        ((r = blockchainHeight ∨ r + cryptonotePruningTipBlocks = blockchainHeight) ∧
          ∀ x, blockHeight ≤ x → x < blockchainHeight →
            hasUnprunedBlock x blockchainHeight pruningSeed = true)) := by
  rcases seed with rfl | ⟨stripe, logStripes, logPos, -, made⟩
  · exact ⟨blockchainHeight, by simp [getNextPrunedBlockHeight, getPruningStripe], below, le_rfl,
      fun _ _ _ => rfl, Or.inr ⟨Or.inl rfl, fun _ _ _ => rfl⟩⟩
  obtain ⟨log, pos, le, -⟩ := makePruningSeed_eq_ok made
  have fitsBelow : ∀ x, x ≤ blockchainHeight → x + cryptonotePruningTipBlocks < uint64Modulus :=
    fun x hx => tip_fits (by omega)
  have keeps : ∀ x, x ≤ blockchainHeight → (hasUnprunedBlock x blockchainHeight pruningSeed = true ↔
      blockchainHeight ≤ x + cryptonotePruningTipBlocks ∨
        groupLabel cryptonotePruningStripeSize (2 ^ logStripes) x = stripe - 1) :=
    fun x hx => hasUnprunedBlock_iff logPos made (fitsBelow x hx)
  obtain ⟨nextSeed, nextMade, pruned⟩ :=
    @getNextPrunedBlockHeight_eq stripe logStripes pruningSeed logPos made blockHeight blockchainHeight
      (fitsBelow _ below)
  rw [pruned]
  split_ifs with tip other
  · -- from the tip on every height is kept
    exact ⟨blockchainHeight, rfl, below, le_rfl, fun x hx lt => (keeps _ lt.le).mpr (Or.inl (by omega)),
      Or.inr ⟨Or.inl rfl, fun x hx lt => (keeps _ lt.le).mpr (Or.inl (by omega))⟩⟩
  · exact ⟨blockHeight, rfl, le_rfl, below, fun x hx lt => absurd lt (by omega), Or.inl ⟨by omega,
      hasUnprunedBlock_eq_false logPos made (fitsBelow _ below) (by omega) other⟩⟩
  · -- the height is in the seed's stripe, which lasts to the end of its group
    rw [not_not] at other
    have two : 2 ≤ 2 ^ logStripes := by
      calc 2 = 2 ^ 1 := rfl
        _ ≤ 2 ^ logStripes := Nat.pow_le_pow_right (by decide) logPos
    have nextLabel : stripe % 2 ^ logStripes + 1 - 1 =
        (groupLabel cryptonotePruningStripeSize (2 ^ logStripes) blockHeight + 1) % 2 ^ logStripes := by
      rw [other, Nat.sub_add_cancel pos, Nat.add_sub_cancel]
    have groupEnd := @nextStart_succ cryptonotePruningStripeSize _ two blockHeight
    rw [← nextLabel] at groupEnd
    have within : ∀ x, blockHeight ≤ x → x < (blockHeight / cryptonotePruningStripeSize + 1) *
        cryptonotePruningStripeSize → x ≤ blockchainHeight →
        hasUnprunedBlock x blockchainHeight pruningSeed = true := fun x hx lt small =>
      (keeps _ small).mpr (Or.inr ((groupLabel_eq_of_lt_succ hx lt (by decide)).trans other))
    have chainNext := getNextUnprunedBlockHeight_eq logPos nextMade
      (show blockHeight ≤ cryptonoteMaxBlockNumber + 1 by omega) chainFits
    -- the next stripe is another one, as there are at least two
    have nextLt : stripe % 2 ^ logStripes + 1 - 1 < 2 ^ logStripes := by
      have := Nat.mod_lt stripe (Nat.two_pow_pos logStripes)
      omega
    have otherStripe : stripe - 1 ≠ stripe % 2 ^ logStripes + 1 - 1 := by
      rcases Nat.lt_or_eq_of_le le with lt | eq
      · rw [Nat.mod_eq_of_lt lt]
        omega
      · rw [eq, Nat.mod_self]
        omega
    have notNext : groupLabel cryptonotePruningStripeSize (2 ^ logStripes) blockHeight ≠
        stripe % 2 ^ logStripes + 1 - 1 := by
      rw [other]
      exact otherStripe
    rw [if_neg tip, if_neg notNext, groupEnd] at chainNext
    have groupAfter := Nat.lt_mul_div_succ blockHeight (show 0 < cryptonotePruningStripeSize by decide)
    rw [Nat.mul_comm] at groupAfter
    rw [chainNext]
    split_ifs with past
    · -- the next group starts in the tip: no height below the chain's is pruned
      refine ⟨_, rfl, by omega, by omega, fun x hx lt => within x hx (by omega) (by omega),
        Or.inr ⟨Or.inr (by omega), fun x hx lt => ?_⟩⟩
      by_cases inGroup : x < (blockHeight / cryptonotePruningStripeSize + 1) *
          cryptonotePruningStripeSize
      · exact within x hx inGroup lt.le
      · exact (keeps _ lt.le).mpr (Or.inl (by omega))
    · refine ⟨_, rfl, by omega, by omega, fun x hx lt => within x hx lt (by omega), ?_⟩
      by_cases inTip : blockchainHeight ≤ (blockHeight / cryptonotePruningStripeSize + 1) *
          cryptonotePruningStripeSize + cryptonotePruningTipBlocks
      · -- the next group starts the tip
        refine Or.inr ⟨Or.inr (by omega), fun x hx lt => ?_⟩
        by_cases inGroup : x < (blockHeight / cryptonotePruningStripeSize + 1) *
            cryptonotePruningStripeSize
        · exact within x hx inGroup lt.le
        · exact (keeps _ lt.le).mpr (Or.inl (by omega))
      · -- the next group is pruned
        refine Or.inl ⟨by omega, hasUnprunedBlock_eq_false logPos made (fitsBelow _ (by omega))
          (by omega) ?_⟩
        rw [← groupEnd, groupLabel_nextStart (by decide) nextLt]
        exact otherStripe.symm

/-- With the first of eight stripes and a chain of `6000` blocks, no height is pruned, but the
result is the start of the tip, an unpruned height below the chain's. -/
theorem getNextPrunedBlockHeight_spec_tipStart :
    ∃ r, getNextPrunedBlockHeight 0 6000 384 = .ok r ∧ r + cryptonotePruningTipBlocks = 6000 ∧
      hasUnprunedBlock r 6000 384 = true := by
  obtain ⟨r, pruned, -, -, -, -⟩ := getNextPrunedBlockHeight_spec 0 6000 384 (by decide) (by decide)
    (Or.inr ⟨1, 3, by decide, by decide, rfl⟩)
  have value : r = 500 := Except.ok.inj (pruned.symm.trans (by decide))
  subst value
  exact ⟨500, pruned, rfl, by decide⟩

end Sumokoin.Common.Pruning
