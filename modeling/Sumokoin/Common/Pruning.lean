import Sumokoin.Config

/-! The pruning seeds of `common/pruning.h` and `common/pruning.cpp`. A pruned node keeps the
blocks of one stripe in each cycle of `2 ^ log_stripes` stripes of `CRYPTONOTE_PRUNING_STRIPE_SIZE`
blocks, and every block of the tip, the last `CRYPTONOTE_PRUNING_TIP_BLOCKS`. Its seed packs the
stripe, from `1`, and the number of stripes; the seed `0` keeps every block.

Heights and the sums over them are `uint64_t` and wrap; the stripes and seeds are `uint32_t`
values below `2 ^ 10`, which no operation here wraps. The two functions of the same name
`get_pruning_stripe` are `getPruningStripe` of a seed and `getBlockPruningStripe` of a height. -/

namespace Sumokoin.Common.Pruning

/-- `PRUNING_SEED_LOG_STRIPES_SHIFT`. -/
def pruningSeedLogStripesShift : Nat := 7

/-- `PRUNING_SEED_LOG_STRIPES_MASK`. -/
def pruningSeedLogStripesMask : Nat := 0x7

/-- `PRUNING_SEED_STRIPE_SHIFT`. -/
def pruningSeedStripeShift : Nat := 0

/-- `PRUNING_SEED_STRIPE_MASK`. -/
def pruningSeedStripeMask : Nat := 0x7f

/-- `get_pruning_log_stripes(pruning_seed)`. -/
def getPruningLogStripes (pruningSeed : Nat) : Nat :=
  (pruningSeed >>> pruningSeedLogStripesShift) &&& pruningSeedLogStripesMask

/-- `get_pruning_stripe(pruning_seed)`. -/
def getPruningStripe (pruningSeed : Nat) : Nat :=
  if pruningSeed = 0 then 0
  else 1 + ((pruningSeed >>> pruningSeedStripeShift) &&& pruningSeedStripeMask)

/-- `make_pruning_seed(stripe, log_stripes)`; the checks throw. -/
def makePruningSeed (stripe logStripes : Nat) : Except String Nat :=
  if ¬logStripes ≤ pruningSeedLogStripesMask then .error "log_stripes out of range"
  else if ¬(stripe > 0 ∧ stripe ≤ 1 <<< logStripes) then .error "stripe out of range"
  else .ok ((logStripes <<< pruningSeedLogStripesShift) ||| ((stripe - 1) <<< pruningSeedStripeShift))

/-- `get_pruning_stripe(block_height, blockchain_height, log_stripes)`: the stripe of a height, `0`
in the tip. -/
def getBlockPruningStripe (blockHeight blockchainHeight logStripes : Nat) : Nat :=
  if (blockHeight + cryptonotePruningTipBlocks) % uint64Modulus ≥ blockchainHeight then 0
  else ((blockHeight / cryptonotePruningStripeSize) &&& ((1 <<< logStripes) - 1)) + 1

/-- `has_unpruned_block(block_height, blockchain_height, pruning_seed)`. -/
def hasUnprunedBlock (blockHeight blockchainHeight pruningSeed : Nat) : Bool :=
  let stripe := getPruningStripe pruningSeed
  if stripe = 0 then true
  else
    let logStripes := getPruningLogStripes pruningSeed
    let blockStripe := getBlockPruningStripe blockHeight blockchainHeight logStripes
    blockStripe == 0 || blockStripe == stripe

/-- `get_next_unpruned_block_height(block_height, blockchain_height, pruning_seed)`: the start of
the seed's stripe in this cycle or the next, or the start of the tip when that is past it. A
failed `CHECK_AND_ASSERT_MES` returns `block_height`. -/
def getNextUnprunedBlockHeight (blockHeight blockchainHeight pruningSeed : Nat) : Nat :=
  if ¬blockHeight ≤ cryptonoteMaxBlockNumber + 1 then blockHeight -- block_height too large
  else if ¬blockchainHeight ≤ cryptonoteMaxBlockNumber + 1 then blockHeight
  else
    let stripe := getPruningStripe pruningSeed
    if stripe = 0 then blockHeight
    else if (blockHeight + cryptonotePruningTipBlocks) % uint64Modulus ≥ blockchainHeight then
      blockHeight
    else
      let seedLogStripes := getPruningLogStripes pruningSeed
      let logStripes := if seedLogStripes ≠ 0 then seedLogStripes else cryptonotePruningLogStripes
      let mask := (1 <<< logStripes) - 1
      let blockPruningStripe := ((blockHeight / cryptonotePruningStripeSize) &&& mask) + 1
      if blockPruningStripe = stripe then blockHeight
      else
        let cycles := (blockHeight / cryptonotePruningStripeSize) >>> logStripes
        let cycleStart := cycles + if stripe > blockPruningStripe then 0 else 1
        let h := (cycleStart * (cryptonotePruningStripeSize <<< logStripes) +
          (stripe - 1) * cryptonotePruningStripeSize) % uint64Modulus
        if (h + cryptonotePruningTipBlocks) % uint64Modulus > blockchainHeight then
          if blockchainHeight < cryptonotePruningTipBlocks then 0
          else blockchainHeight - cryptonotePruningTipBlocks
        else if ¬h ≥ blockHeight then blockHeight -- h < block_height, unexpected
        else h

/-- `get_next_pruned_block_height(block_height, blockchain_height, pruning_seed)`: the next
unpruned height of the stripe after the seed's, once `block_height` is in the seed's stripe.
`make_pruning_seed` throws. -/
def getNextPrunedBlockHeight (blockHeight blockchainHeight pruningSeed : Nat) : Except String Nat :=
  let stripe := getPruningStripe pruningSeed
  if stripe = 0 then .ok blockchainHeight
  else if (blockHeight + cryptonotePruningTipBlocks) % uint64Modulus ≥ blockchainHeight then
    .ok blockchainHeight
  else
    let seedLogStripes := getPruningLogStripes pruningSeed
    let logStripes := if seedLogStripes ≠ 0 then seedLogStripes else cryptonotePruningLogStripes
    let mask := (1 <<< logStripes) - 1
    let blockPruningSeed := ((blockHeight / cryptonotePruningStripeSize) &&& mask) + 1
    if blockPruningSeed ≠ stripe then .ok blockHeight
    else
      let nextStripe := 1 + (blockPruningSeed &&& mask)
      (makePruningSeed nextStripe logStripes).map
        (getNextUnprunedBlockHeight blockHeight blockchainHeight)

end Sumokoin.Common.Pruning
