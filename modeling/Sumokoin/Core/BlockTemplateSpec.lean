import Sumokoin.Core.BlockTemplate
import Sumokoin.Core.FillBlockTemplateSpec

/-! What the miner checks of `handle_block_to_main_chain` find in a template of
`create_block_template`. Every try of the loop that ends keeps a coinbase built for the block
weight it ends at (`fitMinerTx_eq_some`), so the coinbase pays the reward of the template's median
at the block's weight. The validation asks the reward at its own median: the same one from
`HF_VERSION_EFFECTIVE_SHORT_TERM_MEDIAN_IN_PENALTY` on, the median of the last blocks before
`HF_VERSION_LONG_TERM_BLOCK_WEIGHT`, which `update_next_cumulative_weight_limit` also stored in
every state a run reaches (`MedianBounds`), and in the one version between them the median of the
last blocks, against the template's median capped by the long term one. -/

namespace Sumokoin.Core.Miner

open Sumokoin.BlockchainDb Sumokoin.Basic

/-! ### The coinbase -/

/-- The miner transaction without its padding. -/
def MinerTransaction.unpadded (tx : MinerTransaction) : MinerTransaction :=
  { tx with extra := { tx.extra with padding := 0 } }

@[simp] theorem MinerTransaction.unpadded_pad (tx : MinerTransaction) (delta : Nat) :
    (tx.pad delta).unpadded = tx.unpadded := rfl

@[simp] theorem MinerTransaction.unpadded_dropPadding (tx : MinerTransaction) :
    tx.dropPadding.unpadded = tx.unpadded := rfl

/-- What the checks read of a coinbase does not depend on its padding. -/
theorem MinerTransaction.of_unpadded {tx tx' : MinerTransaction} (same : tx.unpadded = tx'.unpadded) :
    tx.vin = tx'.vin ∧ tx.unlockTime = tx'.unlockTime ∧ tx.vout = tx'.vout ∧
      tx.extra.txPubKey = tx'.extra.txPubKey :=
  ⟨(congrArg MinerTransaction.vin same :), (congrArg MinerTransaction.unlockTime same :),
    (congrArg MinerTransaction.vout same :), (congrArg (fun tx => tx.extra.txPubKey) same :)⟩

section Construct

variable {moneySupplyShare : Nat → Nat} {nettype : NetworkType}
  {height medianWeight alreadyGeneratedCoins currentBlockWeight fee : Nat} {keys : MinerTxKeys}
  {extraNonce : List Nat}

/-- What `construct_miner_tx` builds: the reward for the block weight it is given and the fee in
the first output, to the miner's one-time key, then the exchange fund's output at its release. -/
theorem constructMinerTx_eq_some {tx : MinerTransaction}
    (built : constructMinerTx moneySupplyShare nettype height medianWeight alreadyGeneratedCoins
      currentBlockWeight fee keys extraNonce = some tx) :
    ∃ reward minerKey fundOutputs,
      getBlockReward moneySupplyShare medianWeight currentBlockWeight alreadyGeneratedCoins height =
        some reward ∧
      keys.minerKey = some minerKey ∧
      tx.vin = [.gen height] ∧ tx.unlockTime = height + cryptonoteMinedMoneyUnlockWindow ∧
      tx.extra = ⟨keys.txPubKey, extraNonce, 0⟩ ∧
      tx.vout = ⟨(reward + fee) % uint64Modulus, .toKey minerKey⟩ :: fundOutputs ∧
      (if nettype = .mainnet ∧ height = exchangeFundReleaseHeight then
        ∃ fundKey, keys.fundKey = some fundKey ∧ fundOutputs = [⟨exchangeFundAmount, .toKey fundKey⟩]
      else fundOutputs = []) := by
  unfold constructMinerTx at built
  by_cases long : extraNonce.length > txExtraNonceMaxCount
  · rw [if_pos long] at built
    cases built
  rw [if_neg long] at built
  cases rewarded : getBlockReward moneySupplyShare medianWeight currentBlockWeight
    alreadyGeneratedCoins height with
  | none => simp [rewarded] at built
  | some reward =>
    cases keyed : keys.minerKey with
    | none => simp [rewarded, keyed] at built
    | some minerKey =>
      rw [rewarded] at built
      dsimp only at built
      rw [keyed] at built
      dsimp only at built
      refine ⟨reward, minerKey, ?_⟩
      by_cases release : nettype = .mainnet ∧ height = exchangeFundReleaseHeight
      · -- at the release the fund's output follows the miner's
        rw [if_pos release] at built
        cases funded : keys.fundKey with
        | none => simp [funded] at built
        | some fundKey =>
          simp only [funded, Option.map_some, Option.some.injEq] at built
          subst built
          exact ⟨_, rfl, rfl, rfl, rfl, rfl, rfl, by rw [if_pos release]; exact ⟨fundKey, rfl, rfl⟩⟩
      · simp only [release, if_false, Option.map_some, Option.some.injEq] at built
        subst built
        exact ⟨[], rfl, rfl, rfl, rfl, rfl, rfl, by rw [if_neg release]⟩

end Construct

/-! ### The loop of ten tries -/

section Fit

variable (env : TemplateEnv) {height medianWeight alreadyGeneratedCoins txsWeight fee : Nat}
  {extraNonce : List Nat}

theorem checkFitted_eq_some {cumulativeWeight : Nat} {tx fitted : MinerTransaction}
    (check : checkFitted env txsWeight cumulativeWeight tx = some (.fitted fitted)) :
    fitted = tx ∧
      cumulativeWeight = (txsWeight + env.chain.getTransactionWeight fitted) % uint64Modulus := by
  unfold checkFitted at check
  split_ifs at check with fits
  cases check
  exact ⟨rfl, fits⟩

/-- A try that ends keeps the coinbase it built, padded, at the weight it was built for. -/
theorem fitTry_eq_fitted {cumulativeWeight : Nat} {tx fitted : MinerTransaction}
    (fit : fitTry env txsWeight cumulativeWeight tx = some (.fitted fitted)) :
    fitted.unpadded = tx.unpadded ∧
      cumulativeWeight = (txsWeight + env.chain.getTransactionWeight fitted) % uint64Modulus := by
  unfold fitTry at fit
  dsimp only at fit
  -- the branches that retry do not end the try (the one that fails is closed by the split);
  -- the others end at `checkFitted`, with the coinbase padded and one byte shorter, padded, or
  -- as it was built
  split_ifs at fit
  · simp only [reduceCtorEq, Option.some.injEq] at fit
  · simp only [reduceCtorEq, Option.some.injEq] at fit
  all_goals
    obtain ⟨same, fits⟩ := checkFitted_eq_some env fit
    refine ⟨?_, fits⟩
    rw [same]
  · rw [MinerTransaction.unpadded_dropPadding, MinerTransaction.unpadded_pad]
  · rw [MinerTransaction.unpadded_pad]

/-- The loop ends with a coinbase that a call of `construct_miner_tx` built, padded, for the
weight of the block that holds it. -/
theorem fitMinerTx_eq_some {fuel tryCount cumulativeWeight : Nat} {tx : MinerTransaction}
    (fit : fitMinerTx env height medianWeight alreadyGeneratedCoins txsWeight fee extraNonce fuel
      tryCount cumulativeWeight = some tx) :
    ∃ call builtWeight built,
      construct env height medianWeight alreadyGeneratedCoins fee extraNonce call builtWeight =
        some built ∧
      tx.unpadded = built.unpadded ∧
      builtWeight = (txsWeight + env.chain.getTransactionWeight tx) % uint64Modulus := by
  induction fuel generalizing tryCount cumulativeWeight with
  | zero => cases fit
  | succ fuel ih =>
    unfold fitMinerTx at fit
    split at fit
    · cases fit
    · rename_i fitted tried
      cases fit
      -- the try that ended built its coinbase in a call of `construct_miner_tx`
      obtain ⟨built, constructed, ended⟩ := Option.bind_eq_some_iff.mp tried
      obtain ⟨same, fits⟩ := fitTry_eq_fitted env ended
      exact ⟨_, _, built, constructed, same, fits⟩
    · exact ih fit

end Fit

/-! ### The checks of a template's coinbase -/

section Checks

/-- A `uint64_t` sum from a word is the sum of its terms, wrapped once. -/
theorem foldl_add_mod (init : Nat) (terms : List Nat) :
    terms.foldl (fun total term => (total + term) % uint64Modulus) (init % uint64Modulus) =
      (init + terms.sum) % uint64Modulus := by
  induction terms generalizing init with
  | nil => simp
  | cons term terms ih =>
    rw [List.foldl_cons, Nat.mod_add_mod, ih, List.sum_cons, Nat.add_assoc]

theorem cumulativeBlockWeight_eq {coinbaseWeight : Nat} (word : coinbaseWeight < uint64Modulus)
    (weights : List Nat) :
    cumulativeBlockWeight coinbaseWeight weights = (coinbaseWeight + weights.sum) % uint64Modulus := by
  have sum := foldl_add_mod coinbaseWeight weights
  rwa [Nat.mod_eq_of_lt word] at sum

theorem feeSummary_eq (fees : List Nat) : feeSummary fees = fees.sum % uint64Modulus := by
  simpa [feeSummary] using foldl_add_mod 0 fees

theorem getTransactionWeight_lt (env : ChainEnv) (tx : MinerTransaction) :
    env.getTransactionWeight tx < uint64Modulus :=
  Nat.mod_lt _ (by decide : 0 < uint64Modulus)

/-- Outputs whose amounts add up in a word from `money` do not overflow. -/
theorem checkOutsOverflowFrom_of_lt {money : Nat} {vout : List TxOut}
    (small : money + (vout.map TxOut.amount).sum < uint64Modulus) :
    checkOutsOverflowFrom money vout = true := by
  induction vout generalizing money with
  | nil => rfl
  | cons o vout ih =>
    rw [List.map_cons, List.sum_cons] at small
    have added : (o.amount + money) % uint64Modulus = o.amount + money :=
      Nat.mod_eq_of_lt (by omega)
    have added' : (money + o.amount) % uint64Modulus = money + o.amount :=
      Nat.mod_eq_of_lt (by omega)
    rw [checkOutsOverflowFrom, added, if_neg (by omega), added']
    exact ih (by omega)

/-- A coinbase of one input at the height, the unlock time of mined money and outputs that add up
in a word passes `prevalidate_miner_transaction`. -/
theorem prevalidateMinerTransaction_ok {tx : MinerTransaction} {height : Nat}
    (vin : tx.vin = [.gen height])
    (unlock : tx.unlockTime = height + cryptonoteMinedMoneyUnlockWindow)
    (small : (tx.vout.map TxOut.amount).sum < uint64Modulus) :
    prevalidateMinerTransaction tx height = .ok () := by
  have noOverflow : checkOutsOverflow tx = true :=
    checkOutsOverflowFrom_of_lt (by rw [Nat.zero_add]; exact small)
  unfold prevalidateMinerTransaction
  rw [vin]
  simp only [ne_eq, not_true_eq_false, if_false, unlock, noOverflow, Bool.not_true,
    Bool.false_eq_true]

/-- What a call of `construct_miner_tx` and the exchange fund's keys agree on: the fund's one-time
key of the first output is not the miner's, and that of the second is the one the call paid the
fund to. -/
def FundKeysAgree (fund : ExchangeFundKeys) (keys : MinerTxKeys) : Prop :=
  ∀ minerKey fundKey, keys.minerKey = some minerKey → keys.fundKey = some fundKey →
    ∃ derivation otherKey, fund.derivation keys.txPubKey = some derivation ∧
      fund.derivePublicKey derivation 0 = some otherKey ∧ otherKey ≠ minerKey ∧
      fund.derivePublicKey derivation 1 = some fundKey

theorem exchangeFundAmount_lt : exchangeFundAmount < uint64Modulus := by decide

/-- The money in use of a coinbase that `construct_miner_tx` built is the miner's amount: the
fund's output goes to the fund's sum at its release, and no other output is there. -/
theorem moneyInUse_constructed {nettype : NetworkType} {fund : ExchangeFundKeys}
    {keys : MinerTxKeys} {tx : MinerTransaction}
    {height amount minerKey : Nat} {fundOutputs : List TxOut}
    (agree : nettype = .mainnet → height = exchangeFundReleaseHeight → FundKeysAgree fund keys)
    (minerKeyed : keys.minerKey = some minerKey) (pub : tx.extra.txPubKey = keys.txPubKey)
    (vout : tx.vout = ⟨amount, .toKey minerKey⟩ :: fundOutputs) (word : amount < uint64Modulus)
    (outputs : if nettype = .mainnet ∧ height = exchangeFundReleaseHeight then
        ∃ fundKey, keys.fundKey = some fundKey ∧ fundOutputs = [⟨exchangeFundAmount, .toKey fundKey⟩]
      else fundOutputs = []) :
    moneyInUse nettype fund tx height = .ok amount := by
  unfold moneyInUse
  by_cases release : nettype = .mainnet ∧ height = exchangeFundReleaseHeight
  · rw [if_pos release] at outputs ⊢
    obtain ⟨fundKey, fundKeyed, funded⟩ := outputs
    obtain ⟨derivation, otherKey, derived, first, other, second⟩ :=
      agree release.1 release.2 minerKey fundKey minerKeyed fundKeyed
    -- the miner's output is not the fund's first key, the fund's output is its second
    have split : splitFundOutputs fund derivation 0 (0, 0) tx.vout =
        .ok (exchangeFundAmount, amount) := by
      rw [vout, funded]
      simp only [splitFundOutputs, first, second, Ne.symm other, if_false, if_true,
        Nat.zero_add, Nat.mod_eq_of_lt word, Nat.mod_eq_of_lt exchangeFundAmount_lt]
    rw [pub, derived]
    simp only [split, bind, Except.bind, ne_eq, not_true_eq_false, if_false, pure, Except.pure]
  · rw [if_neg release] at outputs ⊢
    rw [vout, outputs]
    simp [Nat.mod_eq_of_lt word]

/-- Outputs of the reward and the fee pass the reward check in full. -/
theorem checkBlockReward_full {moneySupplyShare : Nat → Nat}
    {medianWeight cumulativeBlockWeight fee alreadyGeneratedCoins height reward : Nat}
    (rewarded : getBlockReward moneySupplyShare medianWeight cumulativeBlockWeight
      alreadyGeneratedCoins height = some reward)
    (word : reward + fee < uint64Modulus) :
    checkBlockReward moneySupplyShare medianWeight cumulativeBlockWeight fee alreadyGeneratedCoins
      height (reward + fee) = .ok (reward, false) := by
  have left : Difficulty.sub64 (reward + fee) fee = reward := by
    rw [Difficulty.sub64_of_le word (Nat.le_add_left fee reward), Nat.add_sub_cancel]
  unfold checkBlockReward
  rw [rewarded]
  simp only [Nat.mod_eq_of_lt word, lt_irrefl, if_false, left, le_refl, not_true_eq_false, ne_eq,
    not_true_eq_false, decide_false]

end Checks

/-! ### The medians of a chain -/

section Medians

open Weight

/-- What `update_next_cumulative_weight_limit` leaves for the template and the validation: a limit
twice the median, and before `HF_VERSION_LONG_TERM_BLOCK_WEIGHT` a median that is the median of the
last `CRYPTONOTE_REWARD_BLOCKS_WINDOW` block weights, both raised to the full reward zone. -/
structure MedianBounds (version : Nat → Nat) (bc : Weight.Blockchain) : Prop where
  limit : bc.currentBlockCumulWeightLimit = bc.currentBlockCumulWeightMedian * 2
  shortTerm : version bc.db.height < hfVersionLongTermBlockWeight →
    ∀ weights, Weight.Blockchain.getLastNBlocksWeights bc.db cryptonoteRewardBlocksWindow = .ok weights →
      max bc.currentBlockCumulWeightMedian cryptonoteBlockGrantedFullRewardZone =
        max (Epee.median weights) cryptonoteBlockGrantedFullRewardZone

/-- A query of the long term median changes only the cache. -/
theorem getLongTermBlockWeightMedian_cache {bc : Weight.Blockchain} {startHeight count : Nat}
    {r : Nat × Weight.Blockchain} (query : bc.getLongTermBlockWeightMedian startHeight count = .ok r) :
    ∃ tipHash rm, r.2 = bc.setCache tipHash rm := by
  unfold Weight.Blockchain.getLongTermBlockWeightMedian at query
  dsimp only at query
  -- the cache answers as it is, moves up one block, or is rebuilt from the database; the split
  -- also goes through the key, the top block's hash or `null_hash`
  split_ifs at query
  all_goals first
    | simp only [reduceCtorEq] at query
    | simp only [Except.ok.injEq] at query
      subst query
      first
        | exact ⟨_, _, (Weight.Blockchain.setCache_self bc).symm⟩
        | exact ⟨_, _, rfl⟩
    | cases read : bc.db.getLongTermBlockWeights startHeight count with
      | error e => simp [read, Except.map] at query
      | ok weights =>
        simp only [read, Except.map, Except.ok.injEq] at query
        subst query
        exact ⟨_, _, rfl⟩

@[simp] theorem setWeightLimit_db (bc : Weight.Blockchain) (median : Nat) :
    (bc.setWeightLimit median).db = bc.db := rfl

/-- The limit that `update_next_cumulative_weight_limit` ends with. -/
theorem setWeightLimit_bounds (bc : Weight.Blockchain) (median : Nat) :
    (bc.setWeightLimit median).currentBlockCumulWeightLimit =
        (bc.setWeightLimit median).currentBlockCumulWeightMedian * 2 ∧
      max (bc.setWeightLimit median).currentBlockCumulWeightMedian
          cryptonoteBlockGrantedFullRewardZone =
        max median cryptonoteBlockGrantedFullRewardZone := by
  refine ⟨rfl, ?_⟩
  simp only [Weight.Blockchain.setWeightLimit]
  split_ifs with low <;> omega

/-- `update_next_cumulative_weight_limit` keeps the chain and leaves a limit twice the median,
which before `HF_VERSION_LONG_TERM_BLOCK_WEIGHT` is the median of the last block weights. -/
theorem updateNextCumulativeWeightLimit_eq_ok {hfVersion : Nat} {bc bc' : Weight.Blockchain}
    (update : bc.updateNextCumulativeWeightLimit hfVersion = .ok bc') :
    bc'.db = bc.db ∧ bc'.currentBlockCumulWeightLimit = bc'.currentBlockCumulWeightMedian * 2 ∧
      (hfVersion < hfVersionLongTermBlockWeight →
        ∀ weights, Weight.Blockchain.getLastNBlocksWeights bc.db cryptonoteRewardBlocksWindow = .ok weights →
          max bc'.currentBlockCumulWeightMedian cryptonoteBlockGrantedFullRewardZone =
            max (Epee.median weights) cryptonoteBlockGrantedFullRewardZone) := by
  unfold Weight.Blockchain.updateNextCumulativeWeightLimit at update
  split_ifs at update with early
  · cases read : Weight.Blockchain.getLastNBlocksWeights bc.db cryptonoteRewardBlocksWindow with
    | error e => simp [read, Except.map] at update
    | ok weights =>
      simp only [read, Except.map, Except.ok.injEq] at update
      subst update
      obtain ⟨limit, median⟩ := setWeightLimit_bounds bc (Epee.median weights)
      refine ⟨rfl, limit, fun _ others reread => ?_⟩
      rw [median, Except.ok.inj reread]
  · dsimp only at update
    cases weighed : bc.db.getBlockWeight (bc.db.height - 1) with
    | error e => rw [weighed] at update; cases update
    | ok blockWeight =>
      rw [weighed] at update
      simp only [bind, Except.bind] at update
      -- the limit is set last, on the chain with a new cache at most
      split_ifs at update with single
      · simp only [pure, Except.pure] at update
        split at update
        · cases update
        · simp only [Except.ok.injEq] at update
          subst update
          exact ⟨rfl, rfl, fun late => absurd late early⟩
      · split at update
        · cases update
        · rename_i r queried
          obtain ⟨tipHash, rm, cached⟩ := getLongTermBlockWeightMedian_cache queried
          split at update
          · cases update
          · simp only [pure, Except.pure, Except.ok.injEq] at update
            subst update
            refine ⟨?_, rfl, fun late => absurd late early⟩
            simp [Weight.Blockchain.insertTopWeight, cached]

/-- A successful update leaves the bounds under the version of the chain's height. -/
theorem MedianBounds.of_update {version : Nat → Nat} {bc bc' : Weight.Blockchain}
    (update : bc.updateNextCumulativeWeightLimit (version bc.db.height) = .ok bc') :
    MedianBounds version bc' := by
  obtain ⟨sameDb, limit, shortTerm⟩ := updateNextCumulativeWeightLimit_eq_ok update
  refine ⟨limit, fun early weights read => ?_⟩
  rw [sameDb] at early read
  exact shortTerm early weights read

/-- The bounds read only the chain, the median and the limit. -/
theorem MedianBounds.congr {version : Nat → Nat} {bc bc' : Weight.Blockchain}
    (bounds : MedianBounds version bc) (sameDb : bc'.db = bc.db)
    (median : bc'.currentBlockCumulWeightMedian = bc.currentBlockCumulWeightMedian)
    (limit : bc'.currentBlockCumulWeightLimit = bc.currentBlockCumulWeightLimit) :
    MedianBounds version bc' :=
  ⟨by rw [limit, median, bounds.limit], by rw [sameDb, median]; exact bounds.shortTerm⟩

/-- Every call of a run keeps the bounds: a call that throws leaves the state, the calls that
change the chain end with an update under the version of the new height, and a query of the next
long term weight changes only the cache. -/
theorem MedianBounds.step {version : Nat → Nat} {bc : Weight.Blockchain}
    (bounds : MedianBounds version bc) (op : Weight.Blockchain.Op) :
    MedianBounds version (bc.step version op) := by
  cases op with
  | addBlock b =>
    simp only [Weight.Blockchain.step]
    cases added : bc.addBlock version b with
    | error e => exact bounds
    | ok bc' =>
      simp only [Weight.Blockchain.addBlock, bind, Except.bind] at added
      split at added
      · cases added
      · rename_i r _
        exact @MedianBounds.of_update version
          { r.2 with db := r.2.db.addBlock { b with longTermWeight := r.1 } } bc' added
  | popBlock =>
    simp only [Weight.Blockchain.step]
    cases popped : bc.popBlock version with
    | error e => exact bounds
    | ok bc' =>
      simp only [Weight.Blockchain.popBlock] at popped
      split_ifs at popped
      · exact @MedianBounds.of_update version { bc with db := bc.db.popBlock } bc' popped
  | getNextLongTermBlockWeight w =>
    simp only [Weight.Blockchain.step, Weight.Blockchain.getNextLongTermBlockWeight]
    split_ifs
    · exact bounds
    · cases queried : bc.getLongTermBlockWeightMedian
          (bc.db.height - min bc.longTermBlockWeightsWindow bc.db.height)
          (min bc.longTermBlockWeightsWindow bc.db.height) with
      | error e => exact bounds
      | ok r =>
        obtain ⟨tipHash, rm, cached⟩ := getLongTermBlockWeightMedian_cache queried
        simp only [Except.map, Except.toOption, Option.getD_some]
        rw [cached]
        exact bounds.congr rfl rfl rfl
  | updateNextCumulativeWeightLimit =>
    simp only [Weight.Blockchain.step]
    cases update : bc.updateNextCumulativeWeightLimit (version bc.db.height) with
    | error e => exact bounds
    | ok bc' => exact MedianBounds.of_update update

/-- A run keeps the bounds. -/
theorem MedianBounds.run {version : Nat → Nat} {bc : Weight.Blockchain}
    (bounds : MedianBounds version bc) (ops : List Weight.Blockchain.Op) :
    MedianBounds version (bc.run version ops) := by
  induction ops generalizing bc with
  | nil => exact bounds
  | cons op ops ih => exact ih (bounds.step op)

/-- The weights of the last blocks are read without a throw. -/
theorem getLastNBlocksWeights_ok (db : Chain.Db) {count : Nat} (pos : 0 < count) :
    ∃ weights, Weight.Blockchain.getLastNBlocksWeights db count = .ok weights := by
  by_cases empty : db.height = 0
  · exact ⟨[], by simp [Weight.Blockchain.getLastNBlocksWeights, empty]⟩
  · -- the read starts below the top
    have below : db.height - min db.height count < db.height := by omega
    exact ⟨(List.range' (db.height - min db.height count)
        (min count (db.height - (db.height - min db.height count)))).map fun h => (db.blocks h).weight,
      by simp [Weight.Blockchain.getLastNBlocksWeights, empty, Chain.Db.getBlockWeights,
        Chain.Db.getBlockInfo64bitFields, below]⟩

/-- The update that ends `init` establishes the bounds on any chain: before
`HF_VERSION_LONG_TERM_BLOCK_WEIGHT` it does not throw, and from that version on the constructor's
zero limit is twice its zero median. -/
theorem MedianBounds.init (version : Nat → Nat) (db : Chain.Db) (window : Nat) :
    MedianBounds version ((Weight.Blockchain.create db window).step version
      .updateNextCumulativeWeightLimit) := by
  simp only [Weight.Blockchain.step]
  cases update : (Weight.Blockchain.create db window).updateNextCumulativeWeightLimit
      (version (Weight.Blockchain.create db window).db.height) with
  | ok bc' => exact MedianBounds.of_update update
  | error e =>
    refine ⟨rfl, fun early => ?_⟩
    change version db.height < hfVersionLongTermBlockWeight at early
    exfalso
    obtain ⟨weights, read⟩ := getLastNBlocksWeights_ok db
      (show 0 < cryptonoteRewardBlocksWindow by decide)
    unfold Weight.Blockchain.updateNextCumulativeWeightLimit at update
    dsimp only at update
    rw [show (Weight.Blockchain.create db window).db = db from rfl, if_pos early, read] at update
    simp [Except.map] at update

/-- Every state a run from `init` reaches has the bounds. -/
theorem medianBounds_run (version : Nat → Nat) (db : Chain.Db) (window : Nat)
    (ops : List Weight.Blockchain.Op) :
    MedianBounds version ((Weight.Blockchain.create db window).run version
      (.updateNextCumulativeWeightLimit :: ops)) :=
  (MedianBounds.init version db window).run ops

/-- Outside the version between `HF_VERSION_LONG_TERM_BLOCK_WEIGHT` and
`HF_VERSION_EFFECTIVE_SHORT_TERM_MEDIAN_IN_PENALTY`, the median of the penalty is the template's,
both raised to the full reward zone. -/
theorem penaltyMedianWeight_eq_ok {version : Nat → Nat} {bc : Weight.Blockchain}
    (bounds : MedianBounds version bc)
    (outside : ¬(hfVersionLongTermBlockWeight ≤ version bc.db.height ∧
      version bc.db.height < hfVersionEffectiveShortTermMedianInPenalty)) :
    ∃ medianWeight, penaltyMedianWeight bc (version bc.db.height) = .ok medianWeight ∧
      max medianWeight cryptonoteBlockGrantedFullRewardZone =
        max (bc.currentBlockCumulWeightLimit / 2) cryptonoteBlockGrantedFullRewardZone := by
  have half : bc.currentBlockCumulWeightLimit / 2 = bc.currentBlockCumulWeightMedian := by
    rw [bounds.limit, Nat.mul_div_cancel _ (by decide)]
  unfold penaltyMedianWeight
  rw [half]
  by_cases late : version bc.db.height ≥ hfVersionEffectiveShortTermMedianInPenalty
  · rw [if_pos late]
    exact ⟨_, rfl, rfl⟩
  · rw [if_neg late]
    have early : version bc.db.height < hfVersionLongTermBlockWeight := by
      simp only [hfVersionLongTermBlockWeight, hfVersionEffectiveShortTermMedianInPenalty] at outside late ⊢
      omega
    obtain ⟨weights, read⟩ :=
      getLastNBlocksWeights_ok bc.db (show 0 < cryptonoteRewardBlocksWindow by decide)
    rw [read]
    exact ⟨_, rfl, (bounds.shortTerm early weights read).symm⟩

end Medians

/-! ### The template against the checks -/

section Template

/-- The weights with which the block's pool transactions are taken: their records after the
walk. -/
def takenWeights (t : CreatedTemplate) : List Nat :=
  t.block.txHashes.map (TxPool.recordWeight t.txpool)

/-- The fees with which the block's pool transactions are taken. -/
def takenFees (t : CreatedTemplate) : List Nat :=
  t.block.txHashes.map (TxPool.recordFee t.txpool)

/-- A template holds what the pool filled in, and a coinbase that a call of
`construct_miner_tx` built, padded, for the weight of the pool's transactions and its own. -/
theorem createBlockTemplate_eq_some {env : TemplateEnv} {bc : Weight.Blockchain}
    {expectedReward : Nat} {extraNonce : List Nat} {t : CreatedTemplate}
    (created : createBlockTemplate env bc expectedReward extraNonce = some t) :
    ∃ filled call builtWeight built,
      TxPool.fillBlockTemplate env.fill [] (bc.currentBlockCumulWeightLimit / 2)
          (generatedCoinsAt env.chain bc.db.height) expectedReward (UInt8.ofNat bc.db.height)
          env.txpool env.sorted = some filled ∧
      t.block.txHashes = filled.txHashes ∧ t.txpool = filled.txpool ∧
      construct env bc.db.height (bc.currentBlockCumulWeightLimit / 2)
          (generatedCoinsAt env.chain bc.db.height) filled.fee extraNonce call builtWeight =
        some built ∧
      t.block.minerTx.unpadded = built.unpadded ∧
      builtWeight =
        (filled.totalWeight + env.chain.getTransactionWeight t.block.minerTx) % uint64Modulus := by
  unfold createBlockTemplate at created
  dsimp only at created
  split_ifs at created
  split at created
  · cases created
  · rename_i filled fill
    split at created
    · cases created
    · obtain ⟨minerTx, fit, rfl⟩ := Option.map_eq_some_iff.mp created
      obtain ⟨call, builtWeight, built, constructed, same, fits⟩ := fitMinerTx_eq_some env fit
      exact ⟨filled, call, builtWeight, built, fill, rfl, rfl, constructed, same, fits⟩

/-- The miner checks of `handle_block_to_main_chain` on a template of `create_block_template`
whose pool transactions are taken with the records the walk left: the coinbase pays the reward of
the template's median at the block's weight and the fees, and it passes the checks with the full
reward, except in the version between `HF_VERSION_LONG_TERM_BLOCK_WEIGHT` and
`HF_VERSION_EFFECTIVE_SHORT_TERM_MEDIAN_IN_PENALTY`, where the reward check reads the median of
the last blocks. -/
theorem createBlockTemplate_minerChecks (env : TemplateEnv) (fund : ExchangeFundKeys)
    (bc : Weight.Blockchain) (expectedReward : Nat) (extraNonce : List Nat) (t : CreatedTemplate)
    (bounds : MedianBounds env.chain.version bc)
    (fundKeys : env.chain.nettype = .mainnet → bc.db.height = exchangeFundReleaseHeight →
      ∀ call, FundKeysAgree fund (env.keys call))
    (created : createBlockTemplate env bc expectedReward extraNonce = some t)
    (feesFit : (takenFees t).sum < 2 ^ 63) :
    ∃ reward,
      getBlockReward env.chain.moneySupplyShare (bc.currentBlockCumulWeightLimit / 2)
          (cumulativeBlockWeight (env.chain.getTransactionWeight t.block.minerTx) (takenWeights t))
          (generatedCoinsAt env.chain bc.db.height) bc.db.height = some reward ∧
      t.block.minerTx.vout.head?.map TxOut.amount = some (reward + (takenFees t).sum) ∧
      handleBlockMinerChecks env.chain fund bc t.block.minerTx (takenWeights t) (takenFees t) =
        if hfVersionLongTermBlockWeight ≤ env.chain.version bc.db.height ∧
            env.chain.version bc.db.height < hfVersionEffectiveShortTermMedianInPenalty then
          penaltyMedianWeight bc (env.chain.version bc.db.height) >>= fun medianWeight =>
            checkBlockReward env.chain.moneySupplyShare medianWeight
              (cumulativeBlockWeight (env.chain.getTransactionWeight t.block.minerTx)
                (takenWeights t))
              (takenFees t).sum (generatedCoinsAt env.chain bc.db.height) bc.db.height
              (reward + (takenFees t).sum)
        else .ok (reward, false) := by
  obtain ⟨filled, call, builtWeight, built, fill, hashes, pool, constructed, same, fits⟩ :=
    createBlockTemplate_eq_some created
  obtain ⟨s, books, filledHashes, filledWeight, filledFee, filledPool⟩ :=
    TxPool.fillBlockTemplate_books fill
  obtain ⟨reward, minerKey, fundOutputs, rewarded, minerKeyed, vin, unlock, extra, vout, outputs⟩ :=
    constructMinerTx_eq_some constructed
  -- the records of the ids taken are the pool's before the walk
  have takenSums : (takenWeights t).sum % uint64Modulus = filled.totalWeight ∧
      (takenFees t).sum % uint64Modulus = filled.fee := by
    rw [takenWeights, takenFees, pool, hashes, filledPool, filledHashes, List.nil_append,
      books.records.map_recordWeight, books.records.map_recordFee, filledWeight, filledFee]
    exact ⟨books.totalWeight.symm, books.fee.symm⟩
  have feeWord : (takenFees t).sum < uint64Modulus := by
    unfold uint64Modulus
    omega
  have fee : filled.fee = (takenFees t).sum := by
    rw [← takenSums.2, Nat.mod_eq_of_lt feeWord]
  have weight : cumulativeBlockWeight (env.chain.getTransactionWeight t.block.minerTx)
      (takenWeights t) = builtWeight := by
    rw [cumulativeBlockWeight_eq (getTransactionWeight_lt _ _), fits, ← takenSums.1,
      Nat.mod_add_mod, Nat.add_comm]
  rw [fee] at vout
  -- the reward is at most the genesis reward, so the fees fit beside it in a word
  have genesis : reward ≤ genesisBlockReward :=
    (getBlockReward_le_baseReward _ _ _ rewarded).trans (baseReward_le_genesisBlockReward _ _ _)
  unfold genesisBlockReward at genesis
  have rewardWord : reward + (takenFees t).sum < uint64Modulus := by
    unfold uint64Modulus
    omega
  obtain ⟨sameVin, sameUnlock, sameVout, samePub⟩ := MinerTransaction.of_unpadded same
  have minerVout : t.block.minerTx.vout =
      ⟨reward + (takenFees t).sum, .toKey minerKey⟩ :: fundOutputs := by
    rw [sameVout, vout, Nat.mod_eq_of_lt rewardWord]
  have outsSmall : (t.block.minerTx.vout.map TxOut.amount).sum < uint64Modulus := by
    rw [minerVout]
    split_ifs at outputs
    · obtain ⟨fundKey, -, funded⟩ := outputs
      rw [funded]
      simp only [List.map_cons, List.map_nil, List.sum_cons, List.sum_nil, exchangeFundAmount]
      unfold uint64Modulus
      omega
    · rw [outputs]
      simpa using rewardWord
  have prevalidated : prevalidateMinerTransaction t.block.minerTx bc.db.height = .ok () :=
    prevalidateMinerTransaction_ok (sameVin.trans vin) (sameUnlock.trans unlock) outsSmall
  have money : moneyInUse env.chain.nettype fund t.block.minerTx bc.db.height =
      .ok (reward + (takenFees t).sum) :=
    moneyInUse_constructed (fun main release => fundKeys main release call) minerKeyed
      (by rw [samePub, extra]) minerVout rewardWord outputs
  refine ⟨reward, by rw [weight]; exact rewarded, by rw [minerVout]; rfl, ?_⟩
  unfold handleBlockMinerChecks validateMinerTransaction
  dsimp only
  rw [prevalidated, money, feeSummary_eq, Nat.mod_eq_of_lt feeWord]
  split_ifs with between
  · rfl
  · -- outside that version the reward check asks the template's reward
    obtain ⟨medianWeight, penalty, zone⟩ := penaltyMedianWeight_eq_ok bounds between
    rw [penalty]
    exact checkBlockReward_full
      (by rw [getBlockReward_congr_zone _ _ _ _ zone, weight]; exact rewarded) rewardWord

/-- A chain at version 8 of three blocks of weight `20000000`, whose update capped the median at
fifty times the full reward zone. -/
def heavyChain : Weight.Blockchain :=
  ⟨⟨3, fun _ => ⟨8, 8, 0, 7, 0, 20000000, 20000000⟩, fun _ => 8⟩, 100000, 0,
    Epee.RollingMedian.create 100000 (fun _ => 0), 245760, 12288000, 24576000⟩

/-- A pool of one transaction of weight `13000000`, above the capped median, with a coinbase of
weight `1000` and its padding. -/
def heavyTemplateEnv : TemplateEnv :=
  ⟨⟨fun _ => 0, .fakechain, fun _ => 8, fun _ => 0, fun tx => 1000 + tx.extra.padding⟩, false,
    fun txid => ⟨2, 0, [.toKey 0 txid], [], [], [], txid, 0⟩, fun txd _ _ => (true, txd),
    fun txid => if txid = 0 then
      some ⟨0, 0, 13000000, 1000000000, 0, 0, 0, 0, false, false, false, false, false, false,
        false, false⟩
      else none,
    [0], 1, fun call => ⟨call + 1, some (100 + call), none⟩⟩

/-- At version 8 the template pays the reward of the capped median, while the validation reads
the median of the last blocks and finds the reward partial. -/
theorem createBlockTemplate_minerChecks_partialReward :
    ∃ t, createBlockTemplate heavyTemplateEnv heavyChain 0 [] = some t ∧
      handleBlockMinerChecks heavyTemplateEnv.chain ⟨fun _ => none, fun _ _ => none⟩ heavyChain
        t.block.minerTx (takenWeights t) (takenFees t) = .ok (3986532820, true) := by
  have found : (createBlockTemplate heavyTemplateEnv heavyChain 0 []).isSome := by decide
  obtain ⟨reward, rewarded, -, checks⟩ := createBlockTemplate_minerChecks heavyTemplateEnv
    ⟨fun _ => none, fun _ _ => none⟩ heavyChain 0 [] _ ⟨rfl, fun early => absurd early (by decide)⟩
    (fun mainnet => by cases mainnet) (Option.some_get found).symm (by decide +revert)
  refine ⟨_, (Option.some_get found).symm, ?_⟩
  rw [checks, show reward = 3986532820 from
    Option.some.inj (rewarded.symm.trans (by decide +revert))]
  decide +kernel +revert

end Template

end Sumokoin.Core.Miner
