import Mathlib
import Sumokoin.BlockchainDb.Lmdb

/-! Popping a block undoes adding it. Every write of `add_block` puts an entry under a key that the
table did not hold (an append above the last key, or a put after a lookup that found nothing), and
`pop_block` erases the same keys, last written first; so the tables come back, as long as
`remove_tx_outputs` looks each output up under the amount `add_transaction` stored it under. The
two decide that amount differently: `add_transaction` stores every output of a version 2
transaction with a `txin_gen` input under amount `0`, `remove_tx_outputs` looks under `0` only for
a transaction of version 2 or later whose one input is a `txin_gen`. -/

namespace Sumokoin.BlockchainDb

open Sumokoin.ProofKit

namespace BlockchainLMDB

variable {db db' : BlockchainLMDB}

/-! ### What each write does -/

theorem addSpentKey_eq_ok {kImage : Nat} (h : db.addSpentKey kImage = .ok db') :
    db.spentKeys.find? kImage = none ∧ db' = { db with spentKeys := db.spentKeys.insert kImage () } := by
  unfold addSpentKey at h
  split at h
  · cases h
  · next hk => exact ⟨Option.not_isSome_iff_eq_none.mp hk, (Except.ok.inj h).symm⟩

theorem addTransactionData_eq_ok {tx : Transaction} {txHash txId : Nat}
    (h : db.addTransactionData tx txHash = .ok (db', txId)) :
    txId = db.getTxCount ∧ db.txIndices.find? txHash = none ∧ db.txsPruned.find? txId = none ∧
      db.txsPrunable.find? txId = none ∧ (1 < tx.version → db.txsPrunableHash.find? txId = none) ∧
      db' = { db with
        txIndices := db.txIndices.insert txHash ⟨txId, tx.unlockTime, db.height⟩
        txsPruned := db.txsPruned.insert txId { tx with prunable := [] }
        txsPrunable := db.txsPrunable.insert txId tx.prunable
        txsPrunableTip := if db.pruningSeed ≠ 0 then db.txsPrunableTip.insert txId db.height
          else db.txsPrunableTip
        txsPrunableHash := if 1 < tx.version then db.txsPrunableHash.insert txId tx.prunableHash
          else db.txsPrunableHash } := by
  unfold addTransactionData at h
  split at h
  · cases h
  · next hidx =>
    dsimp only at h
    split at h
    · cases h
    · next hpruned =>
      split at h
      · cases h
      · next hprunable =>
        have hpr := SortedMap.find?_eq_none_of_appendable (by simpa using hpruned)
        have hpa := SortedMap.find?_eq_none_of_appendable (by simpa using hprunable)
        split at h
        · next hv =>
          split at h
          · cases h
          · next hhash =>
            obtain ⟨rfl, rfl⟩ := Prod.mk.inj (Except.ok.inj h)
            exact ⟨rfl, hidx, hpr, hpa,
              fun _ => SortedMap.find?_eq_none_of_appendable (by simpa using hhash), by rw [if_pos hv]; rfl⟩
        · next hv =>
          obtain ⟨rfl, rfl⟩ := Prod.mk.inj (Except.ok.inj h)
          exact ⟨rfl, hidx, hpr, hpa, fun h1 => absurd h1 hv, by rw [if_neg hv]; rfl⟩

theorem find?_eq_none_of_appendableOutput {amount amountIndex : Nat}
    (h : db.appendableOutput amount amountIndex = true) :
    db.outputAmounts.find? (toLex (amount, amountIndex)) = none := by
  refine SortedMap.lookup_eq_none_of_forall_ne fun e he heq => ?_
  have hall := List.all_eq_true.mp h e he
  rw [heq] at hall
  simp at hall

theorem addOutput_eq_ok {txHash localIndex unlockTime amountIndex : Nat} {txOutput : TxOut}
    {commitment : Option Commitment}
    (h : db.addOutput txHash txOutput localIndex unlockTime commitment = .ok (db', amountIndex)) :
    ∃ key, db.outputTxs.find? db.numOutputs = none ∧
      db.outputAmounts.find? (toLex (txOutput.amount, amountIndex)) = none ∧
      db' = { db with
        outputTxs := db.outputTxs.insert db.numOutputs ⟨txHash, localIndex⟩
        outputAmounts := db.outputAmounts.insert (toLex (txOutput.amount, amountIndex))
          ⟨db.numOutputs, key, unlockTime, db.height, if txOutput.amount = 0 then commitment else none⟩ } := by
  unfold addOutput at h
  split at h
  · cases h
  · next key _ =>
    dsimp only at h
    split at h
    · cases h
    · split at h
      · cases h
      · next hout =>
        split at h
        · cases h
        · next hamt =>
          obtain ⟨rfl, rfl⟩ := Prod.mk.inj (Except.ok.inj h)
          simp only [Bool.not_eq_true, Bool.not_eq_false'] at hamt
          exact ⟨key, SortedMap.find?_eq_none_of_appendable (by simpa using hout),
            find?_eq_none_of_appendableOutput hamt, rfl⟩

theorem addTxAmountOutputIndices_eq_ok {txId : Nat} {amountOutputIndices : List Nat}
    (h : db.addTxAmountOutputIndices txId amountOutputIndices = .ok db') :
    db.txOutputs.find? txId = none ∧
      db' = { db with txOutputs := db.txOutputs.insert txId amountOutputIndices } := by
  unfold addTxAmountOutputIndices at h
  split at h
  · cases h
  · next happ => exact ⟨SortedMap.find?_eq_none_of_appendable (by simpa using happ), (Except.ok.inj h).symm⟩

theorem addBlock_eq_ok {blk : Block} {blockWeight longTermBlockWeight cumulativeDifficulty
    coinsGenerated numRctOuts blkHash : Nat}
    (h : db.addBlock blk blockWeight longTermBlockWeight cumulativeDifficulty coinsGenerated
      numRctOuts blkHash = .ok db') :
    db.blockHeights.find? blkHash = none ∧ db.blocks.find? db.height = none ∧
      db.blockInfo.find? db.height = none ∧ ∃ bi : BlockInfo, bi.hash = blkHash ∧
      db' = { db with
        blocks := db.blocks.insert db.height blk
        blockInfo := db.blockInfo.insert db.height bi
        blockHeights := db.blockHeights.insert blkHash db.height } := by
  unfold addBlock at h
  split at h
  · cases h
  · next hnew =>
    dsimp only at h
    split at h
    · cases h
    · split at h
      · cases h
      · next happ =>
        split at h
        · cases h
        · split at h
          · cases h
          · next hinfo =>
            obtain rfl := (Except.ok.inj h)
            exact ⟨Option.not_isSome_iff_eq_none.mp hnew,
              SortedMap.find?_eq_none_of_appendable (by simpa using happ),
              SortedMap.find?_eq_none_of_appendable (by simpa using hinfo), _, rfl, rfl⟩

/-! ### What each removal does -/

/-- `remove_tx_outputs` with one stored index for each output runs the removal loop over them. -/
theorem removeTxOutputs_eq {txId : Nat} {tx : Transaction} {indices : List Nat}
    (hlen : indices.length = tx.vout.length) (houts : db.txOutputs.find? txId = some indices) :
    db.removeTxOutputs txId tx = removeOutputsFrom tx indices tx.vout.length db := by
  have hcheck : ¬(indices.isEmpty = true ∧ (!tx.vout.isEmpty) = true) := by
    rintro ⟨hempty, hvout⟩
    rw [List.isEmpty_iff.mp hempty, List.length_nil] at hlen
    simp [List.eq_nil_of_length_eq_zero hlen.symm] at hvout
  simp only [removeTxOutputs, getTxAmountOutputIndices, houts, Option.getD_some, if_neg hcheck]

/-- What `remove_transaction_data` does when it finds the index of the hash, the pruned part, the
prunable hash of a version 2 transaction and an index for each output: the entries under the tx
id go, then the removal loop runs, then the output indices and the index of the hash go. -/
theorem removeTransactionData_eq {txHash : Nat} {tx : Transaction} {ti : TxIndex}
    {indices : List Nat} (hidx : db.txIndices.find? txHash = some ti)
    (hpruned : db.txsPruned.find? ti.txId ≠ none)
    (hhash : 1 < tx.version → db.txsPrunableHash.find? ti.txId ≠ none)
    (houts : db.txOutputs.find? ti.txId = some indices) (hlen : indices.length = tx.vout.length) :
    db.removeTransactionData txHash tx =
      match removeOutputsFrom tx indices tx.vout.length { db with
          txsPruned := db.txsPruned.erase ti.txId
          txsPrunable := db.txsPrunable.erase ti.txId
          txsPrunableTip := db.txsPrunableTip.erase ti.txId
          txsPrunableHash := if 1 < tx.version then db.txsPrunableHash.erase ti.txId
            else db.txsPrunableHash } with
      | .error e => .error e
      | .ok db => .ok { db with txOutputs := db.txOutputs.erase ti.txId, txIndices := db.txIndices.erase txHash } := by
  have hfound : ¬(db.txsPruned.find? ti.txId).isNone = true := by
    simpa [Option.isNone_iff_eq_none] using hpruned
  have hfoundHash : ¬(1 < tx.version ∧ (db.txsPrunableHash.find? ti.txId).isNone = true) :=
    fun ⟨hv, hn⟩ => hhash hv (Option.isNone_iff_eq_none.mp hn)
  unfold removeTransactionData
  simp only [hidx]
  rw [if_neg hfound, if_neg hfoundHash, removeTxOutputs_eq hlen]
  all_goals first | rfl | exact houts

/-- When the removal loop runs through, `remove_transaction_data` takes away every entry under the
tx id and the hash, and the loop's outputs. -/
theorem removeTransactionData_eq_ok {txHash : Nat} {tx : Transaction} {ti : TxIndex}
    {indices : List Nat} {outputTxs : SortedMap Nat OutTx} {outputAmounts : SortedMap (Nat ×ₗ Nat) OutKey}
    (hidx : db.txIndices.find? txHash = some ti) (hpruned : db.txsPruned.find? ti.txId ≠ none)
    (hhash : 1 < tx.version → db.txsPrunableHash.find? ti.txId ≠ none)
    (houts : db.txOutputs.find? ti.txId = some indices) (hlen : indices.length = tx.vout.length)
    (hrm : ∀ S : BlockchainLMDB, S.outputTxs = db.outputTxs → S.outputAmounts = db.outputAmounts →
      removeOutputsFrom tx indices tx.vout.length S =
        .ok { S with outputTxs := outputTxs, outputAmounts := outputAmounts }) :
    db.removeTransactionData txHash tx = .ok { db with
      txsPruned := db.txsPruned.erase ti.txId
      txsPrunable := db.txsPrunable.erase ti.txId
      txsPrunableTip := db.txsPrunableTip.erase ti.txId
      txsPrunableHash := if 1 < tx.version then db.txsPrunableHash.erase ti.txId else db.txsPrunableHash
      outputTxs := outputTxs
      outputAmounts := outputAmounts
      txOutputs := db.txOutputs.erase ti.txId
      txIndices := db.txIndices.erase txHash } := by
  -- the removal loop runs on the database with the entries under the tx id erased
  rw [removeTransactionData_eq hidx hpruned hhash houts hlen, hrm]
  · rfl
  · rfl

/-- The block the LMDB back end just added is the top block, and removing it gives back the
database. -/
theorem removeBlock_addBlock {blk : Block} {blockWeight longTermBlockWeight cumulativeDifficulty
    coinsGenerated numRctOuts blkHash : Nat}
    (h : db.addBlock blk blockWeight longTermBlockWeight cumulativeDifficulty coinsGenerated
      numRctOuts blkHash = .ok db') :
    db'.getTopBlock = .ok blk ∧ db'.removeBlock = .ok db := by
  obtain ⟨hheights, hblocks, hinfo, bi, rfl, rfl⟩ := addBlock_eq_ok h
  -- the new block goes one above the blocks there were, which are counted by `height()`
  have hblocks' : db.blocks.find? db.blocks.size = none := hblocks
  have hinfo' : db.blockInfo.find? db.blocks.size = none := hinfo
  have hsize : (db.blocks.insert db.blocks.size blk).size = db.blocks.size + 1 :=
    SortedMap.size_insert_of_find?_eq_none _ hblocks'
  constructor
  · simp [getTopBlock, height, hsize]
  · simp only [removeBlock, height, hsize, Nat.add_sub_cancel, Nat.add_one_ne_zero, if_false,
      SortedMap.find?_insert_self, Option.isNone_some, Bool.false_eq_true,
      SortedMap.erase_insert_of_find?_eq_none _ hheights, SortedMap.erase_insert_of_find?_eq_none _ hblocks',
      SortedMap.erase_insert_of_find?_eq_none _ hinfo']

end BlockchainLMDB

namespace BlockchainDB

open BlockchainLMDB

variable {db db' : BlockchainLMDB}

/-! ### The input loops -/

/-- The input loop of `add_transaction` spends each key image of the transaction, none of which was
spent before, and writes nothing else. -/
theorem addInputs_eq_ok {vin : List TxIn} (h : addInputs vin db = .ok db') :
    ∃ spentKeys, db' = { db with spentKeys := spentKeys } ∧
      (∀ k, (∃ a, TxIn.toKey a k ∈ vin) → db.spentKeys.find? k = none ∧ spentKeys.find? k = some ()) ∧
      (∀ k, (∀ a, TxIn.toKey a k ∉ vin) → spentKeys.find? k = db.spentKeys.find? k) := by
  induction vin generalizing db with
  | nil =>
    obtain rfl : db = db' := Except.ok.inj h
    exact ⟨db.spentKeys, rfl, fun _ ⟨_, ha⟩ => absurd ha List.not_mem_nil, fun _ _ => rfl⟩
  | cons input vin ih =>
    cases input with
    | gen height =>
      obtain ⟨spentKeys, rfl, hspent, hkept⟩ := ih h
      refine ⟨spentKeys, rfl, fun k ⟨a, ha⟩ => hspent k ⟨a, ?_⟩,
        fun k hk => hkept k fun a ha => hk a (List.mem_cons_of_mem _ ha)⟩
      simpa using ha
    | toKey amount kImage =>
      simp only [addInputs] at h
      split at h
      · cases h
      · next db₁ hadd =>
        obtain ⟨hfresh, rfl⟩ := addSpentKey_eq_ok hadd
        obtain ⟨spentKeys, rfl, hspent, hkept⟩ := ih h
        -- a key image spent further on was not spent before this one
        have hlater : ∀ k, (∃ a, TxIn.toKey a k ∈ vin) → k ≠ kImage ∧ db.spentKeys.find? k = none := by
          intro k hk
          have hk' := (hspent k hk).1
          by_cases heq : k = kImage
          · subst heq
            simp at hk'
          · exact ⟨heq, by rwa [SortedMap.find?_insert_of_ne _ heq] at hk'⟩
        refine ⟨spentKeys, rfl, fun k ⟨a, ha⟩ => ?_, fun k hk => ?_⟩
        · rcases List.mem_cons.mp ha with heq | ha
          · obtain ⟨-, rfl⟩ := TxIn.toKey.inj heq
            refine ⟨hfresh, ?_⟩
            by_cases hv : ∃ a, TxIn.toKey a k ∈ vin
            · exact absurd rfl (hlater k hv).1
            · simp [hkept k fun a ha => hv ⟨a, ha⟩]
          · exact ⟨(hlater k ⟨a, ha⟩).2, (hspent k ⟨a, ha⟩).2⟩
        · have hne : k ≠ kImage := fun heq => hk amount (by rw [heq]; exact List.mem_cons_self)
          rw [hkept k fun a ha => hk a (List.mem_cons_of_mem _ ha), SortedMap.find?_insert_of_ne _ hne]
    | other => cases h

/-- The input loop of `remove_transaction` unspends each key image of the transaction. -/
theorem removeSpentKeys_eq (vin : List TxIn) (db : BlockchainLMDB) :
    ∃ spentKeys, removeSpentKeys vin db = { db with spentKeys := spentKeys } ∧
      (∀ k, (∃ a, TxIn.toKey a k ∈ vin) → spentKeys.find? k = none) ∧
      (∀ k, (∀ a, TxIn.toKey a k ∉ vin) → spentKeys.find? k = db.spentKeys.find? k) := by
  induction vin generalizing db with
  | nil => exact ⟨db.spentKeys, rfl, fun _ ⟨_, ha⟩ => absurd ha List.not_mem_nil, fun _ _ => rfl⟩
  | cons input vin ih =>
    cases input with
    | toKey amount kImage =>
      obtain ⟨spentKeys, heq, hspent, hkept⟩ := ih (db.removeSpentKey kImage)
      refine ⟨spentKeys, heq, fun k ⟨a, ha⟩ => ?_, fun k hk => ?_⟩
      · rcases List.mem_cons.mp ha with hk | ha
        · obtain ⟨-, rfl⟩ := TxIn.toKey.inj hk
          by_cases hv : ∃ a, TxIn.toKey a k ∈ vin
          · exact hspent k hv
          · rw [hkept k fun a ha => hv ⟨a, ha⟩]
            exact SortedMap.find?_erase_self _ _
        · exact hspent k ⟨a, ha⟩
      · have hne : k ≠ kImage := fun heq => hk amount (by rw [heq]; exact List.mem_cons_self)
        rw [hkept k fun a ha => hk a (List.mem_cons_of_mem _ ha)]
        exact SortedMap.find?_erase_of_ne _ hne
    | gen height =>
      obtain ⟨spentKeys, heq, hspent, hkept⟩ := ih db
      exact ⟨spentKeys, heq, fun k ⟨a, ha⟩ => hspent k ⟨a, by simpa using ha⟩,
        fun k hk => hkept k fun a ha => hk a (List.mem_cons_of_mem _ ha)⟩
    | other =>
      obtain ⟨spentKeys, heq, hspent, hkept⟩ := ih db
      exact ⟨spentKeys, heq, fun k ⟨a, ha⟩ => hspent k ⟨a, by simpa using ha⟩,
        fun k hk => hkept k fun a ha => hk a (List.mem_cons_of_mem _ ha)⟩

/-- Unspending the key images of a transaction gives back the spent keys from before it was
added. -/
theorem removeSpentKeys_addInputs {vin : List TxIn} {spentKeys : SortedMap Nat Unit}
    (h : addInputs vin db = .ok { db with spentKeys := spentKeys }) (S : BlockchainLMDB)
    (hS : S.spentKeys = spentKeys) :
    removeSpentKeys vin S = { S with spentKeys := db.spentKeys } := by
  obtain ⟨added, hadded, hspent, hkept⟩ := addInputs_eq_ok h
  obtain ⟨removed, hremoved, hspent', hkept'⟩ := removeSpentKeys_eq vin S
  have hsk : spentKeys = added := congrArg BlockchainLMDB.spentKeys hadded
  rw [hremoved]
  congr 1
  refine SortedMap.ext_find? fun k => ?_
  by_cases hk : ∃ a, TxIn.toKey a k ∈ vin
  · rw [hspent' k hk, (hspent k hk).1]
  · rw [hkept' k fun a ha => hk ⟨a, ha⟩, hS, hsk, hkept k fun a ha => hk ⟨a, ha⟩]

/-! ### The output loops -/

/-- Removing the output that `add_output` stored, from a database whose output tables are those
`add_output` left, gives back the output tables from before. -/
theorem removeOutput_of_addOutput {db₁ : BlockchainLMDB} {txHash localIndex unlockTime amountIndex : Nat}
    {txOutput : TxOut} {commitment : Option Commitment}
    (h : db.addOutput txHash txOutput localIndex unlockTime commitment = .ok (db₁, amountIndex))
    (S : BlockchainLMDB) (hS₁ : S.outputTxs = db₁.outputTxs) (hS₂ : S.outputAmounts = db₁.outputAmounts) :
    S.removeOutput txOutput.amount amountIndex =
      .ok { S with outputTxs := db.outputTxs, outputAmounts := db.outputAmounts } := by
  obtain ⟨key, htxs, hamounts, rfl⟩ := addOutput_eq_ok h
  simp only [removeOutput, hS₁, hS₂, SortedMap.find?_insert_self,
    SortedMap.erase_insert_of_find?_eq_none _ htxs, SortedMap.erase_insert_of_find?_eq_none _ hamounts]

/-- The output loop of `add_transaction` returns an index for each output and writes only the
output tables. -/
theorem addOutputs_eq_ok {tx : Transaction} {txHash : Nat} {minerTx : Bool} :
    ∀ {n : Nat} {db db₁ : BlockchainLMDB} {amountOutputIndices : List Nat},
      addOutputs tx txHash minerTx n db = .ok (db₁, amountOutputIndices) →
      amountOutputIndices.length = n ∧ ∃ outputTxs outputAmounts,
        db₁ = { db with outputTxs := outputTxs, outputAmounts := outputAmounts }
  | 0, db, db₁, _, h => by
    obtain ⟨rfl, rfl⟩ := Prod.mk.inj (Except.ok.inj h)
    exact ⟨rfl, db.outputTxs, db.outputAmounts, rfl⟩
  | n + 1, db, db₁, _, h => by
    simp only [addOutputs] at h
    split at h
    · cases h
    · next db₂ indices h₂ =>
      obtain ⟨hlen, outputTxs, outputAmounts, rfl⟩ := addOutputs_eq_ok h₂
      split at h
      · cases h
      · next db₃ amountIndex hadded =>
        obtain ⟨rfl, rfl⟩ := Prod.mk.inj (Except.ok.inj h)
        refine ⟨by simp [hlen], ?_⟩
        split at hadded
        all_goals
          obtain ⟨_, _, _, rfl⟩ := addOutput_eq_ok hadded
          exact ⟨_, _, rfl⟩

/-- `remove_tx_outputs` undoes the output loop of `add_transaction` when it looks each output up
under the amount the loop stored it under. -/
theorem removeOutputsFrom_addOutputs {tx tx' : Transaction} {txHash : Nat} {minerTx : Bool}
    (hvout : tx'.vout = tx.vout)
    (hagree : ∀ vout ∈ tx.vout, (if minerTx && tx.version == 2 then 0 else vout.amount) =
      (if isPseudoRct tx' then 0 else vout.amount)) :
    ∀ {n : Nat} {db db₁ : BlockchainLMDB} {amountOutputIndices : List Nat}, n ≤ tx.vout.length →
      addOutputs tx txHash minerTx n db = .ok (db₁, amountOutputIndices) →
      ∀ (rest : List Nat) (S : BlockchainLMDB), S.outputTxs = db₁.outputTxs →
        S.outputAmounts = db₁.outputAmounts →
        removeOutputsFrom tx' (amountOutputIndices ++ rest) n S =
          .ok { S with outputTxs := db.outputTxs, outputAmounts := db.outputAmounts }
  | 0, db, db₁, _, _, h, rest, S, hS₁, hS₂ => by
    obtain ⟨rfl, rfl⟩ := Prod.mk.inj (Except.ok.inj h)
    rw [← hS₁, ← hS₂]
    rfl
  | n + 1, db, db₁, _, hn, h, rest, S, hS₁, hS₂ => by
    simp only [addOutputs] at h
    split at h
    · cases h
    · next db₂ indices h₂ =>
      have hlen := (addOutputs_eq_ok h₂).1
      split at h
      · cases h
      · next db₃ amountIndex hadded =>
        obtain ⟨rfl, rfl⟩ := Prod.mk.inj (Except.ok.inj h)
        -- output `n` is removed first, under the amount it was stored under
        have hmem : tx.vout.getD n default ∈ tx.vout := by
          rw [List.getD_eq_getElem _ _ (by omega)]
          exact List.getElem_mem _
        have hamount := hagree _ hmem
        have hindex : (indices ++ [amountIndex] ++ rest).getD n 0 = amountIndex := by
          simp [List.getD_eq_getElem?_getD, hlen]
        have hstep : S.removeOutput (if isPseudoRct tx' then 0 else (tx'.vout.getD n default).amount)
            amountIndex = .ok { S with outputTxs := db₂.outputTxs, outputAmounts := db₂.outputAmounts } := by
          rw [hvout, ← hamount]
          split at hadded
          · next hminer =>
            rw [if_pos hminer]
            exact removeOutput_of_addOutput hadded S hS₁ hS₂
          · next hminer =>
            rw [if_neg hminer]
            exact removeOutput_of_addOutput hadded S hS₁ hS₂
        simp only [removeOutputsFrom]
        rw [hindex, hstep, List.append_assoc]
        exact removeOutputsFrom_addOutputs hvout hagree (by omega) h₂ ([amountIndex] ++ rest)
          { S with outputTxs := db₂.outputTxs, outputAmounts := db₂.outputAmounts } rfl rfl

/-! ### One transaction -/

/-- Stored prunable heights stand under stored transactions: a pruned database writes the two
together, and so does `remove_transaction_data` take them away. -/
def TipWithinPruned (db : BlockchainLMDB) : Prop :=
  ∀ txId, db.txsPrunableTip.find? txId ≠ none → db.txsPruned.find? txId ≠ none

/-- `add_transaction` stores each output under the amount that `remove_tx_outputs` looks it up
under. -/
def AmountsAgree (tx : Transaction) : Prop :=
  ∀ vout ∈ tx.vout, (if isMinerTx tx.vin && tx.version == 2 then 0 else vout.amount) =
    (if isPseudoRct tx then 0 else vout.amount)

instance (tx : Transaction) : Decidable (AmountsAgree tx) :=
  inferInstanceAs (Decidable (∀ vout ∈ tx.vout, _))

theorem addTransaction_eq_ok {tx : Transaction} {txHash : Nat}
    (h : addTransaction db tx txHash = .ok db') :
    ∃ db₁ db₂ db₃ txId amountOutputIndices, addInputs tx.vin db = .ok db₁ ∧
      db₁.addTransactionData tx txHash = .ok (db₂, txId) ∧
      addOutputs tx txHash (isMinerTx tx.vin) tx.vout.length db₂ = .ok (db₃, amountOutputIndices) ∧
      db₃.addTxAmountOutputIndices txId amountOutputIndices = .ok db' := by
  unfold addTransaction at h
  split at h
  · cases h
  · next db₁ h₁ =>
    split at h
    · cases h
    · next db₂ txId h₂ =>
      split at h
      · cases h
      · next db₃ amountOutputIndices h₃ => exact ⟨db₁, db₂, db₃, txId, amountOutputIndices, h₁, h₂, h₃, h⟩

theorem TipWithinPruned.addTransaction {tx : Transaction} {txHash : Nat} (hinv : TipWithinPruned db)
    (h : addTransaction db tx txHash = .ok db') : TipWithinPruned db' := by
  obtain ⟨db₁, db₂, db₃, txId, indices, h₁, h₂, h₃, h₄⟩ := addTransaction_eq_ok h
  obtain ⟨spentKeys, rfl, -, -⟩ := addInputs_eq_ok h₁
  obtain ⟨-, -, -, -, -, rfl⟩ := addTransactionData_eq_ok h₂
  obtain ⟨-, outputTxs, outputAmounts, rfl⟩ := addOutputs_eq_ok h₃
  obtain ⟨-, rfl⟩ := addTxAmountOutputIndices_eq_ok h₄
  intro k hk
  by_cases hkid : k = txId
  · subst hkid
    simp
  · show (db.txsPruned.insert txId _).find? k ≠ none
    rw [SortedMap.find?_insert_of_ne _ hkid]
    refine hinv k fun hnone => hk ?_
    show (if db.pruningSeed ≠ 0 then _ else db.txsPrunableTip).find? k = none
    split
    · rw [SortedMap.find?_insert_of_ne _ hkid, hnone]
    · exact hnone

/-- Removing a transaction right after adding it gives back the database, when each output is
looked up under the amount it was stored under; and the transaction reads back whole before. -/
theorem removeTransaction_addTransaction {tx : Transaction} {txHash : Nat}
    (hinv : TipWithinPruned db) (hagree : AmountsAgree tx) (h : addTransaction db tx txHash = .ok db') :
    db'.getTx txHash = some tx ∧ removeTransaction db' txHash = .ok db := by
  obtain ⟨db₁, db₂, db₃, txId, indices, h₁, h₂, h₃, h₄⟩ := addTransaction_eq_ok h
  obtain ⟨spentKeys, rfl, -, -⟩ := addInputs_eq_ok h₁
  obtain ⟨-, hidx, hpruned, hprunable, hhash, rfl⟩ := addTransactionData_eq_ok h₂
  obtain ⟨hlen, outputTxs, outputAmounts, rfl⟩ := addOutputs_eq_ok h₃
  obtain ⟨houts, rfl⟩ := addTxAmountOutputIndices_eq_ok h₄
  -- no height was stored under the new tx id, which no pruned part had
  have htip : db.txsPrunableTip.find? txId = none := by
    by_contra hne
    exact hinv txId hne hpruned
  refine ⟨?_, ?_⟩
  · simp only [getTx, SortedMap.find?_insert_self, Option.bind_eq_bind, Option.bind_some]
    rfl
  · -- the pruned part is read back, and the key images are unspent first
    unfold removeTransaction getPrunedTx
    simp only [SortedMap.find?_insert_self, Option.bind_eq_bind, Option.bind_some]
    rw [removeSpentKeys_addInputs h₁ _ rfl]
    refine (@removeTransactionData_eq_ok _ txHash _ ⟨txId, tx.unlockTime, db.height⟩ indices
      db.outputTxs db.outputAmounts ?_ ?_ ?_ ?_ ?_ ?_).trans ?_
    · exact SortedMap.find?_insert_self _ _ _
    · simp
    · intro hv
      simp [hv]
    · exact SortedMap.find?_insert_self _ _ _
    · exact hlen
    · intro S hS₁ hS₂
      rw [← List.append_nil indices]
      -- the pruned transaction has the outputs, version and inputs of the added one
      refine removeOutputsFrom_addOutputs ?_ ?_ le_rfl h₃ [] S hS₁ hS₂
      · rfl
      · exact hagree
    · -- every entry written under the new tx id and hash is erased again
      congr 1
      refine BlockchainLMDB.ext rfl rfl rfl rfl ?_ ?_ ?_ ?_ ?_ ?_ rfl rfl rfl
      · exact SortedMap.erase_insert_of_find?_eq_none _ hidx
      · exact SortedMap.erase_insert_of_find?_eq_none _ hpruned
      · exact SortedMap.erase_insert_of_find?_eq_none _ hprunable
      · by_cases hv : 1 < tx.version
        · simp only [hv, if_true]
          exact SortedMap.erase_insert_of_find?_eq_none _ (hhash hv)
        · simp only [hv, if_false]
      · by_cases hseed : db.pruningSeed = 0
        · simp only [hseed, ne_eq, not_true_eq_false, if_false]
          exact SortedMap.erase_of_find?_eq_none htip
        · simp only [hseed, ne_eq, not_false_eq_true, if_true]
          exact SortedMap.erase_insert_of_find?_eq_none _ htip
      · exact SortedMap.erase_insert_of_find?_eq_none _ houts

/-- A transaction with one output that `add_transaction` stores under another amount than the one
`remove_tx_outputs` looks it up under: removing it right after adding it throws, on a database
with no output of the looked-up amount. -/
theorem removeTransaction_addTransaction_of_amount_ne {tx : Transaction} {txHash : Nat}
    {vout : TxOut} (hvout : tx.vout = [vout])
    (hne : (if isMinerTx tx.vin && tx.version == 2 then 0 else vout.amount) ≠
      (if isPseudoRct tx then 0 else vout.amount))
    (hnone : ∀ i, db.outputAmounts.find? (toLex (if isPseudoRct tx then 0 else vout.amount, i)) = none)
    (h : addTransaction db tx txHash = .ok db') :
    removeTransaction db' txHash =
      .error "Attempting to get an output index by amount and amount index, but amount not found" := by
  obtain ⟨db₁, db₂, db₃, txId, indices, h₁, h₂, h₃, h₄⟩ := addTransaction_eq_ok h
  obtain ⟨spentKeys, rfl, -, -⟩ := addInputs_eq_ok h₁
  obtain ⟨-, hidx, hpruned, hprunable, hhash, rfl⟩ := addTransactionData_eq_ok h₂
  obtain ⟨-, outputTxs, outputAmounts, rfl⟩ := addOutputs_eq_ok h₃
  obtain ⟨houts, rfl⟩ := addTxAmountOutputIndices_eq_ok h₄
  -- the one output is stored under the amount `add_transaction` picks
  simp only [hvout, List.length_singleton, addOutputs, List.getD_cons_zero] at h₃
  split at h₃
  · cases h₃
  · next db₃ idx hadded =>
    obtain ⟨hdb₃, rfl⟩ := Prod.mk.inj (Except.ok.inj h₃)
    -- the output is not where `remove_tx_outputs` looks
    have hmiss : outputAmounts.find? (toLex (if isPseudoRct tx then 0 else vout.amount, idx)) = none := by
      have hamounts : db₃.outputAmounts = outputAmounts := by rw [hdb₃]
      rw [← hamounts]
      split at hadded
      · next hminer =>
        obtain ⟨key, -, -, rfl⟩ := addOutput_eq_ok hadded
        rw [if_pos hminer] at hne
        rw [SortedMap.find?_insert_of_ne _ fun heq => hne (Prod.mk.inj (toLex.injective heq)).1.symm]
        exact hnone idx
      · next hminer =>
        obtain ⟨key, -, -, rfl⟩ := addOutput_eq_ok hadded
        rw [if_neg hminer] at hne
        rw [SortedMap.find?_insert_of_ne _ fun heq => hne (Prod.mk.inj (toLex.injective heq)).1.symm]
        exact hnone idx
    unfold removeTransaction getPrunedTx
    simp only [SortedMap.find?_insert_self, Option.bind_eq_bind, Option.bind_some]
    rw [removeSpentKeys_addInputs h₁ _ rfl]
    refine (@removeTransactionData_eq _ txHash _ ⟨txId, tx.unlockTime, db.height⟩ ([] ++ [idx])
      ?_ ?_ ?_ ?_ ?_).trans ?_
    · exact SortedMap.find?_insert_self _ _ _
    · simp
    · intro hv
      simp [hv]
    · exact SortedMap.find?_insert_self _ _ _
    · simp [hvout]
    · -- the removal loop looks the one output up under the other amount
      have hpseudo : isPseudoRct { tx with prunable := [], vout := [vout] } = isPseudoRct tx := rfl
      simp only [hvout, List.length_singleton, removeOutputsFrom, removeOutput, List.nil_append,
        List.getD_cons_zero]
      simp only [hpseudo, hmiss]

/-! ### One block -/

theorem removeTxs_append {l₁ l₂ : List Nat} {S S₁ S₂ : BlockchainLMDB} {txs₁ txs₂ : List Transaction}
    (h₁ : removeTxs l₁ S = .ok (S₁, txs₁)) (h₂ : removeTxs l₂ S₁ = .ok (S₂, txs₂)) :
    removeTxs (l₁ ++ l₂) S = .ok (S₂, txs₁ ++ txs₂) := by
  induction l₁ generalizing S txs₁ with
  | nil =>
    obtain ⟨rfl, rfl⟩ := Prod.mk.inj (Except.ok.inj h₁)
    exact h₂
  | cons txHash hashes ih =>
    simp only [removeTxs] at h₁
    split at h₁
    · cases h₁
    · next tx hget =>
      split at h₁
      · cases h₁
      · next S' hrm =>
        split at h₁
        · cases h₁
        · next S'' txs hrest =>
          obtain ⟨rfl, rfl⟩ := Prod.mk.inj (Except.ok.inj h₁)
          simp only [List.cons_append, removeTxs, hget, hrm, ih hrest]

/-- The transactions of a block come off last first, each leaving the database it was added
to. -/
theorem removeTxs_addTxs : ∀ {ps : List (Nat × Transaction)} {db dbN : BlockchainLMDB} {n n' : Nat},
    TipWithinPruned db → (∀ p ∈ ps, AmountsAgree p.2) → addTxs ps db n = .ok (dbN, n') →
    removeTxs (ps.map Prod.fst).reverse dbN = .ok (db, (ps.map Prod.snd).reverse)
  | [], db, dbN, n, n', _, _, h => by
    obtain ⟨rfl, rfl⟩ := Prod.mk.inj (Except.ok.inj h)
    rfl
  | (txHash, tx) :: ps, db, dbN, n, n', hinv, hagree, h => by
    simp only [addTxs] at h
    split at h
    · cases h
    · next db₁ hadd =>
      obtain ⟨hget, hrm⟩ := removeTransaction_addTransaction hinv (hagree _ List.mem_cons_self) hadd
      have hrest := removeTxs_addTxs (hinv.addTransaction hadd)
        (fun p hp => hagree p (List.mem_cons_of_mem _ hp)) h
      have hlast : removeTxs [txHash] db₁ = .ok (db, [tx]) := by
        simp [removeTxs, hget, hrm]
      simpa using removeTxs_append hrest hlast

theorem TipWithinPruned.addTxs : ∀ {ps : List (Nat × Transaction)} {db dbN : BlockchainLMDB}
    {n n' : Nat}, TipWithinPruned db → BlockchainDB.addTxs ps db n = .ok (dbN, n') → TipWithinPruned dbN
  | [], db, dbN, n, n', hinv, h => by
    obtain ⟨rfl, rfl⟩ := Prod.mk.inj (Except.ok.inj h)
    exact hinv
  | (txHash, tx) :: ps, db, dbN, n, n', hinv, h => by
    simp only [BlockchainDB.addTxs] at h
    split at h
    · cases h
    · next db₁ hadd => exact TipWithinPruned.addTxs (hinv.addTransaction hadd) h

/-- What `add_block` did when it accepted a block: the miner transaction, the others, then the
block's own entries. -/
theorem addBlock_eq_ok {blk : Block} {w ltw cd cg height : Nat} {txs : List Transaction}
    (h : addBlock db blk w ltw cd cg txs = .ok (height, db')) :
    blk.txHashes.length = txs.length ∧ ∃ dbM dbT numRctOuts,
      addTransaction db blk.minerTx blk.minerTx.hash = .ok dbM ∧
      addTxs (blk.txHashes.zip txs) dbM (if blk.minerTx.version = 2 then blk.minerTx.vout.length else 0) =
        .ok (dbT, numRctOuts) ∧
      dbT.addBlock blk w ltw cd cg numRctOuts blk.hash = .ok db' := by
  unfold addBlock at h
  split at h
  · cases h
  · next hlen =>
    split at h
    · cases h
    · next dbM hminer =>
      dsimp only at h
      generalize hn : (if blk.minerTx.version = 2 then blk.minerTx.vout.length else 0) = n at h
      split at h
      · cases h
      · next dbT numRctOuts htxs =>
        split at h
        · cases h
        · next dbN hblock =>
          obtain ⟨-, rfl⟩ := Prod.mk.inj (Except.ok.inj h)
          exact ⟨not_not.mp hlen, dbM, dbT, numRctOuts, hminer, hn ▸ htxs, hblock⟩

theorem TipWithinPruned.addBlock {blk : Block} {w ltw cd cg height : Nat} {txs : List Transaction}
    (hinv : TipWithinPruned db) (h : BlockchainDB.addBlock db blk w ltw cd cg txs = .ok (height, db')) :
    TipWithinPruned db' := by
  obtain ⟨-, dbM, dbT, numRctOuts, hminer, htxs, hblock⟩ := addBlock_eq_ok h
  have hinvT := (hinv.addTransaction hminer).addTxs htxs
  obtain ⟨-, -, -, bi, -, rfl⟩ := BlockchainLMDB.addBlock_eq_ok hblock
  exact hinvT

theorem Reachable.tipWithinPruned {pruningSeed : Nat} (h : Reachable pruningSeed db) :
    TipWithinPruned db := by
  induction h with
  | empty => intro txId hk; simp [BlockchainLMDB.empty, SortedMap.empty, SortedMap.find?] at hk
  | addBlock _ hadd ih => exact ih.addBlock hadd

/-- A coinbase block on an empty chain, and a block above it whose second transaction spends a key
image: a chain of two blocks. -/
def coinbaseBlock : Block := ⟨1, 0, 0, ⟨2, 0, [.gen 0], [⟨10, .toKey 5⟩], [], [], 3, 0⟩, [], 7⟩

def spendTx : Transaction := ⟨1, 0, [.toKey 10 100], [⟨10, .toKey 9⟩], [], [1, 2], 11, 0⟩

def spendBlock : Block := ⟨1, 0, 7, ⟨2, 0, [.gen 1], [⟨20, .toKey 6⟩], [], [], 8, 0⟩, [11], 12⟩

/-- A block with no other transaction whose miner transaction has one output that
`add_transaction` stores under another amount than `remove_tx_outputs` looks it up under:
`pop_block` throws on it right after `add_block` accepted it, when the database has no output of
the looked-up amount. -/
theorem popBlock_addBlock_of_amount_ne {blk : Block} {w ltw cd cg height : Nat} {vout : TxOut}
    (hadd : addBlock db blk w ltw cd cg [] = .ok (height, db')) (hvout : blk.minerTx.vout = [vout])
    (hne : (if isMinerTx blk.minerTx.vin && blk.minerTx.version == 2 then 0 else vout.amount) ≠
      (if isPseudoRct blk.minerTx then 0 else vout.amount))
    (hnone : ∀ i, db.outputAmounts.find? (toLex (if isPseudoRct blk.minerTx then 0 else vout.amount, i)) =
      none) :
    popBlock db' =
      .error "Attempting to get an output index by amount and amount index, but amount not found" := by
  obtain ⟨hlen, dbM, dbT, numRctOuts, hminer, htxs, hblock⟩ := addBlock_eq_ok hadd
  have hnil : blk.txHashes = [] := List.eq_nil_of_length_eq_zero hlen
  simp only [hnil, List.zip_nil_left, addTxs] at htxs
  obtain ⟨rfl, -⟩ := Prod.mk.inj (Except.ok.inj htxs)
  obtain ⟨htop, hrmB⟩ := BlockchainLMDB.removeBlock_addBlock hblock
  simp only [popBlock, htop, hrmB, hnil, List.reverse_nil, removeTxs,
    removeTransaction_addTransaction_of_amount_ne hvout hne hnone hminer]

/-- A version 2 miner transaction with two `txin_gen` inputs and one output of amount `10`. -/
def twoGenBlock : Block := ⟨1, 0, 0, ⟨2, 0, [.gen 0, .gen 0], [⟨10, .toKey 5⟩], [], [], 3, 0⟩, [], 7⟩

end BlockchainDB

end Sumokoin.BlockchainDb
