import Sumokoin.Core.FillBlockTemplate
import Sumokoin.Basic.BlockRewardSpec

/-! What `fill_block_template` builds. A pass of its loop either leaves the template as it is or
takes the transaction (`fillStep_cases`); from that, the whole walk keeps `Books`, the weight and
the fee of the template as the sums over the ids taken, wrapped like the `uint64_t` sums, and the
weight within `max_total_weight`, and for transactions the pool admits it keeps `Spent`: the key
image set is the images of the ids taken, which spend disjoint images and are distinct. The
template of `create_block_template` at a height is the walk at that height modulo `256`. -/

namespace Sumokoin.Core.TxPool

open Sumokoin.BlockchainDb Sumokoin.Basic

/-- The weight of the record of an id, `0` without one. -/
def recordWeight (txpool : Nat → Option TxpoolTxMeta) (txid : Nat) : Nat :=
  ((txpool txid).map TxpoolTxMeta.weight).getD 0

/-- The fee of the record of an id, `0` without one. -/
def recordFee (txpool : Nat → Option TxpoolTxMeta) (txid : Nat) : Nat :=
  ((txpool txid).map TxpoolTxMeta.fee).getD 0

/-- Two states of the pool's records with the same weights and fees. -/
def SameBooks (txpool txpool' : Nat → Option TxpoolTxMeta) : Prop :=
  ∀ txid, recordWeight txpool' txid = recordWeight txpool txid ∧
    recordFee txpool' txid = recordFee txpool txid

theorem SameBooks.refl (txpool : Nat → Option TxpoolTxMeta) : SameBooks txpool txpool :=
  fun _ => ⟨rfl, rfl⟩

theorem SameBooks.trans {p q r : Nat → Option TxpoolTxMeta} (pq : SameBooks p q)
    (qr : SameBooks q r) : SameBooks p r :=
  fun txid => ⟨(qr txid).1.trans (pq txid).1, (qr txid).2.trans (pq txid).2⟩

theorem SameBooks.map_recordWeight {p q : Nat → Option TxpoolTxMeta} (same : SameBooks p q)
    (txids : List Nat) : txids.map (recordWeight q) = txids.map (recordWeight p) :=
  List.map_congr_left fun txid _ => (same txid).1

theorem SameBooks.map_recordFee {p q : Nat → Option TxpoolTxMeta} (same : SameBooks p q)
    (txids : List Nat) : txids.map (recordFee q) = txids.map (recordFee p) :=
  List.map_congr_left fun txid _ => (same txid).2

/-- A pass that leaves the template as it is. -/
structure Kept (s s' : FillState) : Prop where
  txHashes : s'.txHashes = s.txHashes
  totalWeight : s'.totalWeight = s.totalWeight
  fee : s'.fee = s.fee
  kImages : s'.kImages = s.kImages

theorem Kept.refl (s : FillState) : Kept s s := ⟨rfl, rfl, rfl, rfl⟩

/-- A pass that takes the transaction `txid` of record `txd`: the block stays within the bound
and none of its key images was taken. -/
structure Took (env : FillEnv) (medianWeight : Nat) (s s' : FillState) (txid : Nat)
    (txd : TxpoolTxMeta) : Prop where
  fits : (s.totalWeight + txd.weight) % uint64Modulus ≤ maxTotalWeight medianWeight
  fresh : haveKeyImages s.kImages (env.txOf txid).vin = false
  txHashes : s'.txHashes = s.txHashes ++ [txid]
  totalWeight : s'.totalWeight = (s.totalWeight + txd.weight) % uint64Modulus
  fee : s'.fee = (s.fee + txd.fee) % uint64Modulus
  kImages : s'.kImages = (appendKeyImages s.kImages (env.txOf txid).vin).2

section Step

variable {env : FillEnv} {medianWeight alreadyGeneratedCoins height : Nat}

theorem recordWeight_of_some {txpool : Nat → Option TxpoolTxMeta} {txid : Nat}
    {txd : TxpoolTxMeta} (found : txpool txid = some txd) : recordWeight txpool txid = txd.weight := by
  simp [recordWeight, found]

theorem recordFee_of_some {txpool : Nat → Option TxpoolTxMeta} {txid : Nat}
    {txd : TxpoolTxMeta} (found : txpool txid = some txd) : recordFee txpool txid = txd.fee := by
  simp [recordFee, found]

/-- Writing back the record of a readiness test keeps the books. -/
theorem sameBooks_withReadiness {txpool : Nat → Option TxpoolTxMeta} {txid : Nat}
    {txd : TxpoolTxMeta} (found : txpool txid = some txd) (checked : TxpoolTxMeta) :
    SameBooks txpool fun j => if j = txid then some (withReadiness txd checked) else txpool j := by
  intro j
  by_cases same : j = txid
  · subst same
    simp [recordWeight, recordFee, found, withReadiness]
  · simp [recordWeight, recordFee, same]

/-- The last lines of a pass keep the books, and either keep the template or take the
transaction when its key images are fresh. -/
theorem takeIfReady_cases (s : FillState) {txid : Nat} {txd : TxpoolTxMeta} (coinbase : Nat)
    (found : s.txpool txid = some txd) :
    let s' := takeIfReady env s txid txd coinbase
    SameBooks s.txpool s'.txpool ∧
      (Kept s s' ∨ (haveKeyImages s.kImages (env.txOf txid).vin = false ∧
        s'.txHashes = s.txHashes ++ [txid] ∧
        s'.totalWeight = (s.totalWeight + txd.weight) % uint64Modulus ∧
        s'.fee = (s.fee + txd.fee) % uint64Modulus ∧
        s'.kImages = (appendKeyImages s.kImages (env.txOf txid).vin).2)) := by
  simp only [takeIfReady]
  generalize (env.isTransactionReadyToGo txd txid (env.txOf txid)).1 = ready
  generalize (env.isTransactionReadyToGo txd txid (env.txOf txid)).2 = checked
  -- the record written back, if it changed, has the weight and the fee of `txd`
  have written : SameBooks s.txpool
      (if withReadiness txd checked ≠ txd then
        { s with txpool := fun j => if j = txid then some (withReadiness txd checked)
          else s.txpool j } else s).txpool := by
    split_ifs
    · exact sameBooks_withReadiness found checked
    · exact SameBooks.refl _
  have fields : Kept s (if withReadiness txd checked ≠ txd then
      { s with txpool := fun j => if j = txid then some (withReadiness txd checked)
        else s.txpool j } else s) := by
    split_ifs <;> exact ⟨rfl, rfl, rfl, rfl⟩
  generalize (if withReadiness txd checked ≠ txd then
      { s with txpool := fun j => if j = txid then some (withReadiness txd checked)
        else s.txpool j } else s) = s1 at written fields ⊢
  split_ifs with notReady taken
  · exact ⟨written, .inl fields⟩
  · exact ⟨written, .inl fields⟩
  · rw [fields.kImages] at taken
    refine ⟨written, .inr ⟨by simpa using taken, ?_, ?_, ?_, ?_⟩⟩
    · simp only [fields.txHashes]
    · simp only [fields.totalWeight, withReadiness]
    · simp only [fields.fee, withReadiness]
    · simp only [fields.kImages]

/-- One pass keeps the books, and either keeps the template or takes the transaction. -/
theorem fillStep_cases (s : FillState) (txid : Nat) :
    let s' := fillStep env medianWeight alreadyGeneratedCoins height s txid
    SameBooks s.txpool s'.txpool ∧
      (Kept s s' ∨ ∃ txd, s.txpool txid = some txd ∧ Took env medianWeight s s' txid txd) := by
  unfold fillStep
  split
  · exact ⟨SameBooks.refl _, .inl (Kept.refl s)⟩
  · rename_i txd found
    -- the relay method, the pruning and the weight bound skip the transaction
    split_ifs with relay pruned heavy
    · exact ⟨SameBooks.refl _, .inl (Kept.refl s)⟩
    · exact ⟨SameBooks.refl _, .inl (Kept.refl s)⟩
    · exact ⟨SameBooks.refl _, .inl (Kept.refl s)⟩
    · split
      · exact ⟨SameBooks.refl _, .inl (Kept.refl s)⟩
      · dsimp only
        split_ifs with low
        · exact ⟨SameBooks.refl _, .inl (Kept.refl s)⟩
        · obtain ⟨books, kept | ⟨fresh, hashes, weight, fee, images⟩⟩ :=
            @takeIfReady_cases env s _ _ _ found
          · exact ⟨books, .inl kept⟩
          · exact ⟨books, .inr ⟨txd, found, ⟨by omega, fresh, hashes, weight, fee, images⟩⟩⟩

end Step

/-! ### Key images -/

/-- What the pool admits of a transaction, by the checks of `core::check_tx_semantic`: some input,
every input a `txin_to_key`, and no key image twice. -/
structure Admitted (tx : Transaction) : Prop where
  spends : tx.vin ≠ []
  toKey : ∀ input ∈ tx.vin, (inputKeyImage input).isSome
  distinct : (keyImagesOf tx).Nodup

/-- On inputs that are all `txin_to_key`, `have_key_images` looks at every image. -/
theorem haveKeyImages_eq_false {kImages : List Nat} {vin : List TxIn}
    (toKey : ∀ input ∈ vin, (inputKeyImage input).isSome) :
    haveKeyImages kImages vin = false ↔ ∀ k ∈ vin.filterMap inputKeyImage, k ∉ kImages := by
  induction vin with
  | nil => simp [haveKeyImages]
  | cons input vin ih =>
    have rest := ih fun later mem => toKey later (List.mem_cons_of_mem _ mem)
    cases input with
    | toKey amount kImage =>
      by_cases taken : kImage ∈ kImages
      · simp [haveKeyImages, inputKeyImage, taken]
      · simp [haveKeyImages, inputKeyImage, taken, rest]
    | gen height => simpa [inputKeyImage] using toKey _ List.mem_cons_self
    | other => simpa [inputKeyImage] using toKey _ List.mem_cons_self

/-- On inputs that are all `txin_to_key`, with distinct images none of which is in the set,
`append_key_images` adds them all. -/
theorem mem_appendKeyImages {vin : List TxIn}
    (toKey : ∀ input ∈ vin, (inputKeyImage input).isSome)
    (distinct : (vin.filterMap inputKeyImage).Nodup) :
    ∀ {kImages : List Nat}, (∀ k ∈ vin.filterMap inputKeyImage, k ∉ kImages) →
      ∀ k, k ∈ (appendKeyImages kImages vin).2 ↔ k ∈ kImages ∨ k ∈ vin.filterMap inputKeyImage := by
  induction vin with
  | nil => simp [appendKeyImages]
  | cons input vin ih =>
    intro kImages fresh k
    have toKeyRest := fun later mem => toKey later (List.mem_cons_of_mem _ mem)
    cases input with
    | toKey amount kImage =>
      simp only [List.filterMap_cons, inputKeyImage, List.nodup_cons] at distinct fresh ⊢
      have new : kImage ∉ kImages := fresh kImage List.mem_cons_self
      -- the image goes in first, and the rest are fresh for the set that holds it
      have freshRest : ∀ later ∈ vin.filterMap inputKeyImage, later ∉ kImage :: kImages := by
        intro later mem
        rw [List.mem_cons, not_or]
        exact ⟨fun same => distinct.1 (same ▸ mem), fresh later (List.mem_cons_of_mem _ mem)⟩
      simp only [appendKeyImages, new, if_false]
      rw [ih toKeyRest distinct.2 freshRest k, List.mem_cons, List.mem_cons]
      tauto
    | gen height => simpa [inputKeyImage] using toKey _ List.mem_cons_self
    | other => simpa [inputKeyImage] using toKey _ List.mem_cons_self

/-- An admitted transaction spends some key image. -/
theorem Admitted.exists_keyImage {tx : Transaction} (admitted : Admitted tx) :
    ∃ k, k ∈ keyImagesOf tx := by
  obtain ⟨input, vin, spent⟩ := List.exists_cons_of_ne_nil admitted.spends
  obtain ⟨k, image⟩ := Option.isSome_iff_exists.mp
    (admitted.toKey input (spent ▸ List.mem_cons_self))
  exact ⟨k, by simp [keyImagesOf, spent, image]⟩

/-! ### The walk -/

/-- The accounts of the template against the pool's records `txpool` before the walk: the
records keep their weights and fees, `total_weight` and `fee` are the `uint64_t` sums over the
ids taken, and the weight is within `max_total_weight`. -/
structure Books (txpool : Nat → Option TxpoolTxMeta) (medianWeight : Nat) (s : FillState) :
    Prop where
  records : SameBooks txpool s.txpool
  totalWeight : s.totalWeight = (s.txHashes.map (recordWeight txpool)).sum % uint64Modulus
  fee : s.fee = (s.txHashes.map (recordFee txpool)).sum % uint64Modulus
  bounded : s.totalWeight ≤ maxTotalWeight medianWeight

/-- The key images of the template: the set holds the images of the ids taken, the ids spend
disjoint images, and no id is taken twice. -/
structure Spent (env : FillEnv) (s : FillState) : Prop where
  kImages : ∀ k, k ∈ s.kImages ↔ ∃ txid ∈ s.txHashes, k ∈ keyImagesOf (env.txOf txid)
  disjoint : (s.txHashes.map fun txid => keyImagesOf (env.txOf txid)).Pairwise List.Disjoint
  nodup : s.txHashes.Nodup

section Walk

variable {env : FillEnv} {medianWeight alreadyGeneratedCoins height : Nat}
  {txpool : Nat → Option TxpoolTxMeta}

/-- A `uint64_t` sum that takes one more term. -/
theorem sum_append_mod (terms : List Nat) (term : Nat) :
    ((terms ++ [term]).sum) % uint64Modulus = (terms.sum % uint64Modulus + term) % uint64Modulus := by
  rw [List.sum_append, List.sum_singleton, Nat.mod_add_mod]

theorem Books.start (bestCoinbase : Nat) :
    Books txpool medianWeight ⟨txpool, [], 0, 0, bestCoinbase, []⟩ :=
  ⟨SameBooks.refl txpool, by simp, by simp, Nat.zero_le _⟩

theorem Books.step {s : FillState} (books : Books txpool medianWeight s) (txid : Nat) :
    Books txpool medianWeight (fillStep env medianWeight alreadyGeneratedCoins height s txid) := by
  obtain ⟨same, kept | ⟨txd, found, took⟩⟩ :=
    @fillStep_cases env medianWeight alreadyGeneratedCoins height s txid
  · exact ⟨books.records.trans same, by rw [kept.totalWeight, kept.txHashes, books.totalWeight],
      by rw [kept.fee, kept.txHashes, books.fee], kept.totalWeight ▸ books.bounded⟩
  · -- the record taken has the weight and the fee that the pool had before the walk
    have weight : recordWeight txpool txid = txd.weight :=
      (books.records txid).1.symm.trans (recordWeight_of_some found)
    have fee : recordFee txpool txid = txd.fee :=
      (books.records txid).2.symm.trans (recordFee_of_some found)
    refine ⟨books.records.trans same, ?_, ?_, took.totalWeight ▸ took.fits⟩
    · rw [took.totalWeight, took.txHashes, List.map_append, List.map_singleton, sum_append_mod,
        weight, ← books.totalWeight]
    · rw [took.fee, took.txHashes, List.map_append, List.map_singleton, sum_append_mod, fee,
        ← books.fee]

theorem Spent.start (bestCoinbase : Nat) : Spent env ⟨txpool, [], 0, 0, bestCoinbase, []⟩ :=
  ⟨by simp, List.Pairwise.nil, List.nodup_nil⟩

theorem Spent.step (admitted : ∀ txid, Admitted (env.txOf txid)) {s : FillState}
    (spent : Spent env s) (txid : Nat) :
    Spent env (fillStep env medianWeight alreadyGeneratedCoins height s txid) := by
  obtain ⟨-, kept | ⟨txd, -, took⟩⟩ :=
    @fillStep_cases env medianWeight alreadyGeneratedCoins height s txid
  · exact ⟨fun k => by rw [kept.kImages, kept.txHashes, spent.kImages],
      by rw [kept.txHashes]; exact spent.disjoint, by rw [kept.txHashes]; exact spent.nodup⟩
  · have tx := admitted txid
    -- no image of the transaction was in the set, so none is an image of an id taken
    have fresh := (haveKeyImages_eq_false tx.toKey).mp took.fresh
    have apart : ∀ earlier ∈ s.txHashes, ∀ k ∈ keyImagesOf (env.txOf earlier),
        k ∉ keyImagesOf (env.txOf txid) := fun earlier mem k image theirs =>
      fresh k theirs ((spent.kImages k).mpr ⟨earlier, mem, image⟩)
    refine ⟨fun k => ?_, ?_, ?_⟩
    · rw [took.kImages, mem_appendKeyImages tx.toKey tx.distinct fresh, spent.kImages,
        took.txHashes]
      simp only [List.mem_append, List.mem_singleton]
      constructor
      · rintro (⟨earlier, mem, image⟩ | image)
        · exact ⟨earlier, .inl mem, image⟩
        · exact ⟨txid, .inr rfl, image⟩
      · rintro ⟨earlier, mem | rfl, image⟩
        · exact .inl ⟨earlier, mem, image⟩
        · exact .inr image
    · rw [took.txHashes, List.map_append, List.pairwise_append]
      refine ⟨spent.disjoint, List.pairwise_singleton _ _, ?_⟩
      intro images mem theirs single
      obtain ⟨earlier, earlierMem, rfl⟩ := List.mem_map.mp mem
      rw [List.map_singleton, List.mem_singleton] at single
      subst single
      exact fun k image theirImage => apart earlier earlierMem k image theirImage
    · -- the transaction spends an image, which an id taken before would have put in the set
      rw [took.txHashes, List.nodup_append]
      refine ⟨spent.nodup, List.nodup_singleton _, ?_⟩
      intro earlier earlierMem taken takenMem same
      rw [List.mem_singleton] at takenMem
      subst takenMem same
      obtain ⟨k, image⟩ := tx.exists_keyImage
      exact apart earlier earlierMem k image image

theorem Books.foldl {s : FillState} (books : Books txpool medianWeight s) (sorted : List Nat) :
    Books txpool medianWeight
      (sorted.foldl (fillStep env medianWeight alreadyGeneratedCoins height) s) := by
  induction sorted generalizing s with
  | nil => exact books
  | cons txid rest ih => exact ih (books.step txid)

theorem Spent.foldl (admitted : ∀ txid, Admitted (env.txOf txid)) {s : FillState}
    (spent : Spent env s) (sorted : List Nat) :
    Spent env (sorted.foldl (fillStep env medianWeight alreadyGeneratedCoins height) s) := by
  induction sorted generalizing s with
  | nil => exact spent
  | cons txid rest ih => exact ih (spent.step admitted txid)

/-- Whatever the heights, a template that `fill_block_template` returns holds the walk's ids after
those it was given, with the walk's books. -/
theorem fillBlockTemplate_books {blTxHashes : List Nat} {expectedReward : Nat} {byteHeight : UInt8}
    {sorted : List Nat} {filled : BlockTemplateFill}
    (fill : fillBlockTemplate env blTxHashes medianWeight alreadyGeneratedCoins expectedReward
      byteHeight txpool sorted = some filled) :
    ∃ s : FillState, Books txpool medianWeight s ∧ filled.txHashes = blTxHashes ++ s.txHashes ∧
      filled.totalWeight = s.totalWeight ∧ filled.fee = s.fee ∧ filled.txpool = s.txpool := by
  unfold fillBlockTemplate at fill
  split at fill
  · cases fill
  · rename_i bestCoinbase _
    simp only [Option.some.injEq] at fill
    subst fill
    exact ⟨_, (Books.start bestCoinbase).foldl sorted, rfl, rfl, rfl, rfl⟩

end Walk

/-- The template that `create_block_template` obtains at the block height `height`: the walk
whose every reward, the empty block's included, is the one at `height % 256`, with the expected
reward of the first emission period; the ids taken are distinct and spend disjoint key images,
and the weight and the fee are the `uint64_t` sums of their records, the weight within
`max_total_weight`. -/
theorem fillBlockTemplate_spec (env : FillEnv) (blTxHashes : List Nat)
    (medianWeight alreadyGeneratedCoins expectedReward height : Nat)
    (txpool : Nat → Option TxpoolTxMeta) (sorted : List Nat)
    (admitted : ∀ txid, Admitted (env.txOf txid)) :
    ∃ s : FillState,
      s = fillTxs env medianWeight alreadyGeneratedCoins (height % 256)
        (baseReward env.moneySupplyShare alreadyGeneratedCoins (height % 256)) txpool sorted ∧
      fillBlockTemplate env blTxHashes medianWeight alreadyGeneratedCoins expectedReward
          (UInt8.ofNat height) txpool sorted =
        some ⟨blTxHashes ++ s.txHashes, s.totalWeight, s.fee,
          (42930000000 + s.bestCoinbase) % uint64Modulus, s.txpool⟩ ∧
      s.txHashes.Nodup ∧
      (s.txHashes.map fun txid => keyImagesOf (env.txOf txid)).Pairwise List.Disjoint ∧
      s.totalWeight = (s.txHashes.map (recordWeight txpool)).sum % uint64Modulus ∧
      s.totalWeight ≤ maxTotalWeight medianWeight ∧
      s.fee = (s.txHashes.map (recordFee txpool)).sum % uint64Modulus := by
  have books : Books txpool medianWeight (fillTxs env medianWeight alreadyGeneratedCoins
      (height % 256) (baseReward env.moneySupplyShare alreadyGeneratedCoins (height % 256))
      txpool sorted) := (Books.start _).foldl sorted
  have spent : Spent env (fillTxs env medianWeight alreadyGeneratedCoins (height % 256)
      (baseReward env.moneySupplyShare alreadyGeneratedCoins (height % 256)) txpool sorted) :=
    (Spent.start _).foldl admitted sorted
  refine ⟨_, rfl, ?_, spent.nodup, spent.disjoint, books.totalWeight, books.bounded, books.fee⟩
  -- the `uint8_t` height is below every height of the later emission periods
  have byte : (UInt8.ofNat height).toNat = height % 256 := by simp
  have first : height % 256 < 460215 := by omega
  have second : ¬460215 ≤ height % 256 := by omega
  simp only [fillBlockTemplate, byte, getBlockReward_zero, first, second, if_true, ge_iff_le,
    false_and, if_false]
  -- the third and the fourth period start later still
  rw [if_neg (by omega), if_neg (by omega)]

/-- A pool of one transaction of weight `400000` and fee `2 * 10 ^ 9` at the median of the full
reward zone, at height `256`: the walk at that height takes it, since the reward it loses is less
than its fee, but `create_block_template` compares the rewards at height `0`, the genesis reward,
and leaves it out. -/
theorem fillBlockTemplate_spec_genesisReward :
    (fillBlockTemplate
        ⟨fun _ => 0, false, fun txid => ⟨2, 0, [.toKey 0 txid], [], [], [], txid, 0⟩,
          fun txd _ _ => (true, txd)⟩ [] cryptonoteBlockGrantedFullRewardZone 0 0
        (UInt8.ofNat 256)
        (fun txid => if txid = 0 then some ⟨0, 0, 400000, 2000000000, 0, 0, 0, 0, false, false,
          false, false, false, false, false, false⟩ else none) [0]).map
        BlockTemplateFill.txHashes = some [] ∧
      (fillTxs
        ⟨fun _ => 0, false, fun txid => ⟨2, 0, [.toKey 0 txid], [], [], [], txid, 0⟩,
          fun txd _ _ => (true, txd)⟩ cryptonoteBlockGrantedFullRewardZone 0 256
        (baseReward (fun _ => 0) 0 256)
        (fun txid => if txid = 0 then some ⟨0, 0, 400000, 2000000000, 0, 0, 0, 0, false, false,
          false, false, false, false, false, false⟩ else none) [0]).txHashes = [0] := by
  obtain ⟨s, walk, fill, -⟩ := fillBlockTemplate_spec
    ⟨fun _ => 0, false, fun txid => ⟨2, 0, [.toKey 0 txid], [], [], [], txid, 0⟩,
      fun txd _ _ => (true, txd)⟩ [] cryptonoteBlockGrantedFullRewardZone 0 0 256
    (fun txid => if txid = 0 then some ⟨0, 0, 400000, 2000000000, 0, 0, 0, 0, false, false,
      false, false, false, false, false, false⟩ else none) [0]
    (fun txid => ⟨by simp, by simp [inputKeyImage], by simp [keyImagesOf, inputKeyImage]⟩)
  rw [fill, walk]
  exact ⟨by decide, by decide⟩

end Sumokoin.Core.TxPool
