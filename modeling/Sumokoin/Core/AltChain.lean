import Sumokoin.Core.DifficultyCache

/-! Alternative chains in `blockchain.cpp`: the blocks that `build_alt_chain` walks back to the
main chain, the timestamps it collects, and `get_next_difficulty_for_alternative_chain`, which
reads the main chain below the fork point and the alternative blocks above it. Against the chain
that holds the same blocks, its window is the one `get_difficulty_for_next_block` loads, so the two
difficulties agree, except where the main path returns the fixed difficulty of a mainnet reset
height. -/

namespace Sumokoin.Core

open Sumokoin.Chain Sumokoin.Difficulty

/-- What the modelled code reads of a `block_extended_info`: its height, the timestamp and parent
of its block, and its cumulative difficulty. -/
structure BlockExtendedInfo where
  height : Nat
  timestamp : Nat
  prevId : Nat
  cumulativeDifficulty : Nat
  deriving DecidableEq, Repr

/-- `complete_timestamps_vector`: the timestamps of heights `start_top_height` down to
`stop_offset + 1` are pushed until the vector holds `BLOCKCHAIN_TIMESTAMP_CHECK_WINDOW` entries;
the result is `false`, with the vector untouched, when the start is not below the height. -/
def completeTimestampsVector (db : Db) (startTopHeight : Nat) (timestamps : List Nat) :
    Bool × List Nat :=
  if timestamps.length ≥ blockchainTimestampCheckWindow then (true, timestamps)
  else
    let needElements := blockchainTimestampCheckWindow - timestamps.length
    if startTopHeight < db.height then
      let stopOffset := if startTopHeight > needElements then startTopHeight - needElements else 0
      (true, timestamps ++ ((List.range' (stopOffset + 1) (startTopHeight - stopOffset)).reverse.map
        db.getBlockTimestamp))
    else (false, timestamps)

/-- The timestamps `build_alt_chain` collects for a block with parent `prevId`, where `altChain` is
what its walk through the alternative blocks finds, front towards the main chain. `none` is the
`false` of a failed connection check and the throw of `get_block_hash_from_height`; the result of
`complete_timestamps_vector` is not checked by the source. -/
def buildAltChain (db : Db) (prevId : Nat) (altChain : List BlockExtendedInfo) :
    Option (List Nat) :=
  let timestamps := (altChain.map BlockExtendedInfo.timestamp).reverse
  match altChain with
  | front :: _ =>
    if db.height > front.height then
      match db.getBlockHeight front.prevId, db.getBlockHashFromHeight (sub64 front.height 1) with
      | some prevHeight, .ok h =>
        if h = front.prevId then some (completeTimestampsVector db prevHeight timestamps).2
        else none
      | _, _ => none
    else none
  | [] =>
    match db.getBlockHeight prevId with
    | some prevHeight => some (completeTimestampsVector db prevHeight timestamps).2
    | none => none

/-- The main chain window of `n` blocks that ends at height `p`, oldest first. -/
def windowEndingAt (db : Db) (p n : Nat) : List Nat :=
  (List.range' (p + 1 - n) n).map db.getBlockTimestamp

theorem completeTimestampsVector_nil (db : Db) {p : Nat} (hp : p < db.height) :
    completeTimestampsVector db p [] =
      (true, (windowEndingAt db p (min p blockchainTimestampCheckWindow)).reverse) := by
  have hw : blockchainTimestampCheckWindow = 60 := rfl
  unfold completeTimestampsVector windowEndingAt
  rw [if_neg (by simp [hw]), if_pos hp]
  simp only [List.nil_append, List.map_reverse, List.length_nil, Nat.sub_zero, hw]
  -- the loop runs from `p` down to `stop_offset + 1`, at most 60 heights and never height 0
  congr 4
  · split <;> omega
  · split <;> omega

theorem buildAltChain_nil (db : Db) {prevId p : Nat} (hp : db.getBlockHeight prevId = some p) :
    buildAltChain db prevId [] =
      some (windowEndingAt db p (min p blockchainTimestampCheckWindow)).reverse := by
  simp only [buildAltChain, hp, List.map_nil, List.reverse_nil,
    completeTimestampsVector_nil db (Db.getBlockHeight_lt hp)]

/-- The window `get_next_difficulty_for_alternative_chain` hands to the difficulty algorithm. With
fewer alternative blocks than `count`, the main chain blocks from `main_chain_start_offset` (never
the genesis block) up to the fork point, then the alternative blocks; otherwise the newest `count`
alternative blocks. `none` is the failed size check. -/
def alternativeChainWindow (db : Db) (count : Nat) (altChain : List BlockExtendedInfo)
    (bei : BlockExtendedInfo) : Option (List Nat × List Nat) :=
  if altChain.length < count then
    let mainChainStopOffset := match altChain with
      | front :: _ => front.height
      | [] => bei.height
    let mainChainCount := min (count - min count altChain.length) mainChainStopOffset
    let mainChainStartOffset := mainChainStopOffset - mainChainCount
    let mainChainStartOffset :=
      if mainChainStartOffset = 0 then mainChainStartOffset + 1 else mainChainStartOffset
    let heights := List.range' mainChainStartOffset (mainChainStopOffset - mainChainStartOffset)
    if altChain.length + heights.length ≤ count then
      some (heights.map db.getBlockTimestamp ++ altChain.map BlockExtendedInfo.timestamp,
        heights.map db.getBlockCumulativeDifficulty ++
          altChain.map BlockExtendedInfo.cumulativeDifficulty)
    else none
  else
    let newest := altChain.drop (altChain.length - count)
    some (newest.map BlockExtendedInfo.timestamp, newest.map BlockExtendedInfo.cumulativeDifficulty)

/-- `get_next_difficulty_for_alternative_chain` for the block `bei`, at the version
`get_current_hard_fork_version()` reports for the main chain. The `false` of the failed size check
converts to the difficulty `0`. -/
def getNextDifficultyForAlternativeChain (nextDifficultyV3 : List Nat → List Nat → Nat → Nat)
    (hfVersion : Nat) (bc : Blockchain) (altChain : List BlockExtendedInfo)
    (bei : BlockExtendedInfo) : Nat :=
  if bc.fixedDifficulty ≠ 0 then (if bc.db.height ≠ 0 then bc.fixedDifficulty else 1)
  else
    match alternativeChainWindow bc.db (difficultyBlocksCountFor hfVersion) altChain bei with
    | some (timestamps, cumulativeDifficulties) =>
      nextDifficultyFor nextDifficultyV3 hfVersion timestamps cumulativeDifficulties
        difficultyTarget
    | none => 0

/-- `db'` is the chain on which `bei` is the next block and that holds the blocks of `db` below the
fork point `f` and the alternative blocks above it. -/
structure AltChainPrefix (db db' : Db) (f : Nat) (altChain : List BlockExtendedInfo)
    (bei : BlockExtendedInfo) : Prop where
  forkPoint : (match altChain with
    | front :: _ => front.height
    | [] => bei.height) = f
  height : bei.height = f + altChain.length
  dbHeight : db'.height = bei.height
  main : ∀ h < f, db'.getBlockTimestamp h = db.getBlockTimestamp h ∧
    db'.getBlockCumulativeDifficulty h = db.getBlockCumulativeDifficulty h
  alt : ∀ i (hi : i < altChain.length),
    db'.getBlockTimestamp (f + i) = altChain[i].timestamp ∧
      db'.getBlockCumulativeDifficulty (f + i) = altChain[i].cumulativeDifficulty

section AltChainPrefix

variable {db db' : Db} {f : Nat} {altChain : List BlockExtendedInfo} {bei : BlockExtendedInfo}

theorem AltChainPrefix.map_alt (hp : AltChainPrefix db db' f altChain bei) :
    ((List.range' f altChain.length).map db'.getBlockTimestamp,
        (List.range' f altChain.length).map db'.getBlockCumulativeDifficulty) =
      (altChain.map BlockExtendedInfo.timestamp,
        altChain.map BlockExtendedInfo.cumulativeDifficulty) := by
  rw [Prod.mk.injEq]
  constructor <;> apply List.ext_getElem (by simp) <;> intro i hi _ <;>
    simp only [List.getElem_map, List.getElem_range', Nat.one_mul]
  · exact (hp.alt i (by simpa using hi)).1
  · exact (hp.alt i (by simpa using hi)).2

theorem AltChainPrefix.map_main (hp : AltChainPrefix db db' f altChain bei) {s : Nat} :
    ((List.range' s (f - s)).map db'.getBlockTimestamp,
        (List.range' s (f - s)).map db'.getBlockCumulativeDifficulty) =
      ((List.range' s (f - s)).map db.getBlockTimestamp,
        (List.range' s (f - s)).map db.getBlockCumulativeDifficulty) := by
  have hbelow : ∀ k ∈ List.range' s (f - s), k < f := fun k hk => by
    rw [List.mem_range'_1] at hk
    omega
  rw [Prod.mk.injEq]
  exact ⟨List.map_congr_left fun k hk => (hp.main k (hbelow k hk)).1,
    List.map_congr_left fun k hk => (hp.main k (hbelow k hk)).2⟩

/-- Read against the chain that holds the same blocks, the alternative window is the window that
the main chain loads at the new block's height: the main chain part and the alternative part are
the two halves of one run of heights. -/
theorem alternativeChainWindow_eq_loadWindow (hp : AltChainPrefix db db' f altChain bei)
    (hf : 1 ≤ f) (count : Nat) :
    alternativeChainWindow db count altChain bei = some (loadWindow db' bei.height count) := by
  have hwin := windowHeights_eq bei.height count
  rw [hp.height] at hwin
  unfold alternativeChainWindow loadWindow
  rw [hp.forkPoint, hp.height, hwin]
  by_cases hshort : altChain.length < count
  · -- the main chain blocks from `max 1 (h - count)` to the fork point, then the alternative ones
    have hstart : (if f - min (count - min count altChain.length) f = 0 then
        f - min (count - min count altChain.length) f + 1
        else f - min (count - min count altChain.length) f) =
        max 1 (f + altChain.length - count) := by split <;> omega
    have hsplit : List.range' (max 1 (f + altChain.length - count))
        (f + altChain.length - max 1 (f + altChain.length - count)) =
        List.range' (max 1 (f + altChain.length - count)) (f - max 1 (f + altChain.length - count))
          ++ List.range' f altChain.length := by
      rw [show f + altChain.length - max 1 (f + altChain.length - count) =
        (f - max 1 (f + altChain.length - count)) + altChain.length by omega,
        ← List.range'_append_1, show max 1 (f + altChain.length - count) +
          (f - max 1 (f + altChain.length - count)) = f by omega]
    have hmain := hp.map_main (s := max 1 (f + altChain.length - count))
    have halt := hp.map_alt
    rw [Prod.mk.injEq] at hmain halt
    simp only [if_pos hshort, hstart, List.length_range']
    rw [if_pos (by omega), hsplit, List.map_append, List.map_append, hmain.1, hmain.2, halt.1,
      halt.2]
  · -- the newest `count` alternative blocks, all above the fork point
    have hstart : max 1 (f + altChain.length - count) = f + (altChain.length - count) := by omega
    have hdrop : List.range' (f + (altChain.length - count))
        (f + altChain.length - (f + (altChain.length - count))) =
        (List.range' f altChain.length).drop (altChain.length - count) := by
      rw [List.drop_range']
      congr 1 <;> omega
    have halt := hp.map_alt
    rw [Prod.mk.injEq] at halt
    rw [if_neg hshort, hstart, hdrop, List.map_drop, List.map_drop, halt.1, halt.2]
    simp only [List.map_drop]

end AltChainPrefix

/-- The uncached main path on a state with no fixed difficulty, no remembered difficulty for its
top block and no reset at its height applies the algorithm to the window of its height. -/
theorem getDifficultyUncached_of_window (nd3 : List Nat → List Nat → Nat → Nat) (v : Nat)
    (bc : Blockchain) (hfixed : bc.fixedDifficulty = 0)
    (hmemo : bc.db.topBlockHash ≠ bc.difficultyForNextBlockTopHash)
    (hreset : resetDifficulty bc.nettype bc.db.height = none) :
    getDifficultyUncached nd3 v bc =
      nextDifficultyFor nd3 v (loadWindow bc.db bc.db.height (difficultyBlocksCountFor v)).1
        (loadWindow bc.db bc.db.height (difficultyBlocksCountFor v)).2 difficultyTarget := by
  rw [getDifficultyUncached, getDifficultyForNextBlock_of_window nd3 v
    { bc with timestampsAndDifficultiesHeight := 0 } hfixed hmemo hreset]
  dsimp only
  rw [← nextBlockWindow_uncached]

theorem getDifficultyUncached_of_reset (nd3 : List Nat → List Nat → Nat → Nat) (v : Nat)
    (bc : Blockchain) (hfixed : bc.fixedDifficulty = 0)
    (hmemo : bc.db.topBlockHash ≠ bc.difficultyForNextBlockTopHash) {d : Nat}
    (hreset : resetDifficulty bc.nettype bc.db.height = some d) :
    getDifficultyUncached nd3 v bc = d := by
  simp only [getDifficultyUncached, getDifficultyForNextBlock, hfixed, ne_eq, not_true_eq_false,
    if_false, if_neg hmemo, hreset]

theorem getNextDifficultyForAlternativeChain_eq_window (nd3 : List Nat → List Nat → Nat → Nat)
    (v : Nat) {bc : Blockchain} {db' : Db} {f : Nat} {altChain : List BlockExtendedInfo}
    {bei : BlockExtendedInfo} (hp : AltChainPrefix bc.db db' f altChain bei) (hf : 1 ≤ f)
    (hfixed : bc.fixedDifficulty = 0) :
    getNextDifficultyForAlternativeChain nd3 v bc altChain bei =
      nextDifficultyFor nd3 v (loadWindow db' bei.height (difficultyBlocksCountFor v)).1
        (loadWindow db' bei.height (difficultyBlocksCountFor v)).2 difficultyTarget := by
  rw [getNextDifficultyForAlternativeChain, if_neg (by simp [hfixed]),
    alternativeChainWindow_eq_loadWindow hp hf]

/-- The difficulty of a block on an alternative chain is the difficulty that a node whose main chain
holds the same blocks computes, at the same version, wherever the main path does not return the
fixed difficulty of a reset height. -/
theorem getNextDifficultyForAlternativeChain_eq_uncached (nd3 : List Nat → List Nat → Nat → Nat)
    (v : Nat) {bc bc' : Blockchain} {f : Nat} {altChain : List BlockExtendedInfo}
    {bei : BlockExtendedInfo} (hp : AltChainPrefix bc.db bc'.db f altChain bei) (hf : 1 ≤ f)
    (hfixed : bc.fixedDifficulty = 0) (hfixed' : bc'.fixedDifficulty = 0)
    (hmemo : bc'.db.topBlockHash ≠ bc'.difficultyForNextBlockTopHash)
    (hreset : resetDifficulty bc'.nettype bc'.db.height = none) :
    getNextDifficultyForAlternativeChain nd3 v bc altChain bei = getDifficultyUncached nd3 v bc' := by
  rw [getNextDifficultyForAlternativeChain_eq_window nd3 v hp hf hfixed,
    getDifficultyUncached_of_window nd3 v bc' hfixed' hmemo hreset, hp.dbHeight]

/-- On mainnet at the heights after the third hard fork, where the main path returns the reset
difficulty `480000000`, the alternative path still applies the algorithm to the window. -/
theorem getNextDifficultyForAlternativeChain_at_reset (nd3 : List Nat → List Nat → Nat → Nat)
    (v : Nat) {bc bc' : Blockchain} {f : Nat} {altChain : List BlockExtendedInfo}
    {bei : BlockExtendedInfo} (hp : AltChainPrefix bc.db bc'.db f altChain bei) (hf : 1 ≤ f)
    (hfixed : bc.fixedDifficulty = 0) (hfixed' : bc'.fixedDifficulty = 0)
    (hmemo : bc'.db.topBlockHash ≠ bc'.difficultyForNextBlockTopHash)
    (hnet : bc'.nettype = .mainnet)
    (hlow : mainnetHardforkV3Height ≤ bei.height)
    (hhigh : bei.height ≤ mainnetHardforkV3Height + difficultyBlocksCountV2) :
    getDifficultyUncached nd3 v bc' = 480000000 ∧
      getNextDifficultyForAlternativeChain nd3 v bc altChain bei =
        nextDifficultyFor nd3 v (loadWindow bc'.db bei.height (difficultyBlocksCountFor v)).1
          (loadWindow bc'.db bei.height (difficultyBlocksCountFor v)).2 difficultyTarget := by
  have hreset : resetDifficulty bc'.nettype bc'.db.height = some 480000000 := by
    rw [resetDifficulty, if_pos ⟨hnet, hp.dbHeight ▸ hlow, hp.dbHeight ▸ hhigh⟩]
  exact ⟨getDifficultyUncached_of_reset nd3 v bc' hfixed' hmemo hreset,
    getNextDifficultyForAlternativeChain_eq_window nd3 v hp hf hfixed⟩

/-- A mainnet chain of 116541 blocks of version 3, block `h` stamped `240 * h` with cumulative
difficulty `h`: for a block at height 116530 on the block at height 116529, the main path returns
`480000000` and the alternative path `1`. -/
theorem getNextDifficultyForAlternativeChain_at_reset_spaced :
    let db : Db := ⟨116541, fun h => ⟨3, 3, 240 * h, h + 1, h, 0, 0⟩, fun _ => 3⟩
    let bei : BlockExtendedInfo := ⟨116530, 240 * 116530, 116530, 116530⟩
    let bc := Blockchain.init db .mainnet
    let bc' := Blockchain.init (db.truncate 116530) .mainnet
    (AltChainPrefix bc.db bc'.db 116530 [] bei ∧ 1 ≤ 116530 ∧ bc.fixedDifficulty = 0 ∧
      bc'.fixedDifficulty = 0 ∧ bc'.db.topBlockHash ≠ bc'.difficultyForNextBlockTopHash ∧
      bc'.nettype = .mainnet ∧ mainnetHardforkV3Height ≤ bei.height ∧
      bei.height ≤ mainnetHardforkV3Height + difficultyBlocksCountV2) ∧
    getDifficultyUncached (fun _ _ _ => 1) 3 bc' = 480000000 ∧
      getNextDifficultyForAlternativeChain (fun _ _ _ => 1) 3 bc [] bei = 1 := by
  intro db bei bc bc'
  have hp : AltChainPrefix bc.db bc'.db 116530 [] bei :=
    ⟨rfl, rfl, rfl, fun _ _ => ⟨rfl, rfl⟩, fun _ hi => absurd hi (Nat.not_lt_zero _)⟩
  have hmemo : bc'.db.topBlockHash ≠ bc'.difficultyForNextBlockTopHash := by decide
  obtain ⟨hmain, halt⟩ := getNextDifficultyForAlternativeChain_at_reset (fun _ _ _ => 1) 3 hp
    (by decide) rfl rfl hmemo rfl (by decide) (by decide)
  exact ⟨⟨hp, by decide, rfl, rfl, hmemo, rfl, by decide, by decide⟩, hmain,
    halt.trans (by decide)⟩

end Sumokoin.Core
