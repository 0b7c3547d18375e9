import Sumokoin.Core.Difficulty

/-! What the cache of `get_difficulty_for_next_block` computes. Its incremental path turns the
window of height `h - 1` under a count `c'` into the window of height `h` under `min (c' + 1) c`,
where `c` is the count of the version at the call: the uncached window exactly when the count has
not grown by more than one block, or the chain is too short for the difference to show. Over every
run whose fork versions never widen the window by more than one block, every query therefore returns
the uncached difficulty; at the step from version 4 to version 5, where the window grows from 29 to
61 blocks, a query on a chain of 32 blocks or more does not. -/

namespace Sumokoin.Core

open Sumokoin.Chain Sumokoin.Difficulty

/-! ### The heights of a window -/

theorem windowHeights_eq (h c : Nat) :
    windowHeights h c = List.range' (max 1 (h - c)) (h - max 1 (h - c)) := by
  have hoff : (if h - min h c = 0 then h - min h c + 1 else h - min h c) = max 1 (h - c) := by
    split_ifs <;> omega
  simp only [windowHeights, hoff]

theorem length_windowHeights (h c : Nat) : (windowHeights h c).length = h - max 1 (h - c) := by
  simp [windowHeights_eq]

theorem mem_windowHeights {h c k : Nat} (hk : k ∈ windowHeights h c) : 1 ≤ k ∧ k < h := by
  rw [windowHeights_eq, List.mem_range'_1] at hk
  omega

/-- Pushing the top height onto a window gives the window of the next height, one block wider. -/
theorem windowHeights_append {h : Nat} (hh : 1 ≤ h) (c : Nat) :
    windowHeights h c ++ [h] = windowHeights (h + 1) (c + 1) := by
  rw [windowHeights_eq, windowHeights_eq, show h + 1 - (c + 1) = h - c by omega]
  have hlen : h + 1 - max 1 (h - c) = h - max 1 (h - c) + 1 := by omega
  rw [hlen, List.range'_concat]
  congr 2
  omega

/-- Erasing the oldest heights above `c` narrows a window to `c` blocks. -/
theorem eraseFront_windowHeights (h k c : Nat) :
    eraseFront (windowHeights h k) c = windowHeights h (min k c) := by
  rw [eraseFront, length_windowHeights, windowHeights_eq, windowHeights_eq, List.drop_range']
  congr 1 <;> omega

theorem eraseFront_map (f : Nat → Nat) (l : List Nat) (c : Nat) :
    eraseFront (l.map f) c = (eraseFront l c).map f := by
  simp [eraseFront, List.map_drop]

/-- Two windows of one height agree exactly when the narrower one is not cut by its count. -/
theorem windowHeights_eq_windowHeights_iff (h k c : Nat) :
    windowHeights h k = windowHeights h c ↔ min (h - 1) k = min (h - 1) c := by
  rw [windowHeights_eq, windowHeights_eq]
  constructor
  · intro heq
    have hl := congrArg List.length heq
    simp only [List.length_range'] at hl
    omega
  · intro hmin
    congr 1 <;> omega

/-! ### The window of one query -/

theorem loadWindow_addBlock (db : Db) (b : BlockRecord) {h : Nat} (hh : h ≤ db.height) (c : Nat) :
    loadWindow (db.addBlock b) h c = loadWindow db h c := by
  have hbelow : ∀ k ∈ windowHeights h c, (db.addBlock b).blocks k = db.blocks k :=
    fun k hk => db.addBlock_blocks_below b (by have := mem_windowHeights hk; omega)
  simp only [loadWindow, Prod.mk.injEq]
  constructor <;> exact List.map_congr_left fun k hk => by
    simp only [Db.getBlockTimestamp, Db.getBlockCumulativeDifficulty, hbelow k hk]

/-- The cache holds the window of its height under the count of the version of that height,
unless it is marked for reset or empty. -/
def CacheHolds (version : Nat → Nat) (bc : Blockchain) : Prop :=
  bc.resetTimestampsAndDifficultiesHeight = false → bc.timestampsAndDifficultiesHeight ≠ 0 →
    bc.timestampsAndDifficultiesHeight ≤ bc.db.height ∧
      (bc.timestamps, bc.difficulties) = loadWindow bc.db bc.timestampsAndDifficultiesHeight
        (difficultyBlocksCountFor (version bc.timestampsAndDifficultiesHeight))

/-- The cache that `nextBlockWindow` leaves holds the window it returned, at the chain height. -/
theorem nextBlockWindow_cache (v : Nat) (bc : Blockchain) :
    (nextBlockWindow v bc).2.2 = { bc with
      timestamps := (nextBlockWindow v bc).1
      difficulties := (nextBlockWindow v bc).2.1
      timestampsAndDifficultiesHeight := bc.db.height } := by
  unfold nextBlockWindow
  by_cases hr : bc.resetTimestampsAndDifficultiesHeight = true
  · simp only [hr, ite_true]
    rfl
  · simp only [hr, Bool.false_eq_true, ite_false]
    split <;> rfl

/-- The uncached path reads the window of the chain height under the count of the version. -/
theorem nextBlockWindow_reload (v : Nat) (bc : Blockchain)
    (hreload : ¬ (bc.resetTimestampsAndDifficultiesHeight = false ∧
      bc.timestampsAndDifficultiesHeight ≠ 0 ∧
      bc.db.height - bc.timestampsAndDifficultiesHeight = 1)) :
    ((nextBlockWindow v bc).1, (nextBlockWindow v bc).2.1) =
      loadWindow bc.db bc.db.height (difficultyBlocksCountFor v) := by
  unfold nextBlockWindow
  by_cases hr : bc.resetTimestampsAndDifficultiesHeight = true
  · simp only [hr, ite_true]
    rfl
  · have hc : ¬ (bc.timestampsAndDifficultiesHeight ≠ 0 ∧
        bc.db.height - bc.timestampsAndDifficultiesHeight = 1) := by
      simpa [hr] using hreload
    simp only [hr, Bool.false_eq_true, ite_false]
    rw [if_neg hc]

/-- The incremental path: from the window of the height below under the count `c'`, the window of
the chain height under `min (c' + 1) c`. -/
theorem nextBlockWindow_incremental (v c' : Nat) (bc : Blockchain)
    (hreset : bc.resetTimestampsAndDifficultiesHeight = false)
    (hne : bc.timestampsAndDifficultiesHeight ≠ 0)
    (hsucc : bc.db.height - bc.timestampsAndDifficultiesHeight = 1)
    (hcache : (bc.timestamps, bc.difficulties) =
      loadWindow bc.db bc.timestampsAndDifficultiesHeight c') :
    ((nextBlockWindow v bc).1, (nextBlockWindow v bc).2.1) =
      loadWindow bc.db bc.db.height (min (c' + 1) (difficultyBlocksCountFor v)) := by
  obtain ⟨hts, hds⟩ := Prod.mk.inj hcache
  have hh : bc.db.height = bc.timestampsAndDifficultiesHeight + 1 := by omega
  have hwin := windowHeights_append (Nat.one_le_iff_ne_zero.mpr hne) c'
  unfold nextBlockWindow
  simp only [hreset, Bool.false_eq_true, ite_false]
  rw [if_pos ⟨hne, hsucc⟩, hts, hds]
  simp only [loadWindow, hh, Nat.add_sub_cancel, ← eraseFront_windowHeights, ← hwin]
  simp only [← eraseFront_map, List.map_append, List.map_cons, List.map_nil]

theorem length_loadWindow (db : Db) (h c : Nat) :
    (loadWindow db h c).1.length = h - max 1 (h - c) := by
  simp [loadWindow, length_windowHeights]

/-- With the cache holding the window of the height below and the counts of the two versions
allowing it, the query's window is the uncached one. -/
theorem nextBlockWindow_eq_loadWindow (version : Nat → Nat) (bc : Blockchain)
    (hold : CacheHolds version bc)
    (hwiden : bc.resetTimestampsAndDifficultiesHeight = false →
      bc.timestampsAndDifficultiesHeight + 1 = bc.db.height →
      difficultyBlocksCountFor (version bc.db.height) ≤
        difficultyBlocksCountFor (version bc.timestampsAndDifficultiesHeight) + 1) :
    ((nextBlockWindow (version bc.db.height) bc).1,
        (nextBlockWindow (version bc.db.height) bc).2.1) =
      loadWindow bc.db bc.db.height (difficultyBlocksCountFor (version bc.db.height)) := by
  by_cases hinc : bc.resetTimestampsAndDifficultiesHeight = false ∧
      bc.timestampsAndDifficultiesHeight ≠ 0 ∧ bc.db.height - bc.timestampsAndDifficultiesHeight = 1
  · obtain ⟨hreset, hne, hsucc⟩ := hinc
    obtain ⟨-, hcache⟩ := hold hreset hne
    have hle := hwiden hreset (by omega)
    rw [nextBlockWindow_incremental _ _ bc hreset hne hsucc hcache, Nat.min_eq_right hle]
  · exact nextBlockWindow_reload _ bc hinc

/-- The fork versions of a run never widen the difficulty window by more than one block from one
height to the next. -/
def WindowNeverWidens (version : Nat → Nat) : Prop :=
  ∀ h, difficultyBlocksCountFor (version (h + 1)) ≤ difficultyBlocksCountFor (version h) + 1

/-- The difficulty that the uncached path returns: the call on the same state with no cached
height. -/
def getDifficultyUncached (nextDifficultyV3 : List Nat → List Nat → Nat → Nat) (hfVersion : Nat)
    (bc : Blockchain) : Nat :=
  (getDifficultyForNextBlock nextDifficultyV3 hfVersion
    { bc with timestampsAndDifficultiesHeight := 0 }).1

/-- A query either returns before the cache and leaves the state, or leaves the cache of
`nextBlockWindow`. -/
theorem getDifficultyForNextBlock_state (nd3 : List Nat → List Nat → Nat → Nat) (v : Nat)
    (bc : Blockchain) :
    (getDifficultyForNextBlock nd3 v bc).2 = bc ∨
      (getDifficultyForNextBlock nd3 v bc).2 = (nextBlockWindow v bc).2.2 := by
  unfold getDifficultyForNextBlock
  by_cases hfixed : bc.fixedDifficulty ≠ 0
  · rw [if_pos hfixed]
    exact Or.inl rfl
  · rw [if_neg hfixed]
    by_cases hmemo : bc.db.topBlockHash = bc.difficultyForNextBlockTopHash
    · rw [if_pos hmemo]
      exact Or.inl rfl
    · rw [if_neg hmemo]
      cases resetDifficulty bc.nettype bc.db.height with
      | some d => exact Or.inl rfl
      | none => exact Or.inr rfl

/-- The difficulty of a query is the algorithm of the version over the window of
`nextBlockWindow`, once past the early returns, which do not read the cache. -/
theorem getDifficultyForNextBlock_fst (nd3 : List Nat → List Nat → Nat → Nat) (v : Nat)
    (bc : Blockchain) :
    (getDifficultyForNextBlock nd3 v bc).1 =
      if bc.fixedDifficulty ≠ 0 then (if bc.db.height ≠ 0 then bc.fixedDifficulty else 1)
      else if bc.db.topBlockHash = bc.difficultyForNextBlockTopHash then bc.difficultyForNextBlock
      else match resetDifficulty bc.nettype bc.db.height with
        | some d => d
        | none => nextDifficultyFor nd3 v (nextBlockWindow v bc).1 (nextBlockWindow v bc).2.1
            difficultyTarget := by
  unfold getDifficultyForNextBlock
  split_ifs <;> try rfl
  cases resetDifficulty bc.nettype bc.db.height <;> rfl

theorem nextBlockWindow_uncached (v : Nat) (bc : Blockchain) :
    ((nextBlockWindow v { bc with timestampsAndDifficultiesHeight := 0 }).1,
        (nextBlockWindow v { bc with timestampsAndDifficultiesHeight := 0 }).2.1) =
      loadWindow bc.db bc.db.height (difficultyBlocksCountFor v) :=
  nextBlockWindow_reload v _ (by simp)

/-- Under the invariant, a query returns the uncached difficulty. -/
theorem getDifficultyForNextBlock_eq_uncached (nd3 : List Nat → List Nat → Nat → Nat)
    {version : Nat → Nat} (hw : WindowNeverWidens version) {bc : Blockchain}
    (hold : CacheHolds version bc) :
    (getDifficultyForNextBlock nd3 (version bc.db.height) bc).1 =
      getDifficultyUncached nd3 (version bc.db.height) bc := by
  have hwin := nextBlockWindow_eq_loadWindow version bc hold (fun _ hsucc => by
    rw [← hsucc]; exact hw _)
  obtain ⟨hts, hds⟩ := Prod.mk.inj (hwin.trans (nextBlockWindow_uncached _ bc).symm)
  rw [getDifficultyUncached, getDifficultyForNextBlock_fst, getDifficultyForNextBlock_fst, hts, hds]

/-- One call keeps the invariant. -/
theorem step_cacheHolds (nd3 : List Nat → List Nat → Nat → Nat) {version : Nat → Nat}
    (hw : WindowNeverWidens version) {bc : Blockchain} (hold : CacheHolds version bc) (op : Op) :
    CacheHolds version (step nd3 version bc op) := by
  cases op with
  | addBlock b =>
    intro hreset hne
    obtain ⟨hle, hcache⟩ := hold hreset hne
    refine ⟨by simp [step]; omega, ?_⟩
    simp only [step]
    rw [loadWindow_addBlock _ _ hle]
    exact hcache
  | popBlock =>
    -- both outcomes of the pop mark the cache for reset
    intro hreset
    simp only [step, popBlockFromBlockchain] at hreset
    split_ifs at hreset
  | cleanup =>
    simp only [step, cleanupHandleIncomingBlocks]
    split_ifs
    · intro _ hne
      simp at hne
    · exact hold
  | query =>
    simp only [step]
    rcases getDifficultyForNextBlock_state nd3 (version bc.db.height) bc with hs | hs
    · rw [hs]
      exact hold
    · rw [hs, nextBlockWindow_cache]
      intro _ _
      refine ⟨le_refl _, ?_⟩
      exact nextBlockWindow_eq_loadWindow version bc hold (fun _ hsucc => by
        rw [← hsucc]; exact hw _)

/-- Every run from the constructor's state keeps the invariant. -/
theorem run_cacheHolds (nd3 : List Nat → List Nat → Nat → Nat) {version : Nat → Nat}
    (hw : WindowNeverWidens version) (db : Db) (nettype : NetworkType) (ops : List Op) :
    CacheHolds version (run nd3 version (Blockchain.init db nettype) ops) :=
  List.foldlRecOn ops (step nd3 version) (fun hreset => by simp [Blockchain.init] at hreset)
    fun bc hold op _ => step_cacheHolds nd3 hw hold op

/-- Over every run whose fork versions never widen the window by more than one block, every query
of `get_difficulty_for_next_block` returns the difficulty of the uncached path. -/
theorem run_getDifficultyForNextBlock_eq_uncached (nd3 : List Nat → List Nat → Nat → Nat)
    {version : Nat → Nat} (hw : WindowNeverWidens version) (db : Db) (nettype : NetworkType)
    (ops : List Op) :
    let bc := run nd3 version (Blockchain.init db nettype) ops
    (getDifficultyForNextBlock nd3 (version bc.db.height) bc).1 =
      getDifficultyUncached nd3 (version bc.db.height) bc :=
  getDifficultyForNextBlock_eq_uncached nd3 hw (run_cacheHolds nd3 hw db nettype ops)

/-! ### The window that widens -/

/-- Past the early returns, a query leaves the cache of `nextBlockWindow` and returns the algorithm
over its window. -/
theorem getDifficultyForNextBlock_of_window (nd3 : List Nat → List Nat → Nat → Nat) (v : Nat)
    (bc : Blockchain) (hfixed : bc.fixedDifficulty = 0)
    (hmemo : bc.db.topBlockHash ≠ bc.difficultyForNextBlockTopHash)
    (hreset : resetDifficulty bc.nettype bc.db.height = none) :
    getDifficultyForNextBlock nd3 v bc = (nextDifficultyFor nd3 v (nextBlockWindow v bc).1
      (nextBlockWindow v bc).2.1 difficultyTarget, (nextBlockWindow v bc).2.2) := by
  unfold getDifficultyForNextBlock
  rw [if_neg (by simp [hfixed]), if_neg hmemo, hreset]

theorem resetDifficulty_of_ne_mainnet {nettype : NetworkType} (hnet : nettype ≠ .mainnet)
    (height : Nat) : resetDifficulty nettype height = none := by
  simp [resetDifficulty, hnet]

/-- The state of a run that loads the window of a chain of `H` blocks at a version of count
`c'`, and then stores one more block: the cache holds the window of `H` under `c'`. -/
theorem run_cleanup_query_addBlock (nd3 : List Nat → List Nat → Nat → Nat)
    (version : Nat → Nat) (db : Db) (b : BlockRecord) {nettype : NetworkType}
    (hnet : nettype ≠ .mainnet) (htop : db.topBlockHash ≠ 0) :
    let bc := run nd3 version (Blockchain.init db nettype) [.cleanup, .query, .addBlock b]
    bc.db = db.addBlock b ∧ bc.resetTimestampsAndDifficultiesHeight = false ∧
      bc.timestampsAndDifficultiesHeight = db.height ∧ bc.fixedDifficulty = 0 ∧
      bc.difficultyForNextBlockTopHash = 0 ∧ bc.nettype = nettype ∧
      (bc.timestamps, bc.difficulties) =
        loadWindow bc.db db.height (difficultyBlocksCountFor (version db.height)) := by
  simp only [run, List.foldl_cons, List.foldl_nil, step]
  set bc1 := cleanupHandleIncomingBlocks (Blockchain.init db nettype) with hbc1
  have hdb1 : bc1.db = db := rfl
  have hq := getDifficultyForNextBlock_of_window nd3 (version bc1.db.height) bc1 rfl htop
    (resetDifficulty_of_ne_mainnet hnet _)
  have hwin := nextBlockWindow_reload (version bc1.db.height) bc1 (by simp [bc1,
    cleanupHandleIncomingBlocks, Blockchain.init])
  rw [hq, nextBlockWindow_cache]
  refine ⟨rfl, rfl, rfl, rfl, rfl, rfl, ?_⟩
  dsimp only
  rw [hwin, hdb1, loadWindow_addBlock _ _ (le_refl _)]

/-- When the version of the next height widens the window from the 29 blocks of versions 2 to 4
to the 61 blocks of version 5 on, a query on a chain of 32 blocks or more applies
`next_difficulty_v3` to the 30 newest blocks, where the uncached path applies it to `[1, h)` cut to
61 blocks. -/
theorem getDifficultyForNextBlock_window_widened (nd3 : List Nat → List Nat → Nat → Nat)
    (version : Nat → Nat) (db : Db) (b : BlockRecord) {nettype : NetworkType}
    (hnet : nettype ≠ .mainnet) (hh : 31 ≤ db.height) (htop : db.topBlockHash ≠ 0)
    (htop' : (db.addBlock b).topBlockHash ≠ 0)
    (hv : difficultyBlocksCountFor (version db.height) = difficultyBlocksCountV2)
    (hv' : difficultyBlocksCountFor (version (db.height + 1)) = difficultyBlocksCountV3) :
    let bc := run nd3 version (Blockchain.init db nettype) [.cleanup, .query, .addBlock b]
    let cached := nextBlockWindow (version bc.db.height) bc
    let fresh := loadWindow bc.db bc.db.height (difficultyBlocksCountFor (version bc.db.height))
    (getDifficultyForNextBlock nd3 (version bc.db.height) bc).1 =
        nextDifficultyFor nd3 (version bc.db.height) cached.1 cached.2.1 difficultyTarget ∧
      getDifficultyUncached nd3 (version bc.db.height) bc =
        nextDifficultyFor nd3 (version bc.db.height) fresh.1 fresh.2 difficultyTarget ∧
      cached.1 ≠ fresh.1 := by
  obtain ⟨hdb, hreset, hheight, hfixed, hmemo, hnettype, hcache⟩ :=
    run_cleanup_query_addBlock nd3 version db b hnet htop
  set bc := run nd3 version (Blockchain.init db nettype) [.cleanup, .query, .addBlock b]
  have hbh : bc.db.height = db.height + 1 := by rw [hdb]; rfl
  have hmemo' : bc.db.topBlockHash ≠ bc.difficultyForNextBlockTopHash := by
    rw [hmemo, hdb]; exact htop'
  have hnone : resetDifficulty bc.nettype bc.db.height = none :=
    resetDifficulty_of_ne_mainnet (hnettype ▸ hnet) _
  have hinc := nextBlockWindow_incremental (version bc.db.height) _ bc hreset (by omega)
    (by omega) (hheight ▸ hcache)
  refine ⟨by rw [getDifficultyForNextBlock_of_window nd3 _ _ hfixed hmemo' hnone], ?_, ?_⟩
  · rw [getDifficultyUncached, getDifficultyForNextBlock_of_window nd3 _
      { bc with timestampsAndDifficultiesHeight := 0 } hfixed hmemo' hnone]
    dsimp only
    rw [← nextBlockWindow_uncached]
  · intro heq
    have hwin : (nextBlockWindow (version bc.db.height) bc).1 = (loadWindow bc.db bc.db.height
        (min (difficultyBlocksCountFor (version db.height) + 1)
          (difficultyBlocksCountFor (version bc.db.height)))).1 := by
      rw [← hheight]
      exact congrArg Prod.fst hinc
    have hlen := congrArg List.length (hwin.symm.trans heq)
    rw [length_loadWindow, length_loadWindow, hbh, hv, hv'] at hlen
    simp only [difficultyBlocksCountV2, difficultyWindowV2, difficultyCutV2,
      difficultyBlocksCountV3, difficultyWindowV3] at hlen
    omega

/-- A FAKECHAIN chain of 31 blocks whose fork schedule reports version 4 at height 31 and version 5
from height 32, as the test schedule `{(1, 0), (4, 1), (5, 32)}` does. -/
theorem getDifficultyForNextBlock_window_widened_fakechain :
    let db : Db := ⟨31, fun h => ⟨4, 4, 240 * h, h + 1, h, 0, 0⟩, fun _ => 0⟩
    let b : BlockRecord := ⟨5, 5, 240 * 31, 32, 31, 0, 0⟩
    let version : Nat → Nat := fun h => if h < 32 then 4 else 5
    let bc := run (fun _ _ _ => 1) version (Blockchain.init db .fakechain)
      [.cleanup, .query, .addBlock b]
    NetworkType.fakechain ≠ .mainnet ∧ 31 ≤ db.height ∧ db.topBlockHash ≠ 0 ∧
      (db.addBlock b).topBlockHash ≠ 0 ∧
      difficultyBlocksCountFor (version db.height) = difficultyBlocksCountV2 ∧
      difficultyBlocksCountFor (version (db.height + 1)) = difficultyBlocksCountV3 ∧
      (nextBlockWindow (version bc.db.height) bc).1 ≠
        (loadWindow bc.db bc.db.height (difficultyBlocksCountFor (version bc.db.height))).1 :=
  ⟨by decide, by decide, by decide, by decide, by decide, by decide,
    (getDifficultyForNextBlock_window_widened (fun _ _ _ => 1) _ _ _ (by decide) (by decide)
      (by decide) (by decide) (by decide) (by decide)).2.2⟩

end Sumokoin.Core
