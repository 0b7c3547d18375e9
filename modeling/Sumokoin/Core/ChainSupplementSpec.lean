import Sumokoin.Core.ChainSupplement
import Sumokoin.ProofKit.ExceptRun

/-! What the chain request computes. The short history of a chain of `height` blocks is the hashes
at `height - backOffset i` for every back offset below the height, newest first, then the genesis
hash (`getShortChainHistory_eq`): the `genesis_included` test of the loop never holds, since every
offset it reads is below the height. Asked with the history of a chain that splits from its own at
`split`, a node finds the newest history height below the split, which is the height just below
the split or at most as far below it as the asking chain's top is above it, less nine
(`find_shortHistoryHeights`), and answers with its hashes from there. -/

namespace Sumokoin.Core

open Sumokoin.Chain Sumokoin.Common.Pruning Sumokoin.ProofKit

/-! ### The offsets of the history -/

/-- The back offset of the `i`-th hash of the short history: one more than the one before for the
first eleven, then `current_multiplier = 2 ^ (i - 10)` doubled more. -/
def backOffset : Nat → Nat
  | 0 => 1
  | i + 1 => if i < 10 then backOffset i + 1 else backOffset i + 2 ^ (i - 10) * 2

theorem backOffset_succ (i : Nat) :
    backOffset (i + 1) = if i < 10 then backOffset i + 1 else backOffset i + 2 ^ (i - 10) * 2 :=
  rfl

theorem backOffset_lt_succ (i : Nat) : backOffset i < backOffset (i + 1) := by
  rw [backOffset_succ]
  have := Nat.two_pow_pos (i - 10)
  split <;> omega

theorem backOffset_strictMono : StrictMono backOffset := strictMono_nat_of_lt_succ backOffset_lt_succ

theorem lt_backOffset (i : Nat) : i < backOffset i := by
  induction i with
  | zero => decide
  | succ i ih => have := backOffset_lt_succ i; omega

theorem backOffset_of_ten_le {i : Nat} (ten : 10 ≤ i) : backOffset i = 2 ^ (i - 10) * 2 + 9 := by
  induction i, ten using Nat.le_induction with
  | base => rfl
  | succ i ten ih =>
    rw [backOffset_succ, if_neg (by omega), ih, show i + 1 - 10 = i - 10 + 1 by omega, pow_succ]
    ring

/-- Each back offset is one past the one before, or nine less than twice it. -/
theorem backOffset_gap (i : Nat) :
    backOffset (i + 1) = backOffset i + 1 ∨ backOffset (i + 1) + 9 = 2 * backOffset i := by
  by_cases early : i < 10
  · exact .inl (by rw [backOffset_succ, if_pos early])
  · right
    rw [backOffset_of_ten_le (by omega : 10 ≤ i + 1), backOffset_of_ten_le (by omega : 10 ≤ i),
      show i + 1 - 10 = i - 10 + 1 by omega, pow_succ]
    ring

/-! ### The heights of the history -/

/-- The heights of the short history of a chain of `height` blocks from its `i`-th hash on, before
the genesis block. -/
def historyFrom (height i : Nat) : List Nat :=
  ((List.range' i (height - i)).filter (backOffset · < height)).map (height - backOffset ·)

/-- The heights whose hashes the short history of a chain of `height` blocks lists, newest first:
one for each back offset below the height, and the genesis block. -/
def shortHistoryHeights (height : Nat) : List Nat :=
  ((List.range height).filter (backOffset · < height)).map (height - backOffset ·) ++ [0]

theorem shortHistoryHeights_eq (height : Nat) :
    shortHistoryHeights height = historyFrom height 0 ++ [0] := by
  rw [shortHistoryHeights, historyFrom, List.range_eq_range', Nat.sub_zero]

/-- The history from its `i`-th hash on: the height `backOffset i` below the top, while that offset
is below the height. -/
theorem historyFrom_eq (height i : Nat) :
    historyFrom height i =
      if backOffset i < height then (height - backOffset i) :: historyFrom height (i + 1) else [] := by
  split_ifs with below
  · have := lt_backOffset i
    obtain ⟨n, hn⟩ : ∃ n, height - i = n + 1 := ⟨height - i - 1, by omega⟩
    rw [historyFrom, hn, List.range'_succ, List.filter_cons_of_pos (by simpa using below),
      List.map_cons, historyFrom, show height - (i + 1) = n by omega]
  · rw [historyFrom, List.filter_eq_nil_iff.mpr, List.map_nil]
    intro k mem
    have := backOffset_strictMono.monotone (List.mem_range'_1.mp mem).1
    simp only [decide_eq_true_eq]
    omega

theorem mem_shortHistoryHeights_lt {height h : Nat} (pos : 0 < height)
    (mem : h ∈ shortHistoryHeights height) : h < height := by
  simp only [shortHistoryHeights, List.mem_append, List.mem_map, List.mem_filter, List.mem_range,
    decide_eq_true_eq, List.mem_singleton] at mem
  rcases mem with ⟨k, ⟨-, below⟩, rfl⟩ | rfl
  · have := lt_backOffset k
    omega
  · exact pos

/-! ### The loop of `get_short_chain_history` -/

/-- A pass of the loop at its `i`-th hash: the multiplier is `2 ^ (i - 10)` and the offset
`backOffset i`, and the pass pushes the hash `backOffset i` below the top. -/
theorem shortChainHistoryLoop_step (db : Db) (fuel : Nat) {i : Nat} (ids : List Nat)
    (below : backOffset i < db.height) :
    shortChainHistoryLoop db (fuel + 1) i (2 ^ (i - 10)) (backOffset i) false ids =
      shortChainHistoryLoop db fuel (i + 1) (2 ^ (i + 1 - 10)) (backOffset (i + 1)) false
        (ids ++ [(db.blocks (db.height - backOffset i)).hash]) := by
  have := lt_backOffset i
  have read : db.getBlockHashFromHeight (db.height - backOffset i) =
      .ok (db.blocks (db.height - backOffset i)).hash := if_pos (by omega)
  have notGenesis : (db.height - backOffset i == 0) = false := by simp only [beq_eq_false_iff_ne]; omega
  rw [shortChainHistoryLoop, if_pos below, read]
  simp only [bind, Except.bind, notGenesis, Bool.or_false]
  split_ifs with early
  · rw [backOffset_succ, if_pos early, show i + 1 - 10 = i - 10 by omega]
  · rw [backOffset_succ, if_neg early, show i + 1 - 10 = i - 10 + 1 by omega, pow_succ]

/-- The loop from its `i`-th hash on pushes the hashes at the heights of the history from there,
and `genesis_included` stays `false`. -/
theorem shortChainHistoryLoop_eq (db : Db) (fuel : Nat) {i : Nat} (ids : List Nat)
    (enough : db.height - backOffset i ≤ fuel) :
    shortChainHistoryLoop db fuel i (2 ^ (i - 10)) (backOffset i) false ids =
      .ok (ids ++ (historyFrom db.height i).map fun h => (db.blocks h).hash, false) := by
  induction fuel generalizing i ids with
  | zero =>
    rw [shortChainHistoryLoop, historyFrom_eq, if_neg (by omega), List.map_nil, List.append_nil]
    rfl
  | succ fuel ih =>
    by_cases below : backOffset i < db.height
    · have := backOffset_lt_succ i
      rw [shortChainHistoryLoop_step db fuel ids below, ih _ (by omega), historyFrom_eq db.height i,
        if_pos below, List.map_cons, List.append_assoc, List.singleton_append]
    · rw [shortChainHistoryLoop, if_neg below, historyFrom_eq, if_neg below, List.map_nil,
        List.append_nil]
      rfl

/-- `get_short_chain_history` pushes the hashes at the heights of the short history. -/
theorem getShortChainHistory_eq (db : Db) (ids : List Nat) :
    getShortChainHistory db ids =
      .ok (if db.height = 0 then ids
        else ids ++ (shortHistoryHeights db.height).map fun h => (db.blocks h).hash) := by
  rw [getShortChainHistory]
  split_ifs with empty
  · rfl
  · have loop := shortChainHistoryLoop_eq db db.height ids (i := 0) (by omega)
    have genesis : db.getBlockHashFromHeight 0 = .ok (db.blocks 0).hash := if_pos (by omega)
    rw [show 2 ^ (0 - 10) = 1 from rfl, show backOffset 0 = 1 from rfl] at loop
    rw [loop]
    simp only [bind, Except.bind, Bool.false_eq_true, if_false, genesis]
    rw [shortHistoryHeights_eq, List.map_append, List.append_assoc]
    rfl

/-! ### The shape of the history -/

theorem lt_log2_add_ten {height i : Nat} (below : backOffset i < height) :
    i < Nat.log2 height + 10 := by
  by_cases early : i < 10
  · omega
  · rw [backOffset_of_ten_le (by omega)] at below
    have power : 2 ^ (i - 9) < height := by
      rw [show i - 9 = i - 10 + 1 by omega, pow_succ]
      omega
    have := (Nat.log2_lt (by omega : height ≠ 0)).not.mpr (Nat.not_lt.mpr power.le)
    omega

theorem length_shortHistoryHeights (height : Nat) :
    (shortHistoryHeights height).length ≤ Nat.log2 height + 11 := by
  have within : (List.range height).filter (backOffset · < height) ⊆
      List.range (Nat.log2 height + 10) := by
    intro i mem
    simp only [List.mem_filter, List.mem_range, decide_eq_true_eq] at mem ⊢
    exact lt_log2_add_ten mem.2
  have counted := ((List.nodup_range).filter _).subperm within |>.length_le
  simp only [shortHistoryHeights, List.length_append, List.length_map, List.length_singleton,
    List.length_range] at counted ⊢
  omega

theorem pairwise_shortHistoryHeights (height : Nat) :
    (shortHistoryHeights height).Pairwise (· > ·) := by
  rw [shortHistoryHeights, List.pairwise_append, List.pairwise_map]
  refine ⟨?_, List.pairwise_singleton _ _, ?_⟩
  · refine (List.pairwise_lt_range.filter _).imp_of_mem fun {a b} memA memB lt => ?_
    simp only [List.mem_filter, decide_eq_true_eq] at memA memB
    have := backOffset_strictMono lt
    omega
  · intro x memX y memY
    simp only [List.mem_map, List.mem_filter, List.mem_range, decide_eq_true_eq] at memX
    obtain ⟨k, ⟨-, below⟩, rfl⟩ := memX
    rw [List.mem_singleton] at memY
    omega

theorem head_shortHistoryHeights {height : Nat} (pos : 0 < height) :
    (shortHistoryHeights height).head? = some (height - 1) := by
  obtain ⟨n, rfl⟩ : ∃ n, height = n + 1 := ⟨height - 1, by omega⟩
  rw [shortHistoryHeights, List.range_succ_eq_map, List.filter_cons]
  by_cases top : backOffset 0 < n + 1
  · rw [if_pos (by simpa using top)]
    rfl
  · have none : (List.map Nat.succ (List.range n)).filter (backOffset · < n + 1) = [] := by
      rw [List.filter_eq_nil_iff]
      intro k mem
      have := backOffset_strictMono.monotone (Nat.zero_le k)
      simp only [decide_eq_true_eq]
      omega
    have : n = 0 := by
      have : backOffset 0 = 1 := rfl
      omega
    rw [if_neg (by simpa using top), none]
    simp [this]

/-- The short history of a chain with blocks: the hashes at heights from the top block down to the
genesis block, each below the one before, and at most `log2 height + 11` of them. -/
theorem getShortChainHistory_shape (db : Db) (pos : 0 < db.height) (ids : List Nat) :
    ∃ heights : List Nat,
      getShortChainHistory db ids = .ok (ids ++ heights.map fun h => (db.blocks h).hash) ∧
      heights.head? = some (db.height - 1) ∧ heights.getLast? = some 0 ∧
      heights.Pairwise (· > ·) ∧ heights.length ≤ Nat.log2 db.height + 11 := by
  refine ⟨shortHistoryHeights db.height, ?_, head_shortHistoryHeights pos, ?_,
    pairwise_shortHistoryHeights db.height, length_shortHistoryHeights db.height⟩
  · rw [getShortChainHistory_eq, if_neg (by omega)]
  · simp [shortHistoryHeights]

theorem getShortChainHistory_shape_thirty :
    0 < (⟨30, fun h => ⟨0, 0, 0, h, 0, 0, 0⟩, fun _ => 0⟩ : Db).height ∧
      ∃ heights : List Nat,
        getShortChainHistory ⟨30, fun h => ⟨0, 0, 0, h, 0, 0, 0⟩, fun _ => 0⟩ [] =
          .ok ([] ++ heights.map fun h => h) ∧
        heights.head? = some 29 ∧ heights.getLast? = some 0 ∧ heights.Pairwise (· > ·) ∧
        heights.length ≤ Nat.log2 30 + 11 :=
  ⟨by decide, getShortChainHistory_shape ⟨30, fun h => ⟨0, 0, 0, h, 0, 0, 0⟩, fun _ => 0⟩
    (by decide) []⟩

example : shortHistoryHeights 30 = [29, 28, 27, 26, 25, 24, 23, 22, 21, 20, 19, 17, 13, 5, 0] := by
  decide

/-! ### The newest history height below a split -/

/-- Where the scan of the history for a height below `split` reaches its `i`-th hash, the offset
before it, `prev`, is at most the distance from the split to the top: the height found is just
below the split, or twice as far below as the top is above it, less nine. -/
theorem find_historyFrom {height split : Nat} (pos : 0 < split) (le : split ≤ height) (i prev : Nat)
    (prevAbove : prev ≤ height - split)
    (gap : backOffset i = prev + 1 ∨ backOffset i + 9 = 2 * prev) :
    ∃ s, (historyFrom height i ++ [0]).find? (· < split) = some s ∧ s < split ∧
      (s + 1 = split ∨ 2 * split + 9 ≤ s + height) := by
  rw [historyFrom_eq]
  split_ifs with below
  · by_cases found : height - backOffset i < split
    · refine ⟨height - backOffset i, by simp [found], found, ?_⟩
      omega
    · have := backOffset_lt_succ i
      obtain ⟨s, scan, bounds⟩ :=
        find_historyFrom pos le (i + 1) (backOffset i) (by omega) (backOffset_gap i)
      refine ⟨s, ?_, bounds⟩
      rw [List.cons_append, List.find?_cons_of_neg (by simpa using found), scan]
  · refine ⟨0, by simp [pos], pos, ?_⟩
    omega
termination_by height - backOffset i
decreasing_by omega

/-- The newest height of the short history below a split at `split`. -/
theorem find_shortHistoryHeights {height split : Nat} (pos : 0 < split) (le : split ≤ height) :
    ∃ s, (shortHistoryHeights height).find? (· < split) = some s ∧ s < split ∧
      (s + 1 = split ∨ 2 * split + 9 ≤ s + height) := by
  rw [shortHistoryHeights_eq]
  exact find_historyFrom pos le 0 0 (Nat.zero_le _) (.inl rfl)

/-! ### Lookups on two chains that split -/

/-- Distinct blocks of a chain have distinct hashes. -/
def HashesDistinct (db : Db) : Prop :=
  ∀ h₁ < db.height, ∀ h₂ < db.height, (db.blocks h₁).hash = (db.blocks h₂).hash → h₁ = h₂

/-- Chains `a` and `b` that split at `split`: they have the same blocks below it, and no block of
`a` from the split on is in `b`. -/
structure SplitAt (a b : Db) (split : Nat) : Prop where
  pos : 0 < split
  le_a : split ≤ a.height
  le_b : split ≤ b.height
  shared : ∀ h < split, (b.blocks h).hash = (a.blocks h).hash
  diverged : ∀ h < a.height, split ≤ h → ∀ h' < b.height, (b.blocks h').hash ≠ (a.blocks h).hash

theorem getBlockHeight_of_hashesDistinct {db : Db} (distinct : HashesDistinct db) {h : Nat}
    (below : h < db.height) : db.getBlockHeight (db.blocks h).hash = some h := by
  rw [Db.getBlockHeight, List.find?_range_eq_some]
  refine ⟨by simp, List.mem_range.mpr below, fun j lt => ?_⟩
  have := distinct j (by omega) h below
  simp only [Bool.not_eq_true', beq_eq_false_iff_ne]
  exact fun same => absurd (this same) (by omega)

variable {a b : Db} {split : Nat}

/-- A block of `a` is in `b`, at its own height, exactly when it is below the split. -/
theorem SplitAt.getBlockHeight_eq (chains : SplitAt a b split) (distinct : HashesDistinct b)
    {h : Nat} (below : h < a.height) :
    b.getBlockHeight (a.blocks h).hash = if h < split then some h else none := by
  split_ifs with shared
  · rw [← chains.shared h shared]
    exact getBlockHeight_of_hashesDistinct distinct (by have := chains.le_b; omega)
  · rw [Db.getBlockHeight, List.find?_range_eq_none]
    intro h' below'
    simpa using chains.diverged h below (by omega) h' below'

/-- Looking up the hashes of blocks of `a` in `b` finds the first of them below the split. -/
theorem SplitAt.findSome_getBlockHeight (chains : SplitAt a b split) (distinct : HashesDistinct b)
    {l : List Nat} (below : ∀ h ∈ l, h < a.height) :
    (l.map fun h => (a.blocks h).hash).findSome? b.getBlockHeight = l.find? (· < split) := by
  induction l with
  | nil => rfl
  | cons h l ih =>
    rw [List.map_cons, List.findSome?_cons,
      chains.getBlockHeight_eq distinct (below h List.mem_cons_self), List.find?_cons]
    split_ifs with shared
    · simp [shared]
    · simp only [shared, decide_false]
      exact ih fun h' mem => below h' (List.mem_cons_of_mem _ mem)

/-- Asked with the short history of `a`, `b` splits at the newest history height below the
split. -/
theorem SplitAt.findBlockchainSupplement_eq (chains : SplitAt a b split)
    (distinct : HashesDistinct b) :
    findBlockchainSupplement b ((shortHistoryHeights a.height).map fun h => (a.blocks h).hash) =
      .ok ((shortHistoryHeights a.height).find? (· < split)) := by
  have heightA := chains.le_a
  have heightB := chains.le_b
  have := chains.pos
  have genesis : b.getBlockHashFromHeight 0 = .ok (b.blocks 0).hash := if_pos (by omega)
  have last : ((shortHistoryHeights a.height).map fun h => (a.blocks h).hash).getLast? =
      some (b.blocks 0).hash := by
    simp [shortHistoryHeights, chains.shared 0 chains.pos]
  rw [findBlockchainSupplement, if_neg (by simp [shortHistoryHeights]), genesis]
  simp only [bind, Except.bind, last, ne_eq, not_true_eq_false, if_false]
  rw [chains.findSome_getBlockHeight distinct fun h mem =>
    mem_shortHistoryHeights_lt (Nat.lt_of_lt_of_le chains.pos heightA) mem]
  rfl

/-! ### The response -/

theorem findBlockchainSupplement_lt {db : Db} {qblockIds : List Nat} {startHeight : Nat}
    (found : findBlockchainSupplement db qblockIds = .ok (some startHeight)) :
    startHeight < db.height := by
  unfold findBlockchainSupplement at found
  split_ifs at found with empty
  · simp [pure, Except.pure] at found
  · obtain ⟨genHash, -, found⟩ := ExceptRun.bind_eq_ok.mp found
    split_ifs at found with mismatch
    · simp [pure, Except.pure] at found
    · obtain ⟨_, _, _, -, lookup, -⟩ := List.findSome?_eq_some_iff.mp (ExceptRun.pure_eq_ok.mp found)
      exact Db.getBlockHeight_lt lookup

/-- On a node that keeps every block, or not asked to clip, the hashes go up to its height. -/
theorem supplementStopHeight_of_full (startHeight currentHeight : Nat) {pruningSeed : Nat}
    {clipPruned : Bool} (full : clipPruned = false ∨ getPruningStripe pruningSeed = 0) :
    supplementStopHeight startHeight currentHeight pruningSeed clipPruned = .ok (some currentHeight) := by
  rcases full with rfl | stripe
  · rfl
  · have unpruned : getNextUnprunedBlockHeight startHeight currentHeight pruningSeed = startHeight := by
      unfold getNextUnprunedBlockHeight
      simp [stripe]
    have pruned : getNextPrunedBlockHeight startHeight currentHeight pruningSeed = .ok currentHeight :=
      if_pos stripe
    cases clipPruned
    · rfl
    · rw [supplementStopHeight, if_pos rfl, unpruned, if_neg (Nat.lt_irrefl _), pruned]
      rfl

theorem supplementPush_of_lt (db : Db) (withWeights : Bool) {i : Nat} (below : i < db.height)
    (hashes weights : List Nat) :
    supplementPush db withWeights (hashes, weights) i =
      .ok (hashes ++ [(db.blocks i).hash],
        if withWeights then weights ++ [(db.blocks i).weight] else weights) := by
  have read : db.getBlockHashFromHeight i = .ok (db.blocks i).hash := if_pos below
  have weight : db.getBlockWeight i = .ok (db.blocks i).weight := if_pos below
  cases withWeights <;> simp [supplementPush, read, weight, bind, Except.bind, pure, Except.pure]

/-- The loop of `find_blockchain_supplement` over heights below the top pushes their hashes, and
their weights when asked. -/
theorem foldlM_supplementPush (db : Db) (withWeights : Bool) {heights : List Nat}
    (below : ∀ i ∈ heights, i < db.height) (hashes weights : List Nat) :
    heights.foldlM (supplementPush db withWeights) (hashes, weights) =
      .ok (hashes ++ heights.map fun i => (db.blocks i).hash,
        if withWeights then weights ++ heights.map fun i => (db.blocks i).weight else weights) := by
  induction heights generalizing hashes weights with
  | nil => cases withWeights <;> simp [pure, Except.pure]
  | cons i heights ih =>
    rw [List.foldlM_cons, supplementPush_of_lt db withWeights (below i List.mem_cons_self)]
    simp only [bind, Except.bind]
    rw [ih fun j mem => below j (List.mem_cons_of_mem _ mem)]
    cases withWeights <;> simp

/-- The heights whose hashes `find_blockchain_supplement` sends from `startHeight` on a chain of
`height` blocks. -/
def supplementHeights (height startHeight : Nat) : List Nat :=
  List.range' startHeight (min (height - startHeight) blocksIdsSynchronizingDefaultCount)

/-- The response of a node that keeps every block, or that is not asked to clip, once the split
height is found: its hashes and weights from the split height on, and its height. -/
theorem findBlockchainSupplementResponse_eq {db : Db} {qblockIds : List Nat} {startHeight : Nat}
    (found : findBlockchainSupplement db qblockIds = .ok (some startHeight)) {clipPruned : Bool}
    {pruningSeed : Nat} (full : clipPruned = false ∨ getPruningStripe pruningSeed = 0) :
    findBlockchainSupplementResponse db qblockIds clipPruned pruningSeed = .ok (some
      { startHeight := startHeight, totalHeight := db.height,
        cumulativeDifficulty := db.getBlockCumulativeDifficulty (db.height - 1) &&& 0xffffffffffffffff,
        cumulativeDifficultyTop64 :=
          (db.getBlockCumulativeDifficulty (db.height - 1) >>> 64) &&& 0xffffffffffffffff,
        blockIds := (supplementHeights db.height startHeight).map fun i => (db.blocks i).hash,
        blockWeights := (supplementHeights db.height startHeight).map fun i => (db.blocks i).weight }) := by
  have below : ∀ i ∈ supplementHeights db.height startHeight, i < db.height := fun i mem => by
    have := List.mem_range'_1.mp mem
    omega
  rw [findBlockchainSupplementResponse, findBlockchainSupplementHashes, found]
  simp only [bind, Except.bind, supplementStopHeight_of_full startHeight db.height full]
  rw [show List.range' startHeight (min (db.height - startHeight) blocksIdsSynchronizingDefaultCount)
      = supplementHeights db.height startHeight from rfl, foldlM_supplementPush db true below]
  rfl

end Sumokoin.Core
