import Mathlib
import Sumokoin.Core.LongTermWeight
import Sumokoin.Epee.RollingMedianSpec

/-! What the cache of `get_long_term_block_weight_median` computes. The cache is exact when the
values its rolling median holds are the stored long term weights of the blocks up to the block
whose hash keys it. Each of the three branches of the query keeps that and answers the median of
the stored weights, for every window the callers ask. `update_next_cumulative_weight_limit` inserts
the long term weight it recomputes for the top block, which is the stored one when the block got
its weight under the same version; over every run whose long term weight fork, if any, is at height
1, every query is therefore exact and the limits are those of a node started on the same chain. At
a fork at a greater height the block below the fork stored its plain weight, and the cache takes
the capped weight in its place. -/

namespace Sumokoin.Epee.RollingMedian

theorem clear_N {α : Type} (m : RollingMedian α) : m.clear.N = m.N :=
  (clearLoop_sameItems m.N { m with idx := 0, minCt := 0, maxCt := 0, sz := 0 }).N

variable {α : Type} [LinearOrder α] {m : RollingMedian α} {w : List α}

theorem Inv.size_eq (h : Inv m w) : m.size = min w.length m.N := h.window.sz

/-- Values inserted one after the other are the last values inserted since the `clear`. -/
theorem Inv.insertAll (h : Inv m w) (vs : List α) :
    Inv (vs.foldl RollingMedian.insert m) (w ++ vs) := by
  induction vs generalizing m w with
  | nil => simpa using h
  | cons v vs ih => simpa using ih (h.insert v)

theorem foldl_insert_N (m : RollingMedian α) (vs : List α) :
    (vs.foldl RollingMedian.insert m).N = m.N := by
  induction vs generalizing m with
  | nil => rfl
  | cons v vs ih => exact (ih _).trans (insert_N m v)

end Sumokoin.Epee.RollingMedian

namespace Sumokoin.Core.Weight

open Sumokoin.Chain Sumokoin.Epee Sumokoin.Epee.RollingMedian

theorem rtake_rtake {α : Type} (l : List α) {n k : Nat} (hk : k ≤ n) : (l.rtake n).rtake k = l.rtake k := by
  simp only [List.rtake_eq_reverse_take_reverse, List.reverse_reverse, List.take_take,
    Nat.min_eq_left hk]

/-! ### The stored long term weights -/

/-- The long term weights stored at the heights `[start, start + count)`. -/
def storedLongTermWeights (db : Db) (start count : Nat) : List Nat :=
  (List.range' start count).map fun k => (db.blocks k).longTermWeight

@[simp] theorem length_storedLongTermWeights (db : Db) (start count : Nat) :
    (storedLongTermWeights db start count).length = count := by
  simp [storedLongTermWeights]

theorem storedLongTermWeights_succ (db : Db) (start count : Nat) :
    storedLongTermWeights db start (count + 1) =
      storedLongTermWeights db start count ++ [(db.blocks (start + count)).longTermWeight] := by
  simp [storedLongTermWeights, List.range'_1_concat]

theorem rtake_storedLongTermWeights (db : Db) (start : Nat) {count k : Nat} (hk : k ≤ count) :
    (storedLongTermWeights db start count).rtake k = storedLongTermWeights db (start + count - k) k := by
  rw [List.rtake, length_storedLongTermWeights]
  simp only [storedLongTermWeights, ← List.map_drop, List.drop_range', Nat.mul_one]
  rw [show start + (count - k) = start + count - k by omega, show count - (count - k) = k by omega]

/-- The blocks below the top keep their weights when a block is added. -/
theorem storedLongTermWeights_addBlock {db : Db} (b : BlockRecord) {start count : Nat}
    (h : start + count ≤ db.height) :
    storedLongTermWeights (db.addBlock b) start count = storedLongTermWeights db start count := by
  refine List.map_congr_left fun k hk => ?_
  rw [List.mem_range'_1] at hk
  rw [Db.addBlock_blocks_below db b (by omega)]

theorem getLongTermBlockWeights_eq {db : Db} {start count : Nat} (hpos : 0 < count)
    (h : start + count ≤ db.height) :
    db.getLongTermBlockWeights start count = .ok (storedLongTermWeights db start count) := by
  simp only [Db.getLongTermBlockWeights, Db.getBlockInfo64bitFields,
    if_pos (show start < db.height by omega), min_eq_left (show count ≤ db.height - start by omega)]
  rfl

/-! ### The exact cache -/

/-- The blocks of the chain have distinct hashes, none of them `null_hash`. -/
structure DistinctHashes (db : Db) : Prop where
  ne_zero : ∀ t < db.height, (db.blocks t).hash ≠ 0
  injective : ∀ t < db.height, ∀ t' < db.height, (db.blocks t).hash = (db.blocks t').hash → t = t'

/-- The cache is exact, with `w` the values inserted into its rolling median since the last
`clear`: the rolling median has the window as its capacity and keeps its invariant, and when its
key is the hash of a block of the chain, the values it holds are the stored long term weights of
the blocks up to that one. -/
structure CacheExact (bc : Blockchain) (w : List Nat) : Prop where
  window_pos : 0 < bc.longTermBlockWeightsWindow
  capacity : bc.longTermBlockWeightsCacheRollingMedian.N = bc.longTermBlockWeightsWindow
  inv : Inv bc.longTermBlockWeightsCacheRollingMedian w
  tip : ∀ t < bc.db.height, (bc.db.blocks t).hash = bc.longTermBlockWeightsCacheTipHash →
    bc.longTermBlockWeightsCacheRollingMedian.size ≤ t + 1 ∧
      w.rtake bc.longTermBlockWeightsCacheRollingMedian.size =
        storedLongTermWeights bc.db (t + 1 - bc.longTermBlockWeightsCacheRollingMedian.size)
          bc.longTermBlockWeightsCacheRollingMedian.size

namespace Blockchain

variable {bc : Blockchain} {w : List Nat}

theorem median_eq_of_inv {rm : RollingMedian Nat} (h : Inv rm w) (hsz : 0 < rm.size) :
    rm.median = Epee.median (w.rtake rm.size) :=
  h.median_eq Nat.add_comm hsz

/-- A rolling median of the window's capacity that holds the stored long term weights of `count`
blocks up to a block of the chain is an exact cache under that block's hash, and under
`null_hash`, which no block has. -/
theorem cacheExact_setCache (hd : DistinctHashes bc.db) (hW : 0 < bc.longTermBlockWeightsWindow)
    {rm : RollingMedian Nat} {key start count : Nat} (hcap : rm.N = bc.longTermBlockWeightsWindow)
    (hinv : Inv rm w) (hsize : rm.size = count)
    (hlast : w.rtake count = storedLongTermWeights bc.db start count)
    (hkey : key = 0 ∨ key = (bc.db.blocks (start + count - 1)).hash) (hpos : 0 < count)
    (htop : start + count ≤ bc.db.height) :
    CacheExact (bc.setCache key rm) w := by
  refine ⟨hW, hcap, hinv, fun t ht hkt => ?_⟩
  simp only [setCache_db, setCache_longTermBlockWeightsCacheTipHash,
    setCache_longTermBlockWeightsCacheRollingMedian] at ht hkt ⊢
  -- the key is the hash of the window's top block and of no other block of the chain
  have htop' : t = start + count - 1 := by
    rcases hkey with rfl | rfl
    · exact absurd hkt (hd.ne_zero t ht)
    · exact hd.injective t ht _ (by omega) hkt
  subst htop'
  rw [hsize, hlast, show start + count - 1 + 1 - count = start by omega]
  exact ⟨by omega, rfl⟩

/-- The windows that the callers ask: at most the capacity, inside the chain, and from the genesis
block unless they fill the capacity. -/
structure CallerWindow (bc : Blockchain) (start count : Nat) : Prop where
  pos : 0 < count
  le_window : count ≤ bc.longTermBlockWeightsWindow
  full : start = 0 ∨ count = bc.longTermBlockWeightsWindow
  le_height : start + count ≤ bc.db.height

/-- What a query leaves: the median of the stored long term weights of its window, and an exact
cache that holds that window; nothing but the cache changes. -/
def Answers (bc : Blockchain) (start count : Nat) (r : Except String (Nat × Blockchain)) : Prop :=
  ∃ key rm w', r = .ok (Epee.median (storedLongTermWeights bc.db start count), bc.setCache key rm) ∧
    CacheExact (bc.setCache key rm) w' ∧ rm.size = count ∧
    w'.rtake count = storedLongTermWeights bc.db start count

/-- The cache holds the window: it answers. -/
theorem answers_of_cached (hc : CacheExact bc w) {start count : Nat} (hpos : 0 < count)
    (htip : start + count - 1 < bc.db.height)
    (hsz : count = bc.longTermBlockWeightsCacheRollingMedian.size)
    (hkey : (bc.db.blocks (start + count - 1)).hash = bc.longTermBlockWeightsCacheTipHash) :
    Answers bc start count (.ok (bc.longTermBlockWeightsCacheRollingMedian.median, bc)) := by
  obtain ⟨-, hlast⟩ := hc.tip _ htip hkey
  rw [← hsz, show start + count - 1 + 1 - count = start by omega] at hlast
  refine ⟨_, _, w, ?_, hc, hsz.symm, hlast⟩
  rw [setCache_self, median_eq_of_inv hc.inv (hsz ▸ hpos), ← hsz, hlast]

/-- The cache holds the window one block lower and is full: inserting the top block's stored
weight moves it up, and it answers. A window from the genesis block is never one block above an
exact cache of its size, so a window that is not full never takes this branch. -/
theorem answers_of_incremental (hc : CacheExact bc w) (hd : DistinctHashes bc.db) {start count : Nat}
    (hw : CallerWindow bc start count) (htip0 : 0 < start + count - 1)
    (htip : start + count - 1 < bc.db.height)
    (hsz : count = bc.longTermBlockWeightsCacheRollingMedian.size)
    (hkey : (bc.db.blocks (start + count - 1 - 1)).hash = bc.longTermBlockWeightsCacheTipHash) :
    let rm := bc.longTermBlockWeightsCacheRollingMedian.insert
      (bc.db.blocks (start + count - 1)).longTermWeight
    Answers bc start count
      (.ok (rm.median, bc.setCache (bc.db.blocks (start + count - 1)).hash rm)) := by
  intro rm
  have hpos := hw.pos
  obtain ⟨hle, hlast⟩ := hc.tip _ (by omega) hkey
  rw [← hsz, show start + count - 1 - 1 + 1 - count = start - 1 by omega] at hlast
  have hfull : count = bc.longTermBlockWeightsWindow := hw.full.resolve_left (by omega)
  -- the rolling median is full, so the insert drops the oldest value
  have hinv : Inv rm (w ++ [(bc.db.blocks (start + count - 1)).longTermWeight]) := hc.inv.insert _
  have hlen : count ≤ w.length := by
    have := hc.inv.size_eq
    omega
  have hsize : rm.size = count := by
    rw [hinv.size_eq, List.length_append, List.length_singleton, insert_N, hc.capacity]
    omega
  have hlast' : (w ++ [(bc.db.blocks (start + count - 1)).longTermWeight]).rtake count =
      storedLongTermWeights bc.db start count := by
    obtain ⟨c, rfl⟩ : ∃ c, count = c + 1 := ⟨count - 1, by omega⟩
    rw [List.rtake_concat_succ, ← rtake_rtake w (Nat.le_succ c), hlast,
      rtake_storedLongTermWeights _ _ (Nat.le_succ c), storedLongTermWeights_succ]
    congr 3
    omega
  refine ⟨(bc.db.blocks (start + count - 1)).hash, rm, _, ?_, ?_, hsize, hlast'⟩
  · rw [median_eq_of_inv hinv (by rw [hsize]; exact hpos), hsize, hlast']
  · exact cacheExact_setCache hd hc.window_pos (by rw [insert_N, hc.capacity]) hinv hsize hlast'
      (.inr rfl) hw.pos hw.le_height

/-- The window is read from the database into the cleared rolling median: it answers, under the
key of its top block or `null_hash`. -/
theorem answers_of_rebuild (hc : CacheExact bc w) (hd : DistinctHashes bc.db) {start count key : Nat}
    (hw : CallerWindow bc start count)
    (hkey : key = 0 ∨ key = (bc.db.blocks (start + count - 1)).hash) :
    Answers bc start count ((bc.db.getLongTermBlockWeights start count).map fun weights =>
      let rm := weights.foldl RollingMedian.insert bc.longTermBlockWeightsCacheRollingMedian.clear
      (rm.median, bc.setCache key rm)) := by
  have hpos := hw.pos
  rw [getLongTermBlockWeights_eq hpos hw.le_height]
  have hN : 0 < bc.longTermBlockWeightsCacheRollingMedian.N := hc.capacity ▸ hc.window_pos
  have hinv := (clear_inv _ hN).insertAll (storedLongTermWeights bc.db start count)
  rw [List.nil_append] at hinv
  have hcap : (List.foldl RollingMedian.insert bc.longTermBlockWeightsCacheRollingMedian.clear
      (storedLongTermWeights bc.db start count)).N = bc.longTermBlockWeightsWindow := by
    rw [foldl_insert_N, clear_N, hc.capacity]
  have hsize : (List.foldl RollingMedian.insert bc.longTermBlockWeightsCacheRollingMedian.clear
      (storedLongTermWeights bc.db start count)).size = count := by
    rw [hinv.size_eq, length_storedLongTermWeights, hcap]
    exact min_eq_left hw.le_window
  have hlast : (storedLongTermWeights bc.db start count).rtake count =
      storedLongTermWeights bc.db start count := by
    rw [rtake_storedLongTermWeights _ _ le_rfl, Nat.add_sub_cancel]
  refine ⟨key, _, _, ?_, cacheExact_setCache hd hc.window_pos hcap hinv hsize hlast hkey hw.pos
    hw.le_height, hsize, hlast⟩
  have hmed := median_eq_of_inv hinv (by rw [hsize]; exact hpos)
  rw [hsize, hlast] at hmed
  simp only [Except.map, hmed]

/-- Every window that the callers ask is answered with the median of its stored long term weights,
whichever branch the query takes, and leaves an exact cache that holds the window. -/
theorem getLongTermBlockWeightMedian_answers (hc : CacheExact bc w) (hd : DistinctHashes bc.db)
    {start count : Nat} (hw : CallerWindow bc start count) :
    Answers bc start count (bc.getLongTermBlockWeightMedian start count) := by
  simp only [getLongTermBlockWeightMedian, if_neg (Nat.pos_iff_ne_zero.mp hw.pos)]
  by_cases hin : start + count - 1 < bc.db.height ∧
      count = bc.longTermBlockWeightsCacheRollingMedian.size
  · -- the window is inside the chain and the cache has its size: the key picks the branch
    simp only [if_pos hin]
    by_cases hkey : (bc.db.blocks (start + count - 1)).hash = bc.longTermBlockWeightsCacheTipHash
    · rw [if_pos ⟨hin, hkey⟩]
      exact answers_of_cached hc hw.pos hin.1 hin.2 hkey
    · rw [if_neg fun h => hkey h.2]
      by_cases hincr : 0 < start + count - 1 ∧
          (bc.db.blocks (start + count - 1 - 1)).hash = bc.longTermBlockWeightsCacheTipHash
      · rw [if_pos ⟨hincr.1, hin, hincr.2⟩]
        exact answers_of_incremental hc hd hw hincr.1 hin.1 hin.2 hincr.2
      · rw [if_neg fun h => hincr ⟨h.1, h.2.2⟩]
        exact answers_of_rebuild hc hd hw (.inr rfl)
  · -- otherwise the key becomes null_hash and the window is read from the database
    simp only [if_neg hin]
    split_ifs with hcached hincr
    · exact absurd hcached.1 hin
    · exact absurd hincr.2.1 hin
    · exact answers_of_rebuild hc hd hw (.inl rfl)

end Blockchain

end Sumokoin.Core.Weight
