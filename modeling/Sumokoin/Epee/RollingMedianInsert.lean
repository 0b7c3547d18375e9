import Sumokoin.Epee.RollingMedianHeap
import Mathlib

/-! The sifts that end `insert`, read as the sifts of `ProofKit.Heap` on the two key arrays. Each
tail restores both heaps from the order it starts from: `minInsertUp` and `maxInsertUp` move an item
towards the median and then, when it reached it, across it; `medianInsert` settles a new median
against both tops; the sift downs of an item that moved away from the median leave the median. -/

namespace Sumokoin.Epee

open Sumokoin.ProofKit

namespace RollingMedian

variable {α : Type} [LinearOrder α]

/-- Both heaps in order, with `heap` and `pos` linked. -/
structure Heaps (m : RollingMedian α) : Prop where
  links : Links m
  min : IsHeap (keyMin m) m.minCt
  max : IsHeap (keyMax m) m.maxCt

/-- The median against the top of the max heap, `mmCmpExch(0, -1)`, and the sift down of the top
when they were exchanged: the tail of `minInsertUp` and the first half of `medianInsert`. -/
def crossMax (m : RollingMedian α) : RollingMedian α :=
  let r := m.mmCmpExch 0 (-1)
  if r.1 then r.2.maxSortDown (-1) else r.2

/-- The bottom of the min heap against the median, `mmCmpExch(1, 0)`, and its sift down. -/
def crossMin (m : RollingMedian α) : RollingMedian α :=
  let r := m.mmCmpExch 1 0
  if r.1 then r.2.minSortDown 1 else r.2

section Unfold

variable (m : RollingMedian α)

theorem minSortUp_at (j : Nat) : m.minSortUp (Side.min.at j) = sortUp .min m j := by
  simp [minSortUp, Side.at]

theorem maxSortUp_at (j : Nat) : m.maxSortUp (Side.max.at j) = sortUp .max m j := by
  simp [maxSortUp, Side.at]

theorem minSortDown_at (j : Nat) :
    m.minSortDown (Side.min.at j) = sortDownFrom .min (count .min m) m (2 * j) := by
  simp [minSortDown, Side.at, count]

theorem maxSortDown_at (j : Nat) :
    m.maxSortDown (Side.max.at j) = sortDownFrom .max (count .max m) m (2 * j) := by
  simp [maxSortDown, Side.at, count]

/-- A sift up from place 1 is the one exchange with the median. -/
theorem sortUp_one (side : Side) : sortUp side m 1 = cmpExch side m 1 0 := by
  rw [sortUp, dif_pos (by omega)]
  by_cases h : (cmpExch side m 1 0).1
  · simp only [h, if_true]
    rw [sortUp, dif_neg (by omega)]
    exact Prod.ext h.symm rfl
  · simp only [h, Bool.false_eq_true, if_false]
    exact Prod.ext (by simpa using h) rfl

theorem crossMax_of_not_lt (h : ¬ keyMax m 1 < keyMax m 0) : crossMax m = m := by
  have hc : m.mmCmpExch 0 (-1) = cmpExch .max m 1 0 := rfl
  rw [crossMax, hc, cmpExch_max, if_neg h]
  rfl

theorem crossMin_of_not_lt (h : ¬ keyMin m 1 < keyMin m 0) : crossMin m = m := by
  have hc : m.mmCmpExch 1 0 = cmpExch .min m 1 0 := rfl
  rw [crossMin, hc, cmpExch_min, if_neg h]
  rfl

theorem minInsertUp_at (j : Nat) :
    m.minInsertUp (Side.min.at j) =
      if (sortUp .min m j).1 then crossMax (sortUp .min m j).2 else (sortUp .min m j).2 := by
  simp only [minInsertUp, minSortUp_at, crossMax]

theorem maxInsertUp_at (j : Nat) :
    m.maxInsertUp (Side.max.at j) =
      if (sortUp .max m j).1 ∧ (sortUp .max m j).2.minCt ≠ 0 then crossMin (sortUp .max m j).2
      else (sortUp .max m j).2 := by
  simp only [maxInsertUp, maxSortUp_at, crossMin]

theorem medianInsert_eq :
    m.medianInsert =
      let m' := if m.maxCt ≠ 0 then crossMax m else m
      if m'.minCt ≠ 0 then crossMin m' else m' := by
  have hmax : ∀ m : RollingMedian α, m.maxSortUp (-1) = m.mmCmpExch 0 (-1) := fun m =>
    (maxSortUp_at m 1).trans (sortUp_one m .max)
  have hmin : ∀ m : RollingMedian α, m.minSortUp 1 = m.mmCmpExch 1 0 := fun m =>
    (minSortUp_at m 1).trans (sortUp_one m .min)
  simp only [medianInsert, crossMax, crossMin, hmax, hmin]
  rfl

theorem crossMax_onSide : OnSide .max m (crossMax m) := by
  have hc : m.mmCmpExch 0 (-1) = cmpExch .max m 1 0 := rfl
  have hx := cmpExch_onSide .max m 1 0
  simp only [crossMax, hc]
  split
  · exact hx.trans (by
      rw [show (-1 : Int) = Side.max.at 1 from rfl, maxSortDown_at]
      exact sortDownFrom_onSide .max _ _ _)
  · exact hx

theorem crossMin_onSide : OnSide .min m (crossMin m) := by
  have hc : m.mmCmpExch 1 0 = cmpExch .min m 1 0 := rfl
  have hx := cmpExch_onSide .min m 1 0
  simp only [crossMin, hc]
  split
  · exact hx.trans (by
      rw [show (1 : Int) = Side.min.at 1 from rfl, minSortDown_at]
      exact sortDownFrom_onSide .min _ _ _)
  · exact hx

/-- The tails of `insert` change `heap` and `pos` only. -/
theorem minInsertUp_sameItems (p : Int) : SameItems m (m.minInsertUp p) := by
  have hup := (sortUp_onSide .min m p.toNat).same
  show SameItems m (if (sortUp .min m p.toNat).1 then crossMax (sortUp .min m p.toNat).2
    else (sortUp .min m p.toNat).2)
  split
  · exact hup.trans (crossMax_onSide _).same
  · exact hup

theorem maxInsertUp_sameItems (p : Int) : SameItems m (m.maxInsertUp p) := by
  have hup := (sortUp_onSide .max m (-p).toNat).same
  show SameItems m (if (sortUp .max m (-p).toNat).1 ∧ (sortUp .max m (-p).toNat).2.minCt ≠ 0 then
    crossMin (sortUp .max m (-p).toNat).2 else (sortUp .max m (-p).toNat).2)
  split
  · exact hup.trans (crossMin_onSide _).same
  · exact hup

theorem minSortDown_sameItems (p : Int) : SameItems m (m.minSortDown p) :=
  (sortDownFrom_onSide .min _ m _).same

theorem maxSortDown_sameItems (p : Int) : SameItems m (m.maxSortDown p) :=
  (sortDownFrom_onSide .max _ m _).same

theorem medianInsert_sameItems : SameItems m m.medianInsert := by
  rw [medianInsert_eq]
  dsimp only
  have h1 : SameItems m (if m.maxCt ≠ 0 then crossMax m else m) := by
    split
    · exact (crossMax_onSide m).same
    · exact SameItems.refl m
  generalize (if m.maxCt ≠ 0 then crossMax m else m) = m1 at h1 ⊢
  split
  · exact h1.trans (crossMin_onSide _).same
  · exact h1

end Unfold

section Cross

variable {m : RollingMedian α}

/-- When the top of the max heap is after the median they exchange, and the old median sinks into
the max heap; the new median is the old top. -/
theorem crossMax_of_lt (hl : Links m) (hsz : 0 < m.sz) (h1 : 1 ≤ m.maxCt)
    (hbelow : ∀ k, 2 ≤ k → k ≤ m.maxCt → keyMax m (k / 2) ≤ keyMax m k)
    (hlt : keyMax m 1 < keyMax m 0) :
    Links (crossMax m) ∧ IsHeap (keyMax (crossMax m)) m.maxCt ∧ OnSide .max m (crossMax m) ∧
      keyMax (crossMax m) 0 = keyMax m 1 := by
  let m2 := m.mmexchange (Side.max.at 0) (Side.max.at 1)
  have hx : crossMax m = sortDownFrom .max (count .max m2) m2 (2 * 1) := by
    have hc : m.mmCmpExch 0 (-1) = cmpExch .max m 1 0 := rfl
    rw [crossMax, hc, cmpExch_max, if_pos hlt]
    exact maxSortDown_at m2 1
  have hkey : keyMax (crossMax m) = siftDown (swapAt (keyMax m) 1 0) m.maxCt 1 := by
    rw [hx, keyMax_sortDownFrom, keyMax_mmexchange]
    rfl
  have hl2 : Links m2 :=
    hl.mmexchange (active_at hsz (Nat.zero_le _) : m.Active (Side.max.at 0))
      (active_at hsz h1 : m.Active (Side.max.at 1))
  refine ⟨?_, ?_, ?_, ?_⟩
  · rw [hx]
    exact sortDownFrom_links hl2 hsz
  · rw [hkey]
    exact siftDown_isHeap (DownOrder.of_root_swap hbelow hlt) (Nat.le_refl 1)
  · rw [hx]
    exact (OnSide.mmexchange m .max 0 1).trans (sortDownFrom_onSide .max _ m2 _)
  · rw [hkey, siftDown_root _ _ (Nat.le_refl 1), swapAt_right]

/-- When the bottom of the min heap is before the median they exchange, and the old median sinks
into the min heap; the new median is the old bottom. -/
theorem crossMin_of_lt (hl : Links m) (hsz : 0 < m.sz) (h1 : 1 ≤ m.minCt)
    (hbelow : ∀ k, 2 ≤ k → k ≤ m.minCt → keyMin m (k / 2) ≤ keyMin m k)
    (hlt : keyMin m 1 < keyMin m 0) :
    Links (crossMin m) ∧ IsHeap (keyMin (crossMin m)) m.minCt ∧ OnSide .min m (crossMin m) ∧
      keyMin (crossMin m) 0 = keyMin m 1 := by
  let m2 := m.mmexchange (Side.min.at 1) (Side.min.at 0)
  have hx : crossMin m = sortDownFrom .min (count .min m2) m2 (2 * 1) := by
    have hc : m.mmCmpExch 1 0 = cmpExch .min m 1 0 := rfl
    rw [crossMin, hc, cmpExch_min, if_pos hlt]
    exact minSortDown_at m2 1
  have hkey : keyMin (crossMin m) = siftDown (swapAt (keyMin m) 1 0) m.minCt 1 := by
    rw [hx, keyMin_sortDownFrom, keyMin_mmexchange]
    rfl
  have hl2 : Links m2 :=
    hl.mmexchange (active_at hsz h1 : m.Active (Side.min.at 1))
      (active_at hsz (Nat.zero_le _) : m.Active (Side.min.at 0))
  refine ⟨?_, ?_, ?_, ?_⟩
  · rw [hx]
    exact sortDownFrom_links hl2 hsz
  · rw [hkey]
    exact siftDown_isHeap (DownOrder.of_root_swap hbelow hlt) (Nat.le_refl 1)
  · rw [hx]
    exact (OnSide.mmexchange m .min 1 0).trans (sortDownFrom_onSide .min _ m2 _)
  · rw [hkey, siftDown_root _ _ (Nat.le_refl 1), swapAt_right]

end Cross

section Frames

variable {m m' : RollingMedian α}

/-- A change on the min side keeps the max heap when the new median is still at or after the top
of the max heap. -/
theorem maxHeap_of_onMin (h : OnSide .min m m') (hmax : IsHeap (keyMax m) m.maxCt)
    (hy : 1 ≤ m.maxCt → keyMax m' 0 ≤ keyMax m 1) : IsHeap (keyMax m') m'.maxCt := by
  rw [keyMax_of_onMin h, h.same.maxCt]
  exact hmax.update_root hy

theorem minHeap_of_onMax (h : OnSide .max m m') (hmin : IsHeap (keyMin m) m.minCt)
    (hy : 1 ≤ m.minCt → keyMin m' 0 ≤ keyMin m 1) : IsHeap (keyMin m') m'.minCt := by
  rw [keyMin_of_onMax h, h.same.minCt]
  exact hmin.update_root hy

/-- The median at or after the top of the max heap, read in the order of the items. -/
theorem top_le_median (hmax : IsHeap (keyMax m) m.maxCt) (h1 : 1 ≤ m.maxCt) :
    OrderDual.ofDual (keyMax m 1) ≤ keyMin m 0 := by
  have h := hmax 1 (Nat.le_refl 1) h1
  rw [show (1 : Nat) / 2 = 0 from rfl, keyMax_zero] at h
  exact OrderDual.toDual_le.mp h

end Frames

section Tails

variable {m : RollingMedian α}

/-- An item at or after the items it passes sinks into the min heap; the median and the max heap
stay as they are. -/
theorem minSortDown_heaps {j : Nat} (hl : Links m) (hsz : 0 < m.sz) (hj : 1 ≤ j)
    (hmin : DownOrder (keyMin m) m.minCt j) (hmax : IsHeap (keyMax m) m.maxCt) :
    Heaps (m.minSortDown (Side.min.at j)) := by
  rw [minSortDown_at]
  have hside := sortDownFrom_onSide .min (count .min m) m (2 * j)
  have hkey : keyMin (sortDownFrom .min (count .min m) m (2 * j)) = siftDown (keyMin m) m.minCt j :=
    keyMin_sortDownFrom _ _ _
  refine ⟨sortDownFrom_links hl hsz, ?_, ?_⟩
  · rw [hkey, hside.same.minCt]
    exact siftDown_isHeap hmin hj
  · refine maxHeap_of_onMin hside hmax fun h1 => ?_
    -- the sift starts below the median and leaves it
    rw [keyMax_zero, hkey, siftDown_root _ _ hj, ← keyMax_zero]
    exact hmax 1 (Nat.le_refl 1) h1

theorem maxSortDown_heaps {j : Nat} (hl : Links m) (hsz : 0 < m.sz) (hj : 1 ≤ j)
    (hmax : DownOrder (keyMax m) m.maxCt j) (hmin : IsHeap (keyMin m) m.minCt) :
    Heaps (m.maxSortDown (Side.max.at j)) := by
  rw [maxSortDown_at]
  have hside := sortDownFrom_onSide .max (count .max m) m (2 * j)
  have hkey : keyMax (sortDownFrom .max (count .max m) m (2 * j)) = siftDown (keyMax m) m.maxCt j :=
    keyMax_sortDownFrom _ _ _
  refine ⟨sortDownFrom_links hl hsz, ?_, ?_⟩
  · refine minHeap_of_onMax hside hmin fun h1 => ?_
    have hroot : keyMax (sortDownFrom .max (count .max m) m (2 * j)) 0 = keyMax m 0 := by
      rw [hkey, siftDown_root _ _ hj]
    rw [keyMax_zero, keyMax_zero] at hroot
    rw [OrderDual.toDual_inj.mp hroot]
    exact hmin 1 (Nat.le_refl 1) h1
  · rw [hkey, hside.same.maxCt]
    exact siftDown_isHeap hmax hj

/-- An item at or before the items it passes rises in the min heap; when it reaches the median it
is compared with the top of the max heap. -/
theorem minInsertUp_heaps {j : Nat} (hl : Links m) (hsz : 0 < m.sz) (hct : m.minCt ≤ m.maxCt)
    (hj : 1 ≤ j) (hjc : j ≤ m.minCt) (hmin : UpOrder (keyMin m) m.minCt j)
    (hmax : IsHeap (keyMax m) m.maxCt) : Heaps (m.minInsertUp (Side.min.at j)) := by
  rw [minInsertUp_at]
  obtain ⟨hkey, hflag⟩ := keyMin_sortUp m j
  have hside := sortUp_onSide .min m j
  set m1 := (sortUp .min m j).2 with hm1
  have hl1 : Links m1 := sortUp_links hl hsz hjc
  have hsz1 : 0 < m1.sz := by rw [hside.same.sz]; exact hsz
  have hmin1 : IsHeap (keyMin m1) m.minCt := by
    rw [hkey]
    exact siftUp_isHeap hmin
  by_cases hstop : (siftUp (keyMin m) j).2 = 0
  · rw [if_pos (by rw [hflag, hstop]; rfl)]
    -- the item reached the median, and the old median is now at place 1 of the min heap
    have hone : keyMin m1 1 = keyMin m 0 := by
      rw [hkey]
      exact siftUp_one_of_eq _ _ hj hstop
    have h1 : 1 ≤ m.maxCt := by omega
    have hmax1 : keyMax m1 = Function.update (keyMax m) 0 (keyMax m1 0) := keyMax_of_onMin hside
    have hkeep : ∀ k, 1 ≤ k → keyMax m1 k = keyMax m k := fun k hk => by
      rw [hmax1, Function.update_of_ne (by omega)]
    have hroot : keyMin m1 0 ≤ keyMin m1 1 := hmin1 1 (Nat.le_refl 1) (by omega)
    by_cases hlt : keyMax m1 1 < keyMax m1 0
    · have hbelow : ∀ k, 2 ≤ k → k ≤ m1.maxCt → keyMax m1 (k / 2) ≤ keyMax m1 k := by
        intro k hk hkc
        rw [hkeep k (by omega), hkeep (k / 2) (by omega)]
        exact hmax k (by omega) (hside.same.maxCt ▸ hkc)
      obtain ⟨hl2, hmax2, hside2, hroot2⟩ :=
        crossMax_of_lt hl1 hsz1 (hside.same.maxCt ▸ h1) hbelow hlt
      refine ⟨hl2, minHeap_of_onMax hside2 (hside.same.minCt ▸ hmin1) fun _ => ?_,
        by rw [hside2.same.maxCt]; exact hmax2⟩
      -- the new median is the old top of the max heap, at or before the old median
      have htop : keyMin (crossMax m1) 0 = OrderDual.ofDual (keyMax m 1) := by
        rw [← hkeep 1 (Nat.le_refl 1), ← hroot2, keyMax_zero]
        rfl
      rw [htop, hone]
      exact top_le_median hmax h1
    · rw [crossMax_of_not_lt m1 hlt]
      refine ⟨hl1, hside.same.minCt ▸ hmin1, maxHeap_of_onMin hside hmax fun _ => ?_⟩
      rw [← hkeep 1 (Nat.le_refl 1)]
      exact not_lt.mp hlt
  · rw [if_neg (by rw [hflag, decide_eq_true_iff]; exact hstop)]
    -- the item stopped below the median, which stays
    have hroot : keyMin m1 0 = keyMin m 0 := by
      rw [hkey]
      exact siftUp_root_of_ne _ _ hstop
    refine ⟨hl1, hside.same.minCt ▸ hmin1, maxHeap_of_onMin hside hmax fun h1 => ?_⟩
    rw [keyMax_zero, hroot, ← keyMax_zero]
    exact hmax 1 (Nat.le_refl 1) h1

/-- An item at or after the items it passes rises in the max heap; when it reaches the median and
the min heap is not empty it is compared with the bottom of the min heap. -/
theorem maxInsertUp_heaps {j : Nat} (hl : Links m) (hsz : 0 < m.sz) (hj : 1 ≤ j)
    (hjc : j ≤ m.maxCt) (hmax : UpOrder (keyMax m) m.maxCt j) (hmin : IsHeap (keyMin m) m.minCt) :
    Heaps (m.maxInsertUp (Side.max.at j)) := by
  rw [maxInsertUp_at]
  obtain ⟨hkey, hflag⟩ := keyMax_sortUp m j
  have hside := sortUp_onSide .max m j
  set m1 := (sortUp .max m j).2 with hm1
  have hl1 : Links m1 := sortUp_links hl hsz hjc
  have hsz1 : 0 < m1.sz := by rw [hside.same.sz]; exact hsz
  have hmax1 : IsHeap (keyMax m1) m.maxCt := by
    rw [hkey]
    exact siftUp_isHeap hmax
  have hmin1 : keyMin m1 = Function.update (keyMin m) 0 (keyMin m1 0) := keyMin_of_onMax hside
  have hkeep : ∀ k, 1 ≤ k → keyMin m1 k = keyMin m k := fun k hk => by
    rw [hmin1, Function.update_of_ne (by omega)]
  by_cases hcross : (siftUp (keyMax m) j).2 = 0 ∧ m.minCt ≠ 0
  · rw [if_pos ⟨by rw [hflag, hcross.1]; rfl, hside.same.minCt ▸ hcross.2⟩]
    -- the item reached the median, and the old median is now at place 1 of the max heap
    have hone : keyMax m1 1 = keyMax m 0 := by
      rw [hkey]
      exact siftUp_one_of_eq _ _ hj hcross.1
    have h1 : 1 ≤ m.minCt := by omega
    by_cases hlt : keyMin m1 1 < keyMin m1 0
    · have hbelow : ∀ k, 2 ≤ k → k ≤ m1.minCt → keyMin m1 (k / 2) ≤ keyMin m1 k := by
        intro k hk hkc
        rw [hkeep k (by omega), hkeep (k / 2) (by omega)]
        exact hmin k (by omega) (hside.same.minCt ▸ hkc)
      obtain ⟨hl2, hmin2, hside2, hroot2⟩ :=
        crossMin_of_lt hl1 hsz1 (hside.same.minCt ▸ h1) hbelow hlt
      refine ⟨hl2, by rw [hside2.same.minCt]; exact hmin2,
        maxHeap_of_onMin hside2 (hside.same.maxCt ▸ hmax1) fun _ => ?_⟩
      -- the new median is the old bottom of the min heap, at or after the old median
      rw [keyMax_zero, hroot2, hkeep 1 (Nat.le_refl 1), hone, keyMax_zero]
      exact OrderDual.toDual_le_toDual.mpr (hmin 1 (Nat.le_refl 1) h1)
    · rw [crossMin_of_not_lt m1 hlt]
      refine ⟨hl1, minHeap_of_onMax hside hmin fun _ => ?_, hside.same.maxCt ▸ hmax1⟩
      rw [← hkeep 1 (Nat.le_refl 1)]
      exact not_lt.mp hlt
  · rw [if_neg fun h => hcross ⟨by rw [hflag, decide_eq_true_iff] at h; exact h.1,
      hside.same.minCt ▸ h.2⟩]
    refine ⟨hl1, minHeap_of_onMax hside hmin fun h1 => ?_, hside.same.maxCt ▸ hmax1⟩
    -- either the item stopped below the median, or the min heap is empty
    have hstop : (siftUp (keyMax m) j).2 ≠ 0 := fun h0 => hcross ⟨h0, by omega⟩
    have hroot : keyMax m1 0 = keyMax m 0 := by
      rw [hkey]
      exact siftUp_root_of_ne _ _ hstop
    rw [keyMax_zero, keyMax_zero] at hroot
    rw [OrderDual.toDual_inj.mp hroot]
    exact hmin 1 (Nat.le_refl 1) h1

/-- A new item at the median is settled against the top of the max heap and then against the bottom
of the min heap; below the median both heaps are in order, and the top is at or before the bottom. -/
theorem medianInsert_heaps (hl : Links m) (hsz : 0 < m.sz)
    (hminBelow : ∀ k, 2 ≤ k → k ≤ m.minCt → keyMin m (k / 2) ≤ keyMin m k)
    (hmaxBelow : ∀ k, 2 ≤ k → k ≤ m.maxCt → keyMax m (k / 2) ≤ keyMax m k)
    (hcross : 1 ≤ m.minCt → 1 ≤ m.maxCt → OrderDual.ofDual (keyMax m 1) ≤ keyMin m 1) :
    Heaps m.medianInsert := by
  rw [medianInsert_eq]
  dsimp only
  -- the first half settles the new median against the top of the max heap
  obtain ⟨m1, hm1, hl1, hmax1, hside1, htop1⟩ : ∃ m1, (if m.maxCt ≠ 0 then crossMax m else m) = m1 ∧
      Links m1 ∧ IsHeap (keyMax m1) m1.maxCt ∧ OnSide .max m m1 ∧
      (1 ≤ m.minCt → 1 ≤ m.maxCt → OrderDual.ofDual (keyMax m1 1) ≤ keyMin m1 1) := by
    by_cases hmax0 : m.maxCt = 0
    · refine ⟨m, if_neg (not_not.mpr hmax0), hl, ?_, OnSide.refl .max m, fun _ h1 => ?_⟩
      · rw [hmax0]
        exact isHeap_zero _
      · omega
    rw [if_pos hmax0]
    by_cases hlt : keyMax m 1 < keyMax m 0
    · obtain ⟨hl1, hmax1, hside1, hroot1⟩ := crossMax_of_lt hl hsz (by omega) hmaxBelow hlt
      refine ⟨crossMax m, rfl, hl1, by rw [hside1.same.maxCt]; exact hmax1, hside1,
        fun hmin1 hmax1' => ?_⟩
      -- the new top is at or before the new median, the old top, which is at or before the bottom
      have hkeep : keyMin (crossMax m) 1 = keyMin m 1 := by
        rw [keyMin_of_onMax hside1, Function.update_of_ne (by omega)]
      have hmed : keyMin (crossMax m) 0 = OrderDual.ofDual (keyMax m 1) := by
        rw [← hroot1, keyMax_zero]
        rfl
      calc OrderDual.ofDual (keyMax (crossMax m) 1)
          ≤ keyMin (crossMax m) 0 := top_le_median (by rw [hside1.same.maxCt]; exact hmax1)
            (by rw [hside1.same.maxCt]; exact hmax1')
        _ = OrderDual.ofDual (keyMax m 1) := hmed
        _ ≤ keyMin m 1 := hcross hmin1 hmax1'
        _ = keyMin (crossMax m) 1 := hkeep.symm
    · rw [crossMax_of_not_lt m hlt]
      exact ⟨m, rfl, hl, IsHeap.of_root hmaxBelow fun _ => not_lt.mp hlt, OnSide.refl .max m,
        hcross⟩
  rw [hm1]
  have hsz1 : 0 < m1.sz := by rw [hside1.same.sz]; exact hsz
  have hbelow1 : ∀ k, 2 ≤ k → k ≤ m1.minCt → keyMin m1 (k / 2) ≤ keyMin m1 k := by
    intro k hk hkc
    rw [keyMin_of_onMax hside1, Function.update_of_ne (by omega), Function.update_of_ne (by omega)]
    exact hminBelow k hk (hside1.same.minCt ▸ hkc)
  -- the second half settles the median against the bottom of the min heap
  by_cases hmin0 : m1.minCt ≠ 0
  · rw [if_pos hmin0]
    by_cases hlt : keyMin m1 1 < keyMin m1 0
    · obtain ⟨hl2, hmin2, hside2, hroot2⟩ := crossMin_of_lt hl1 hsz1 (by omega) hbelow1 hlt
      refine ⟨hl2, by rw [hside2.same.minCt]; exact hmin2, maxHeap_of_onMin hside2 hmax1 fun h1 => ?_⟩
      rw [keyMax_zero, hroot2, OrderDual.toDual_le]
      exact htop1 (by rw [← hside1.same.minCt]; omega) (by rw [← hside1.same.maxCt]; exact h1)
    · rw [crossMin_of_not_lt m1 hlt]
      exact ⟨hl1, IsHeap.of_root hbelow1 fun _ => not_lt.mp hlt, hmax1⟩
  · rw [if_neg hmin0]
    refine ⟨hl1, ?_, hmax1⟩
    rw [not_not.mp hmin0]
    exact isHeap_zero _

end Tails

end RollingMedian

end Sumokoin.Epee
