import Sumokoin.Epee.RollingMedianInsert
import Sumokoin.Epee.RollingMedianStore
import Sumokoin.Epee.Median
import Sumokoin.ProofKit.UInt64Order
import Mathlib

/-! `rolling_median_t` against `misc_utils::median`. `Inv m w` is the state after the values `w`
were inserted since the last `clear`: the buffer holds the last `sz` of them, the counts split the
positions in use around the median, and both heaps are in order. The constructor and `clear`
establish it and every branch of `insert` keeps it. The positions in use then hold the window,
split around the median the way `misc_utils::median` splits the sorted values. -/

namespace Sumokoin.Epee

open Sumokoin.ProofKit

namespace RollingMedian

section Clear

variable {α : Type}

theorem fillPos_injective {a b : Nat} (h : fillPos a = fillPos b) : a = b := by
  unfold fillPos at h
  split_ifs at h <;> omega

theorem clearLoop_sameItems (n : Nat) (m : RollingMedian α) : SameItems m (clearLoop n m) := by
  induction n generalizing m with
  | zero => exact SameItems.refl m
  | succ n ih =>
    rw [clearLoop]
    exact (⟨rfl, rfl, rfl, rfl, rfl, rfl⟩ : SameItems m { m with
      pos := Function.update m.pos n (fillPos n)
      heap := Function.update m.heap (fillPos n) n }).trans (ih _)

theorem clearLoop_pos (n : Nat) (m : RollingMedian α) {d : Nat} (hd : d < n) :
    (clearLoop n m).pos d = fillPos d := by
  induction n generalizing m with
  | zero => omega
  | succ n ih =>
    rw [clearLoop]
    by_cases hdn : d < n
    · exact ih _ hdn
    · -- the last index of the loop is the first one it sets, and later steps set smaller ones
      obtain rfl : d = n := by omega
      have hkeep : ∀ (k : Nat) (m' : RollingMedian α), d ≥ k → (clearLoop k m').pos d = m'.pos d := by
        intro k
        induction k with
        | zero => intro m' _; rfl
        | succ k ihk =>
          intro m' hk
          rw [clearLoop, ihk _ (by omega)]
          exact Function.update_of_ne (by omega) _ _
      rw [hkeep d _ (Nat.le_refl d)]
      exact Function.update_self _ _ _

theorem clearLoop_heap_of_ne (n : Nat) (m : RollingMedian α) {i : Int}
    (hi : ∀ k < n, fillPos k ≠ i) : (clearLoop n m).heap i = m.heap i := by
  induction n generalizing m with
  | zero => rfl
  | succ n ih =>
    rw [clearLoop, ih _ fun k hk => hi k (by omega)]
    exact Function.update_of_ne (Ne.symm (hi n (by omega))) _ _

theorem clearLoop_heap_fillPos (n : Nat) (m : RollingMedian α) {d : Nat} (hd : d < n) :
    (clearLoop n m).heap (fillPos d) = d := by
  induction n generalizing m with
  | zero => omega
  | succ n ih =>
    rw [clearLoop]
    by_cases hdn : d < n
    · exact ih _ hdn
    · obtain rfl : d = n := by omega
      rw [clearLoop_heap_of_ne _ _ fun k hk h => absurd (fillPos_injective h) (by omega)]
      exact Function.update_self _ _ _

end Clear

variable {α : Type} [LinearOrder α]

/-- The state after the values `w` were inserted since the last `clear`. -/
structure Inv (m : RollingMedian α) (w : List α) : Prop where
  window : Window m w
  maxCt : m.maxCt = m.sz / 2
  minCt : m.minCt = (m.sz - 1) / 2
  heaps : Heaps m

/-- `clear()` empties the structure and puts every index back at its place of the fill pattern. -/
theorem clear_inv (m : RollingMedian α) (hN : 0 < m.N) : Inv m.clear [] := by
  have hs : SameItems { m with idx := 0, minCt := 0, maxCt := 0, sz := 0 } m.clear :=
    clearLoop_sameItems m.N _
  have hpos : ∀ d < m.N, m.clear.pos d = fillPos d := fun d hd => clearLoop_pos m.N _ hd
  have hheap : ∀ d < m.N, m.clear.heap (fillPos d) = d := fun d hd =>
    clearLoop_heap_fillPos m.N _ hd
  have hN' : m.clear.N = m.N := hs.N
  have hsz : m.clear.sz = 0 := hs.sz
  -- nothing is in use and nothing is live
  have hnotLive : ∀ d, ¬ m.clear.Live d := fun d ⟨_, hd⟩ => by
    rw [hsz, hN'] at hd
    omega
  have hnotActive : ∀ i, ¬ m.clear.Active i := fun i hi => by
    have := hi.1
    omega
  refine ⟨⟨by rw [hN']; exact hN, by rw [hsz]; rfl, by rw [hs.idx, hN']; exact hN,
    fun _ => by rw [hs.idx, hsz], fun d hd => absurd hd (hnotLive d)⟩,
    by rw [hs.maxCt, hsz], by rw [hs.minCt, hsz], ⟨?_, ?_, ?_⟩⟩
  · refine ⟨fun d hd => ?_, fun i hi => absurd hi (hnotActive i), fun i hi => absurd hi (hnotActive i),
      fun d _ => iff_of_false (hnotActive _) (hnotLive d), fun d hd _ => hpos d (hN' ▸ hd)⟩
    rw [hpos d (hN' ▸ hd)]
    exact hheap d (hN' ▸ hd)
  · rw [hs.minCt]
    exact isHeap_zero _
  · rw [hs.maxCt]
    exact isHeap_zero _

/-- The constructor `rolling_median_t(N)`, whatever the fresh buffer holds. -/
theorem create_inv {N : Nat} (hN : 0 < N) (data : Nat → α) : Inv (create N data) [] :=
  clear_inv _ hN

section Insert

theorem insert_of_pos (m : RollingMedian α) (v : α) (hp : 0 < m.pos m.idx) :
    m.insert v =
      if m.minCt < (m.N - 1) / 2 then
        { m.store v with minCt := m.minCt + 1 }.minInsertUp (m.pos m.idx)
      else if v > m.data m.idx then (m.store v).minSortDown (m.pos m.idx)
      else (m.store v).minInsertUp (m.pos m.idx) := by
  simp only [insert, store_minCt, store_N]
  rw [if_pos hp]
  rfl

theorem insert_of_neg (m : RollingMedian α) (v : α) (hp : m.pos m.idx < 0) :
    m.insert v =
      if m.maxCt < m.N / 2 then
        { m.store v with maxCt := m.maxCt + 1 }.maxInsertUp (m.pos m.idx)
      else if v < m.data m.idx then (m.store v).maxSortDown (m.pos m.idx)
      else (m.store v).maxInsertUp (m.pos m.idx) := by
  simp only [insert, store_maxCt, store_N]
  rw [if_neg (not_lt.mpr hp.le), if_pos hp]
  rfl

theorem insert_of_zero (m : RollingMedian α) (v : α) (hp : m.pos m.idx = 0) :
    m.insert v = (m.store v).medianInsert := by
  simp only [insert, hp, lt_irrefl, if_false]

variable {m : RollingMedian α} {w : List α}

/-- A tail that changes only `heap` and `pos` and ends with both heaps in order gives `Inv`. -/
theorem Inv.of_tail {m1 f : RollingMedian α} (hw : Window m1 w) (hmax : m1.maxCt = m1.sz / 2)
    (hmin : m1.minCt = (m1.sz - 1) / 2) (hs : SameItems m1 f) (hf : Heaps f) : Inv f w :=
  ⟨hw.of_sameItems hs, by rw [hs.maxCt, hs.sz]; exact hmax, by rw [hs.minCt, hs.sz]; exact hmin, hf⟩

/-- Once the buffer is full, the oldest item is replaced at its own position and moved from there:
down when the new item is further from the median, up otherwise. -/
theorem Inv.insert_full (h : Inv m w) (hfull : m.sz = m.N) (v : α) :
    Inv (m.insert v) (w ++ [v]) := by
  have hw := h.window
  have hl := h.heaps.links
  have hidx := hw.idx_lt
  have hact : m.Active (m.pos m.idx) := (hl.active_pos _ hidx).mpr ⟨hidx, Or.inl hfull⟩
  have hsz0 : 0 < m.sz := hact.1
  have hsz1 : (m.store v).sz = m.sz := by
    rw [store_sz]
    omega
  have hw1 : Window (m.store v) (w ++ [v]) := hw.store v
  have hl1 : Links (m.store v) := hl.congr rfl rfl rfl hsz1 rfl rfl
  have hpos1 : 0 < (m.store v).sz := by omega
  have hmax1 : (m.store v).maxCt = (m.store v).sz / 2 := by
    rw [hsz1]
    exact h.maxCt
  have hmin1 : (m.store v).minCt = ((m.store v).sz - 1) / 2 := by
    rw [hsz1]
    exact h.minCt
  have hct := h.maxCt
  have hct' := h.minCt
  rcases lt_trichotomy (m.pos m.idx) 0 with hp | hp | hp
  · -- the oldest item is in the max heap
    obtain ⟨j, hj⟩ : ∃ j : Nat, m.pos m.idx = Side.max.at j :=
      ⟨(-m.pos m.idx).toNat, by simp only [Side.at]; omega⟩
    have hj1 : 1 ≤ j := by
      simp only [Side.at] at hj
      omega
    have hjc : j ≤ m.maxCt := by
      have := hact.2.1
      simp only [hj, Side.at] at this
      omega
    have hold : keyMax m j = OrderDual.toDual (m.data m.idx) := by
      simp only [keyMax]
      rw [← hj, hl.heap_pos _ hidx]
    have hkeyMax : ∀ k, k ≤ (m.store v).maxCt →
        keyMax (m.store v) k = Function.update (keyMax m) j (OrderDual.toDual v) k := fun k hk =>
      keyMax_store_update v hl hidx hj (Or.inl (active_at hsz0 hk))
    have hminHeap : IsHeap (keyMin (m.store v)) (m.store v).minCt :=
      h.heaps.min.congr fun k hk => keyMin_store_of_max v hl hidx hj hj1 (active_at hsz0 hk)
    rw [insert_of_neg m v hp, if_neg (by omega), hj]
    split
    · -- the new item is before the old one: it sinks in the max heap
      rename_i hlt
      have hx : keyMax m j ≤ OrderDual.toDual v := by
        rw [hold]
        exact OrderDual.toDual_le_toDual.mpr hlt.le
      have o := (DownOrder.of_le h.heaps.max hj1 hx).congr hkeyMax
      exact Inv.of_tail hw1 hmax1 hmin1 (maxSortDown_sameItems _ _)
        (maxSortDown_heaps hl1 hpos1 hj1 o hminHeap)
    · -- the new item is at or after the old one: it rises
      rename_i hge
      have hx : OrderDual.toDual v ≤ keyMax m j := by
        rw [hold]
        exact OrderDual.toDual_le_toDual.mpr (not_lt.mp hge)
      have o := (UpOrder.of_le h.heaps.max hx).congr hkeyMax
      exact Inv.of_tail hw1 hmax1 hmin1 (maxInsertUp_sameItems _ _)
        (maxInsertUp_heaps hl1 hpos1 hj1 hjc o hminHeap)
  · -- the oldest item is the median
    rw [insert_of_zero m v hp]
    have hj : m.pos m.idx = Side.min.at 0 := hp
    have hj' : m.pos m.idx = Side.max.at 0 := hp
    have hkeyMin : ∀ k, 1 ≤ k → k ≤ m.minCt → keyMin (m.store v) k = keyMin m k := fun k hk hkc => by
      rw [keyMin_store_update v hl hidx hj (Or.inl (active_at hsz0 hkc)),
        Function.update_of_ne (by omega)]
    have hkeyMax : ∀ k, 1 ≤ k → k ≤ m.maxCt → keyMax (m.store v) k = keyMax m k := fun k hk hkc => by
      rw [keyMax_store_update v hl hidx hj' (Or.inl (active_at hsz0 hkc)),
        Function.update_of_ne (by omega)]
    refine Inv.of_tail hw1 hmax1 hmin1 (medianInsert_sameItems _)
      (medianInsert_heaps hl1 hpos1 (fun k hk hkc => ?_) (fun k hk hkc => ?_) fun h1 h2 => ?_)
    · rw [hkeyMin k (by omega) hkc, hkeyMin (k / 2) (by omega) (by simp at hkc; omega)]
      exact h.heaps.min k (by omega) hkc
    · rw [hkeyMax k (by omega) hkc, hkeyMax (k / 2) (by omega) (by simp at hkc; omega)]
      exact h.heaps.max k (by omega) hkc
    · -- the old top of the max heap is at or before the old bottom of the min heap
      rw [hkeyMin 1 (Nat.le_refl 1) h1, hkeyMax 1 (Nat.le_refl 1) h2]
      exact (top_le_median h.heaps.max h2).trans (h.heaps.min 1 (Nat.le_refl 1) h1)
  · -- the oldest item is in the min heap
    obtain ⟨j, hj⟩ : ∃ j : Nat, m.pos m.idx = Side.min.at j :=
      ⟨(m.pos m.idx).toNat, by simp only [Side.at]; omega⟩
    have hj1 : 1 ≤ j := by
      simp only [Side.at] at hj
      omega
    have hjc : j ≤ m.minCt := by
      have := hact.2.2
      simp only [hj, Side.at] at this
      omega
    have hold : keyMin m j = m.data m.idx := by
      simp only [keyMin]
      rw [← hj, hl.heap_pos _ hidx]
    have hkeyMin : ∀ k, k ≤ (m.store v).minCt →
        keyMin (m.store v) k = Function.update (keyMin m) j v k := fun k hk =>
      keyMin_store_update v hl hidx hj (Or.inl (active_at hsz0 hk))
    have hmaxHeap : IsHeap (keyMax (m.store v)) (m.store v).maxCt :=
      h.heaps.max.congr fun k hk => keyMax_store_of_min v hl hidx hj hj1 (active_at hsz0 hk)
    rw [insert_of_pos m v hp, if_neg (by omega), hj]
    split
    · -- the new item is after the old one: it sinks in the min heap
      rename_i hgt
      have hx : keyMin m j ≤ v := by
        rw [hold]
        exact hgt.le
      have o := (DownOrder.of_le h.heaps.min hj1 hx).congr hkeyMin
      exact Inv.of_tail hw1 hmax1 hmin1 (minSortDown_sameItems _ _)
        (minSortDown_heaps hl1 hpos1 hj1 o hmaxHeap)
    · -- the new item is at or before the old one: it rises
      rename_i hle
      have hx : v ≤ keyMin m j := by
        rw [hold]
        exact not_lt.mp hle
      have o := (UpOrder.of_le h.heaps.min hx).congr hkeyMin
      exact Inv.of_tail hw1 hmax1 hmin1 (minInsertUp_sameItems _ _)
        (minInsertUp_heaps hl1 hpos1 (by simp; omega) hj1 hjc o hmaxHeap)

/-- While the buffer fills, the new item takes the next place of the fill pattern: the median for
the first item, then the next place of the max heap after an odd number of items and of the min
heap after an even number. -/
theorem Inv.insert_fill (h : Inv m w) (hfill : m.sz < m.N) (v : α) :
    Inv (m.insert v) (w ++ [v]) := by
  have hw := h.window
  have hl := h.heaps.links
  have hidx := hw.idx_lt
  have hidxsz : m.idx = m.sz := hw.idx_fill hfill
  have hp : m.pos m.idx = fillPos m.sz := by
    rw [hidxsz]
    exact hl.fill m.sz hfill fun hlive => by
      obtain ⟨-, h'⟩ := hlive
      omega
  have hsz1 : (m.store v).sz = m.sz + 1 := by
    rw [store_sz]
    omega
  have hw1 : Window (m.store v) (w ++ [v]) := hw.store v
  have hct := h.maxCt
  have hct' := h.minCt
  rcases Nat.eq_zero_or_pos m.sz with h0 | hpos0
  · -- the first item is the median, and both heaps are empty
    have hp0 : m.pos m.idx = 0 := by
      rw [hp, h0]
      rfl
    rw [insert_of_zero m v hp0]
    have hmax1 : (m.store v).maxCt = (m.store v).sz / 2 := by
      rw [store_maxCt, hsz1]
      omega
    have hmin1 : (m.store v).minCt = ((m.store v).sz - 1) / 2 := by
      rw [store_minCt, hsz1]
      omega
    have hl1 : Links (m.store v) :=
      hl.grow rfl rfl rfl hsz1 hfill (active_grow hct hct' hsz1 hmax1 hmin1)
    refine Inv.of_tail hw1 hmax1 hmin1 (medianInsert_sameItems _)
      (medianInsert_heaps hl1 (by omega) (fun k hk hkc => ?_) (fun k hk hkc => ?_) fun h1 _ => ?_)
    all_goals
      simp only [store_minCt, store_maxCt] at *
      omega
  by_cases hodd : m.sz % 2 = 1
  · -- the next place of the max heap
    have hj : m.pos m.idx = Side.max.at (m.maxCt + 1) := by
      rw [hp]
      simp only [fillPos, if_pos hodd, Side.at]
      omega
    let m1 := { m.store v with maxCt := m.maxCt + 1 }
    have hmax1 : m1.maxCt = m1.sz / 2 := by
      show m.maxCt + 1 = (m.store v).sz / 2
      rw [hsz1]
      omega
    have hmin1 : m1.minCt = (m1.sz - 1) / 2 := by
      show m.minCt = ((m.store v).sz - 1) / 2
      rw [hsz1]
      omega
    have hl1 : Links m1 := hl.grow rfl rfl rfl hsz1 hfill (active_grow hct hct' hsz1 hmax1 hmin1)
    have o : UpOrder (keyMax m1) m1.maxCt (m.maxCt + 1) :=
      (UpOrder.of_append h.heaps.max (OrderDual.toDual v)).congr fun k hk => by
        refine keyMax_store_update v hl hidx hj ?_
        by_cases hkc : k ≤ m.maxCt
        · exact Or.inl (active_at hpos0 hkc)
        · exact Or.inr (by omega)
    have hminHeap : IsHeap (keyMin m1) m1.minCt :=
      h.heaps.min.congr fun k hk => keyMin_store_of_max v hl hidx hj (by omega) (active_at hpos0 hk)
    rw [insert_of_neg m v (by rw [hj]; simp only [Side.at]; omega), if_pos (by omega), hj]
    have hpos1 : 0 < m1.sz := by
      show 0 < (m.store v).sz
      omega
    exact Inv.of_tail (hw1.congr rfl rfl rfl rfl : Window m1 _) hmax1 hmin1
      (maxInsertUp_sameItems _ _) (maxInsertUp_heaps hl1 hpos1 (by omega) (Nat.le_refl _) o hminHeap)
  · -- the next place of the min heap
    have hj : m.pos m.idx = Side.min.at (m.minCt + 1) := by
      rw [hp]
      simp only [fillPos, if_neg hodd, Side.at]
      omega
    let m1 := { m.store v with minCt := m.minCt + 1 }
    have hmax1 : m1.maxCt = m1.sz / 2 := by
      show m.maxCt = (m.store v).sz / 2
      rw [hsz1]
      omega
    have hmin1 : m1.minCt = (m1.sz - 1) / 2 := by
      show m.minCt + 1 = ((m.store v).sz - 1) / 2
      rw [hsz1]
      omega
    have hl1 : Links m1 := hl.grow rfl rfl rfl hsz1 hfill (active_grow hct hct' hsz1 hmax1 hmin1)
    have o : UpOrder (keyMin m1) m1.minCt (m.minCt + 1) :=
      (UpOrder.of_append h.heaps.min v).congr fun k hk => by
        refine keyMin_store_update v hl hidx hj ?_
        by_cases hkc : k ≤ m.minCt
        · exact Or.inl (active_at hpos0 hkc)
        · exact Or.inr (by omega)
    have hmaxHeap : IsHeap (keyMax m1) m1.maxCt :=
      h.heaps.max.congr fun k hk => keyMax_store_of_min v hl hidx hj (by omega) (active_at hpos0 hk)
    rw [insert_of_pos m v (by rw [hj]; simp only [Side.at]; omega), if_pos (by omega), hj]
    have hpos1 : 0 < m1.sz := by
      show 0 < (m.store v).sz
      omega
    exact Inv.of_tail (hw1.congr rfl rfl rfl rfl : Window m1 _) hmax1 hmin1
      (minInsertUp_sameItems _ _) (minInsertUp_heaps hl1 hpos1 (by rw [hmin1, hmax1]; omega)
        (by omega) (Nat.le_refl _) o hmaxHeap)

/-- Every `insert` keeps the invariant. -/
theorem Inv.insert (h : Inv m w) (v : α) : Inv (m.insert v) (w ++ [v]) := by
  rcases Nat.lt_or_ge m.sz m.N with hfill | hfull
  · exact h.insert_fill hfill v
  · exact h.insert_full (Nat.le_antisymm h.window.sz_le.1 hfull) v

end Insert

section Median

variable {m : RollingMedian α} {w : List α}

/-- The items at the positions in use, from `-maxCt` up to `minCt`. -/
def items (m : RollingMedian α) : List α :=
  (List.range m.sz).map fun (t : Nat) => m.data (m.heap ((t : Int) - m.maxCt))

theorem Inv.active_items (h : Inv m w) {t : Nat} (ht : t < m.sz) :
    m.Active ((t : Int) - m.maxCt) := by
  have hct := h.maxCt
  have hct' := h.minCt
  refine ⟨by omega, by omega, by omega⟩

/-- The positions in use hold the last `sz` values: each live index once, at its rank. -/
theorem Inv.window_perm (h : Inv m w) : (w.drop (w.length - m.sz)).Perm m.items := by
  have hw := h.window
  have hl := h.heaps.links
  have hlive : ∀ t < m.sz, m.Live (m.heap ((t : Int) - m.maxCt)) := fun t ht =>
    live_heap hl (h.active_items ht)
  -- the ranks of the items at the positions in use are `0, ..., sz - 1` in some order
  let f : Nat → Nat := fun t => m.rank (m.heap ((t : Int) - m.maxCt))
  have hnodup : ((List.range m.sz).map f).Nodup := by
    refine List.Nodup.map_on (fun t ht t' ht' heq => ?_) List.nodup_range
    rw [List.mem_range] at ht ht'
    have hd := hw.rank_inj (hlive t ht) (hlive t' ht') heq
    have h1 := hl.pos_heap _ (h.active_items ht)
    have h2 := hl.pos_heap _ (h.active_items ht')
    rw [hd, h2] at h1
    omega
  have hsub : (List.range m.sz).map f ⊆ List.range m.sz := fun r hr => by
    obtain ⟨t, ht, rfl⟩ := List.mem_map.mp hr
    exact List.mem_range.mpr (hw.rank_lt (hlive t (List.mem_range.mp ht)))
  have hperm : ((List.range m.sz).map f).Perm (List.range m.sz) :=
    (List.Nodup.subperm hnodup hsub).perm_of_length_le (by simp)
  -- the window read at the ranks
  let g : Nat → α := fun r => (w.drop (w.length - m.sz)).getD r (m.data 0)
  have hlen : (w.drop (w.length - m.sz)).length = m.sz := by
    have := hw.sz_le
    simp only [List.length_drop]
    omega
  have hwin : w.drop (w.length - m.sz) = (List.range m.sz).map g := by
    refine List.ext_getElem (by simp [hlen]) fun r h1 h2 => ?_
    simp only [List.getElem_map, List.getElem_range, g]
    exact (List.getD_eq_getElem _ _ h1).symm
  have hitems : m.items = ((List.range m.sz).map f).map g := by
    rw [items, List.map_map]
    refine List.map_congr_left fun t ht => ?_
    have hd := hw.data _ (hlive t (List.mem_range.mp ht))
    simp only [Function.comp, g, f, List.getD_eq_getElem?_getD, List.getElem?_drop, hd,
      Option.getD_some]
  rw [hwin, hitems]
  exact (hperm.map g).symm

/-- The items of the max heap, then the median, then the items of the min heap. -/
theorem Inv.items_eq (h : Inv m w) (hsz : 0 < m.sz) :
    m.items = (List.range m.maxCt).map (fun (t : Nat) => m.data (m.heap ((t : Int) - m.maxCt))) ++
      keyMin m 0 :: (List.range m.minCt).map fun t => keyMin m (t + 1) := by
  have hct := h.maxCt
  have hct' := h.minCt
  have hs : m.sz = m.maxCt + (m.minCt + 1) := by omega
  rw [items, hs, List.range_add, List.map_append, List.range_succ_eq_map]
  simp only [List.map_cons, List.map_map]
  congr 2
  · simp [keyMin, Side.at]
  · refine List.map_congr_left fun t _ => ?_
    simp only [Function.comp, keyMin, Side.at]
    rw [show ((m.maxCt + t.succ : Nat) : Int) - m.maxCt = ((t + 1 : Nat) : Int) by omega]

/-- The max heap's items are at or before the median. -/
theorem Inv.maxItem_le (h : Inv m w) {t : Nat} (ht : t < m.maxCt) :
    m.data (m.heap ((t : Int) - m.maxCt)) ≤ keyMin m 0 := by
  have hk : (t : Int) - m.maxCt = Side.max.at (m.maxCt - t) := by
    simp only [Side.at]
    omega
  have hle := h.heaps.max.root_le (show m.maxCt - t ≤ m.maxCt by omega)
  rw [keyMax_zero] at hle
  rw [hk]
  exact OrderDual.toDual_le.mp hle

/-- Below the top, the max heap's items are at or before the top. -/
theorem Inv.maxItem_le_top (h : Inv m w) {t : Nat} (ht : t + 1 < m.maxCt) :
    m.data (m.heap ((t : Int) - m.maxCt)) ≤ m.data (m.heap (-1)) := by
  have hk : (t : Int) - m.maxCt = Side.max.at (m.maxCt - t) := by
    simp only [Side.at]
    omega
  have hle := h.heaps.max.one_le (m.maxCt - t) (by omega) (by omega)
  rw [hk]
  exact OrderDual.ofDual_le_ofDual.mpr hle

/-- `median()` is `misc_utils::median` of the last `size()` values: the middle item for an odd
number, and the average of the top of the max heap and the median for an even number. -/
theorem Inv.median_eq [Add α] [Div α] [OfNat α 2] [Zero α] (hcomm : ∀ a b : α, a + b = b + a)
    (h : Inv m w) (hsz : 0 < m.sz) : m.median = Epee.median (w.drop (w.length - m.sz)) := by
  have hct := h.maxCt
  have hct' := h.minCt
  rw [median_perm h.window_perm, h.items_eq hsz]
  have hB : ∀ b ∈ (List.range m.minCt).map (fun t => keyMin m (t + 1)), keyMin m 0 ≤ b := by
    intro b hb
    obtain ⟨t, ht, rfl⟩ := List.mem_map.mp hb
    exact h.heaps.min.root_le (by rw [List.mem_range] at ht; omega)
  by_cases heven : m.minCt < m.maxCt
  · -- an even number: the max heap has one item more, and its top is the lower middle value
    have hmax : m.maxCt = m.minCt + 1 := by omega
    have hA : (List.range m.maxCt).map (fun (t : Nat) => m.data (m.heap ((t : Int) - m.maxCt))) =
        (List.range m.minCt).map (fun (t : Nat) => m.data (m.heap ((t : Int) - m.maxCt))) ++
          [m.data (m.heap (-1))] := by
      rw [hmax, List.range_succ, List.map_append, List.map_singleton]
      congr 4
      omega
    have hA' : ∀ z ∈ (List.range m.minCt).map (fun (t : Nat) => m.data (m.heap ((t : Int) - m.maxCt))),
        z ≤ m.data (m.heap (-1)) := by
      intro z hz
      obtain ⟨t, ht, rfl⟩ := List.mem_map.mp hz
      exact h.maxItem_le_top (by rw [List.mem_range] at ht; omega)
    have htop : m.data (m.heap (-1)) ≤ keyMin m 0 := top_le_median h.heaps.max (by omega)
    rw [hA, List.append_assoc, List.singleton_append,
      median_of_split_even (List.Perm.refl _) hA' htop hB (by simp)]
    simp only [RollingMedian.median, if_pos heven]
    rw [hcomm]
    rfl
  · -- an odd number: as many items on each side of the median
    have hA : ∀ a ∈ (List.range m.maxCt).map (fun (t : Nat) => m.data (m.heap ((t : Int) - m.maxCt))),
        a ≤ keyMin m 0 := by
      intro a ha
      obtain ⟨t, ht, rfl⟩ := List.mem_map.mp ha
      exact h.maxItem_le (List.mem_range.mp ht)
    rw [median_of_split_odd (List.Perm.refl _) hA hB (by simp; omega)]
    simp only [RollingMedian.median, if_neg heven]
    rfl

end Median

section Run

/-- A call on a `rolling_median_t`. -/
inductive Call (α : Type) where
  | insert (v : α)
  | clear

/-- The state after a call. -/
def Call.apply (m : RollingMedian α) : Call α → RollingMedian α
  | .insert v => m.insert v
  | .clear => m.clear

/-- The values inserted since the last `clear`, after a call. -/
def Call.since (w : List α) : Call α → List α
  | .insert v => w ++ [v]
  | .clear => []

/-- The state after a sequence of calls. -/
def run (m : RollingMedian α) (calls : List (Call α)) : RollingMedian α := calls.foldl Call.apply m

/-- The values inserted since the last `clear` of a sequence of calls, oldest first. -/
def sinceClear (calls : List (Call α)) : List α := calls.foldl Call.since []

variable {m : RollingMedian α} {w : List α}

theorem insert_N (m : RollingMedian α) (v : α) : (m.insert v).N = m.N := by
  simp only [insert]
  split_ifs
  · exact (minInsertUp_sameItems _ _).N
  · exact (minSortDown_sameItems _ _).N
  · exact (minInsertUp_sameItems _ _).N
  · exact (maxInsertUp_sameItems _ _).N
  · exact (maxSortDown_sameItems _ _).N
  · exact (maxInsertUp_sameItems _ _).N
  · exact (medianInsert_sameItems _).N

theorem Call.apply_N (m : RollingMedian α) (c : Call α) : (c.apply m).N = m.N := by
  cases c with
  | insert v => exact insert_N m v
  | clear => exact (clearLoop_sameItems _ _).N

theorem run_N (m : RollingMedian α) (calls : List (Call α)) : (run m calls).N = m.N := by
  induction calls generalizing m with
  | nil => rfl
  | cons c calls ih => exact (ih _).trans (Call.apply_N m c)

theorem Inv.apply (h : Inv m w) (c : Call α) : Inv (c.apply m) (c.since w) := by
  cases c with
  | insert v => exact h.insert v
  | clear => exact clear_inv m h.window.N_pos

/-- Every sequence of calls keeps the invariant, with the values inserted since the last `clear`. -/
theorem Inv.run (h : Inv m w) (calls : List (Call α)) :
    Inv (run m calls) (calls.foldl Call.since w) := by
  induction calls generalizing m w with
  | nil => exact h
  | cons c calls ih => exact ih (h.apply c)

omit [LinearOrder α] in
theorem sinceClear_insert (calls : List (Call α)) (v : α) :
    sinceClear (calls ++ [.insert v]) = sinceClear calls ++ [v] := by
  simp only [sinceClear, List.foldl_append, List.foldl_cons, List.foldl_nil, Call.since]

end Run

/-- `rolling_median_t<uint64_t>` of capacity `N ≥ 1`, after any calls of `insert` and `clear` that end
with an `insert`: `size()` is the number of values inserted since the last `clear`, at most `N`,
and `median()` is `misc_utils::median` of the last `size()` of them. -/
theorem run_median_eq_median (N : Nat) (hN : 1 ≤ N) (data : Nat → UInt64)
    (calls : List (Call UInt64)) (v : UInt64) :
    let m := run (create N data) (calls ++ [.insert v])
    let w := sinceClear (calls ++ [.insert v])
    m.size = min N w.length ∧ m.median = Epee.median (w.drop (w.length - m.size)) := by
  intro m w
  have hinv : Inv m w := (create_inv hN data).run _
  have hN' : m.N = N := (run_N _ _).trans (clearLoop_sameItems _ _).N
  have hsz : m.sz = min w.length N := hN' ▸ hinv.window.sz
  have hlen : 1 ≤ w.length := by
    simp only [w, sinceClear_insert, List.length_append, List.length_singleton]
    omega
  refine ⟨by rw [size, hsz, Nat.min_comm], ?_⟩
  exact hinv.median_eq UInt64.add_comm (by omega)

theorem run_median_eq_median_three :
    1 ≤ 3 ∧
      let m := run (create 3 fun _ => (0 : UInt64)) [.insert 5, .insert 1, .insert 3]
      let w := sinceClear ([.insert 5, .insert 1, .insert 3] : List (Call UInt64))
      m.size = min 3 w.length ∧ m.median = Epee.median (w.drop (w.length - m.size)) :=
  ⟨by decide, run_median_eq_median 3 (by decide) (fun _ => 0) [.insert 5, .insert 1] 3⟩

end RollingMedian

end Sumokoin.Epee
