import Sumokoin.Epee.RollingMedianHeap

/-! The circular buffer of `rolling_median_t` and the first lines of `insert`. `Window` says that
`data` holds the last `sz` values inserted since the last `clear`, oldest first from `idx` once the
buffer is full; `store` keeps it. While the buffer fills, the new index takes the next place of the
fill pattern, one more position in use; once it is full, the new item takes the oldest one's
position, and only the key of that position changes. -/

namespace Sumokoin.Epee

open Sumokoin.ProofKit

namespace RollingMedian

variable {α : Type}

/-- How far index `d` is from the oldest item: the oldest is at `idx` once the buffer is full, and
at `0` before, when `idx = sz`. -/
def rank (m : RollingMedian α) (d : Nat) : Nat :=
  if d < m.idx then d + m.sz - m.idx else d - m.idx

/-- `data` holds the last `sz` of the values `w` inserted since the last `clear`: index `d` holds
the value `rank d` places after the oldest of them. -/
structure Window (m : RollingMedian α) (w : List α) : Prop where
  N_pos : 0 < m.N
  sz : m.sz = min w.length m.N
  idx_lt : m.idx < m.N
  idx_fill : m.sz < m.N → m.idx = m.sz
  data : ∀ d, m.Live d → w[w.length - m.sz + m.rank d]? = some (m.data d)

section Store

variable (m : RollingMedian α) (v : α)

@[simp] theorem store_heap : (m.store v).heap = m.heap := rfl
@[simp] theorem store_pos : (m.store v).pos = m.pos := rfl
@[simp] theorem store_N : (m.store v).N = m.N := rfl
@[simp] theorem store_minCt : (m.store v).minCt = m.minCt := rfl
@[simp] theorem store_maxCt : (m.store v).maxCt = m.maxCt := rfl
@[simp] theorem store_sz : (m.store v).sz = min (m.sz + 1) m.N := rfl
@[simp] theorem store_idx : (m.store v).idx = (m.idx + 1) % m.N := rfl
@[simp] theorem store_data : (m.store v).data = Function.update m.data m.idx v := rfl

end Store

theorem succ_mod_of_lt {i n : Nat} (h : i < n) : (i + 1) % n = if i + 1 = n then 0 else i + 1 := by
  split
  · rename_i h'
    rw [h', Nat.mod_self]
  · exact Nat.mod_eq_of_lt (by omega)

section Window

variable {m : RollingMedian α} {w : List α}

theorem Window.sz_le (h : Window m w) : m.sz ≤ m.N ∧ m.sz ≤ w.length := by
  rw [h.sz]
  omega

theorem Window.rank_lt (h : Window m w) {d : Nat} (hd : m.Live d) : m.rank d < m.sz := by
  have hle := h.sz_le
  have hfill := h.idx_fill
  obtain ⟨hdN, hd⟩ := hd
  unfold rank
  split <;> omega

theorem Window.rank_inj (h : Window m w) {d d' : Nat} (hd : m.Live d) (hd' : m.Live d')
    (heq : m.rank d = m.rank d') : d = d' := by
  have hle := h.sz_le
  have hfill := h.idx_fill
  have hidx := h.idx_lt
  obtain ⟨hdN, hd⟩ := hd
  obtain ⟨hdN', hd'⟩ := hd'
  unfold rank at heq
  split_ifs at heq <;> omega

/-- After `store`, the new value is the newest of the window and the oldest one, once the buffer is
full, has left it. -/
theorem Window.store (h : Window m w) (v : α) : Window (m.store v) (w ++ [v]) := by
  have hsz := h.sz
  have hfill := h.idx_fill
  have hidx := h.idx_lt
  have hnext := succ_mod_of_lt hidx
  refine ⟨h.N_pos, ?_, ?_, ?_, ?_⟩
  · simp only [store_sz, store_N, List.length_append, List.length_singleton]
    omega
  · exact Nat.mod_lt _ h.N_pos
  · simp only [store_sz, store_N, store_idx, hnext]
    split <;> omega
  · intro d hd
    obtain ⟨hdN, hdlive⟩ := hd
    simp only [store_sz, store_N] at hdN hdlive
    simp only [rank, store_sz, store_idx, store_data, hnext, List.length_append,
      List.length_singleton]
    by_cases hdi : d = m.idx
    · -- the new value, at the end of the window
      subst hdi
      rw [Function.update_self]
      have hpos : w.length + 1 - min (m.sz + 1) m.N +
          (if m.idx < (if m.idx + 1 = m.N then 0 else m.idx + 1) then
            m.idx + min (m.sz + 1) m.N - (if m.idx + 1 = m.N then 0 else m.idx + 1)
          else m.idx - (if m.idx + 1 = m.N then 0 else m.idx + 1)) = w.length := by
        split_ifs <;> omega
      rw [hpos, List.getElem?_concat_length]
    · -- an older value, at the same place of the history
      rw [Function.update_of_ne hdi]
      have hlive : m.Live d := ⟨hdN, by omega⟩
      have hold := h.data d hlive
      have hlt := h.rank_lt hlive
      unfold rank at hold hlt
      have hpos : w.length + 1 - min (m.sz + 1) m.N +
          (if d < (if m.idx + 1 = m.N then 0 else m.idx + 1) then
            d + min (m.sz + 1) m.N - (if m.idx + 1 = m.N then 0 else m.idx + 1)
          else d - (if m.idx + 1 = m.N then 0 else m.idx + 1)) =
          w.length - m.sz + (if d < m.idx then d + m.sz - m.idx else d - m.idx) := by
        split_ifs at hlt ⊢ <;> omega
      rw [hpos, List.getElem?_append_left (by omega)]
      exact hold

/-- `Window` reads the items, `N`, `idx` and `sz` only. -/
theorem Window.congr {m' : RollingMedian α} (h : Window m w) (hdata : m'.data = m.data)
    (hN : m'.N = m.N) (hidx : m'.idx = m.idx) (hsz : m'.sz = m.sz) : Window m' w := by
  have hrank : m'.rank = m.rank := by
    funext d
    simp only [rank, hidx, hsz]
  refine ⟨hN ▸ h.N_pos, by rw [hsz, hN]; exact h.sz, by rw [hidx, hN]; exact h.idx_lt,
    by rw [hsz, hN, hidx]; exact h.idx_fill, fun d hd => ?_⟩
  have hd' : m.Live d := by
    obtain ⟨hdN, hdl⟩ := hd
    rw [hN] at hdN
    rw [hN, hsz] at hdl
    exact ⟨hdN, hdl⟩
  rw [hrank, hsz, hdata]
  exact h.data d hd'

theorem Window.of_sameItems {m' : RollingMedian α} (h : Window m w) (hs : SameItems m m') :
    Window m' w :=
  h.congr hs.data hs.N hs.idx hs.sz

end Window

section Links

variable {m m' : RollingMedian α}

/-- `Links` reads `heap`, `pos`, `N`, `sz` and the counts only. -/
theorem Links.congr (hl : Links m) (hheap : m'.heap = m.heap) (hpos : m'.pos = m.pos)
    (hN : m'.N = m.N) (hsz : m'.sz = m.sz) (hmin : m'.minCt = m.minCt)
    (hmax : m'.maxCt = m.maxCt) : Links m' := by
  have hact : ∀ i, m'.Active i ↔ m.Active i := fun i => by
    simp only [Active, hsz, hmin, hmax]
  have hlive : ∀ d, m'.Live d ↔ m.Live d := fun d => by
    simp only [Live, hsz, hN]
  refine ⟨fun d hd => ?_, fun i hi => ?_, fun i hi => ?_, fun d hd => ?_, fun d hd hnot => ?_⟩
  · rw [hheap, hpos]
    exact hl.heap_pos d (hN ▸ hd)
  · rw [hheap, hpos]
    exact hl.pos_heap i ((hact i).mp hi)
  · rw [hheap, hN]
    exact hl.heap_lt i ((hact i).mp hi)
  · rw [hact, hlive, hpos]
    exact hl.active_pos d (hN ▸ hd)
  · rw [hpos]
    exact hl.fill d (hN ▸ hd) fun h => hnot ((hlive d).mpr h)

/-- While the buffer fills, the index `idx = sz` is the next one of the fill pattern: one more
position in use, `fillPos sz`, holds it. -/
theorem Links.grow (hl : Links m) (hheap : m'.heap = m.heap) (hpos : m'.pos = m.pos)
    (hN : m'.N = m.N) (hsz : m'.sz = m.sz + 1) (hlt : m.sz < m.N)
    (hact : ∀ i, m'.Active i ↔ m.Active i ∨ i = fillPos m.sz) : Links m' := by
  -- the new index is not live, so it is still at its place of the fill pattern
  have hnew : m.pos m.sz = fillPos m.sz := hl.fill m.sz hlt fun h => by
    obtain ⟨-, h⟩ := h
    omega
  have hheapnew : m.heap (fillPos m.sz) = m.sz := by
    rw [← hnew]
    exact hl.heap_pos m.sz hlt
  have hlive : ∀ d, d ≠ m.sz → (m'.Live d ↔ m.Live d) := fun d hd => by
    simp only [Live, hsz, hN]
    omega
  refine ⟨fun d hd => ?_, fun i hi => ?_, fun i hi => ?_, fun d hd => ?_, fun d hd hnot => ?_⟩
  · rw [hheap, hpos]
    exact hl.heap_pos d (hN ▸ hd)
  · rw [hheap, hpos]
    rcases (hact i).mp hi with hi | rfl
    · exact hl.pos_heap i hi
    · rw [hheapnew, hnew]
  · rw [hheap, hN]
    rcases (hact i).mp hi with hi | rfl
    · exact hl.heap_lt i hi
    · rw [hheapnew]
      exact hlt
  · rw [hpos, hact]
    by_cases hds : d = m.sz
    · subst hds
      refine iff_of_true (Or.inr hnew) ⟨hN ▸ hlt, ?_⟩
      rw [hsz]
      omega
    · -- an older index is not at the new position, which holds `sz`
      have hne : m.pos d ≠ fillPos m.sz := fun h => hds (by
        rw [← hl.heap_pos d (hN ▸ hd), h, hheapnew])
      rw [hlive d hds, ← hl.active_pos d (hN ▸ hd)]
      exact or_iff_left hne
  · rw [hpos]
    by_cases hds : d = m.sz
    · exact absurd ⟨hN ▸ hlt, by rw [hsz]; omega⟩ (hds ▸ hnot)
    · exact hl.fill d (hN ▸ hd) fun h => hnot ((hlive d hds).mpr h)

/-- With the counts `sz / 2` and `(sz - 1) / 2`, one more item puts the next place of the fill
pattern in use. -/
theorem active_grow (hmax : m.maxCt = m.sz / 2) (hmin : m.minCt = (m.sz - 1) / 2)
    (hsz : m'.sz = m.sz + 1) (hmax' : m'.maxCt = m'.sz / 2) (hmin' : m'.minCt = (m'.sz - 1) / 2)
    (i : Int) : m'.Active i ↔ m.Active i ∨ i = fillPos m.sz := by
  simp only [Active, fillPos, hmax, hmin, hmax', hmin', hsz]
  split <;> omega

end Links

section Keys

variable {m : RollingMedian α} (v : α)

/-- The item at a position after `store`: the new value at the position of `idx`. -/
theorem data_store_heap (hl : Links m) (hidx : m.idx < m.N) {i : Int}
    (hi : m.pos (m.heap i) = i) :
    (m.store v).data (m.heap i) = if i = m.pos m.idx then v else m.data (m.heap i) := by
  rw [store_data, Function.update_apply]
  by_cases hip : i = m.pos m.idx
  · rw [if_pos hip, if_pos (by rw [hip]; exact hl.heap_pos _ hidx)]
  · rw [if_neg hip, if_neg fun h => hip (by rw [← hi, h])]

theorem keyMin_store (hl : Links m) (hidx : m.idx < m.N) {k : Nat}
    (hk : m.pos (m.heap (Side.min.at k)) = Side.min.at k) :
    keyMin (m.store v) k = if Side.min.at k = m.pos m.idx then v else keyMin m k :=
  data_store_heap v hl hidx hk

theorem keyMax_store (hl : Links m) (hidx : m.idx < m.N) {k : Nat}
    (hk : m.pos (m.heap (Side.max.at k)) = Side.max.at k) :
    keyMax (m.store v) k =
      if Side.max.at k = m.pos m.idx then OrderDual.toDual v else keyMax m k := by
  simp only [keyMax, store_heap]
  rw [data_store_heap v hl hidx hk]
  split <;> rfl

/-- After `store`, the min heap is the old one with the key at the place of `idx` replaced, on the
places in use and that place. -/
theorem keyMin_store_update (hl : Links m) (hidx : m.idx < m.N) {j k : Nat}
    (hj : m.pos m.idx = Side.min.at j) (hk : m.Active (Side.min.at k) ∨ k = j) :
    keyMin (m.store v) k = Function.update (keyMin m) j v k := by
  have hpk : m.pos (m.heap (Side.min.at k)) = Side.min.at k := by
    rcases hk with hk | rfl
    · exact hl.pos_heap _ hk
    · rw [← hj]
      exact congrArg m.pos (hl.heap_pos _ hidx)
  rw [keyMin_store v hl hidx hpk, hj, Function.update_apply]
  by_cases hkj : k = j
  · rw [if_pos (congrArg _ hkj), if_pos hkj]
  · rw [if_neg fun h => hkj (Side.at_injective _ h), if_neg hkj]

theorem keyMax_store_update (hl : Links m) (hidx : m.idx < m.N) {j k : Nat}
    (hj : m.pos m.idx = Side.max.at j) (hk : m.Active (Side.max.at k) ∨ k = j) :
    keyMax (m.store v) k = Function.update (keyMax m) j (OrderDual.toDual v) k := by
  have hpk : m.pos (m.heap (Side.max.at k)) = Side.max.at k := by
    rcases hk with hk | rfl
    · exact hl.pos_heap _ hk
    · rw [← hj]
      exact congrArg m.pos (hl.heap_pos _ hidx)
  rw [keyMax_store v hl hidx hpk, hj, Function.update_apply]
  by_cases hkj : k = j
  · rw [if_pos (congrArg _ hkj), if_pos hkj]
  · rw [if_neg fun h => hkj (Side.at_injective _ h), if_neg hkj]

/-- A new item on the min side below the median leaves the max heap. -/
theorem keyMax_store_of_min (hl : Links m) (hidx : m.idx < m.N) {j k : Nat}
    (hj : m.pos m.idx = Side.min.at j) (hj1 : 1 ≤ j) (hk : m.Active (Side.max.at k)) :
    keyMax (m.store v) k = keyMax m k := by
  rw [keyMax_store v hl hidx (hl.pos_heap _ hk), hj, if_neg (by simp only [Side.at]; omega)]

theorem keyMin_store_of_max (hl : Links m) (hidx : m.idx < m.N) {j k : Nat}
    (hj : m.pos m.idx = Side.max.at j) (hj1 : 1 ≤ j) (hk : m.Active (Side.min.at k)) :
    keyMin (m.store v) k = keyMin m k := by
  rw [keyMin_store v hl hidx (hl.pos_heap _ hk), hj, if_neg (by simp only [Side.at]; omega)]

end Keys

end RollingMedian

end Sumokoin.Epee
