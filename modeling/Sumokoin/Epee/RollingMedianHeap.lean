import Sumokoin.Epee.RollingMedian
import Sumokoin.ProofKit.Heap
import Mathlib

/-! The two heaps of `rolling_median_t` read as arrays of items: `keyMin` along the min heap and
`keyMax`, in the reversed order, along the max heap, both starting at the median. The sifts of the
model are the sifts of `ProofKit.Heap` on these arrays; a sift on one side leaves the other side
alone except at the median; and every exchange between live places keeps `heap` and `pos`
inverse to each other. -/

namespace Sumokoin.Epee

open Sumokoin.ProofKit

@[simp] theorem Side.at_zero (side : Side) : side.at 0 = 0 := by cases side <;> simp [Side.at]

theorem Side.at_injective (side : Side) {x y : Nat} (h : side.at x = side.at y) : x = y := by
  cases side <;> simp [Side.at] at h <;> omega

/-- The positions of a side's heap, the median included. -/
def Side.owns : Side → Int → Prop
  | .min, i => 0 ≤ i
  | .max, i => i ≤ 0

theorem Side.owns_at (side : Side) (j : Nat) : side.owns (side.at j) := by
  cases side <;> simp [Side.owns, Side.at]

namespace RollingMedian

variable {α : Type}

/-- The number of places of a side below the median. -/
def count (side : Side) (m : RollingMedian α) : Nat :=
  match side with
  | .min => m.minCt
  | .max => m.maxCt

/-- Index `d` holds one of the items in the window: all of them once the buffer is full, the first
`sz` before. -/
def Live (m : RollingMedian α) (d : Nat) : Prop := d < m.N ∧ (m.sz = m.N ∨ d < m.sz)

/-- Position `i` is in use: between `-maxCt` and `minCt`, once an item is in. -/
def Active (m : RollingMedian α) (i : Int) : Prop :=
  0 < m.sz ∧ -(m.maxCt : Int) ≤ i ∧ i ≤ m.minCt

theorem active_at {side : Side} {m : RollingMedian α} {j : Nat} (hsz : 0 < m.sz)
    (hj : j ≤ count side m) : m.Active (side.at j) := by
  cases side <;> simp only [count] at hj <;> simp only [Active, Side.at] <;> omega

/-- `heap` and `pos` are inverse on the positions in use, which hold exactly the live indexes, and
every other index is still at its place of the fill pattern. -/
structure Links (m : RollingMedian α) : Prop where
  heap_pos : ∀ d < m.N, m.heap (m.pos d) = d
  pos_heap : ∀ i, m.Active i → m.pos (m.heap i) = i
  heap_lt : ∀ i, m.Active i → m.heap i < m.N
  active_pos : ∀ d < m.N, (m.Active (m.pos d) ↔ m.Live d)
  fill : ∀ d < m.N, ¬ m.Live d → m.pos d = fillPos d

/-- `m'` holds the items, counts and cursor of `m`: only `heap` and `pos` may differ. -/
structure SameItems (m m' : RollingMedian α) : Prop where
  data : m'.data = m.data
  N : m'.N = m.N
  idx : m'.idx = m.idx
  minCt : m'.minCt = m.minCt
  maxCt : m'.maxCt = m.maxCt
  sz : m'.sz = m.sz

theorem SameItems.refl (m : RollingMedian α) : SameItems m m := ⟨rfl, rfl, rfl, rfl, rfl, rfl⟩

theorem SameItems.trans {m m' m'' : RollingMedian α} (h : SameItems m m') (h' : SameItems m' m'') :
    SameItems m m'' :=
  ⟨h'.data.trans h.data, h'.N.trans h.N, h'.idx.trans h.idx, h'.minCt.trans h.minCt,
    h'.maxCt.trans h.maxCt, h'.sz.trans h.sz⟩

theorem SameItems.mmexchange (m : RollingMedian α) (i j : Int) : SameItems m (m.mmexchange i j) :=
  ⟨rfl, rfl, rfl, rfl, rfl, rfl⟩

theorem SameItems.count {m m' : RollingMedian α} (h : SameItems m m') (side : Side) :
    count side m' = count side m := by
  cases side
  · exact h.minCt
  · exact h.maxCt

/-- `m'` is `m` after exchanges on one side: the items and counts are the same, and `heap` differs
only at the positions of that side. -/
structure OnSide (side : Side) (m m' : RollingMedian α) : Prop where
  same : SameItems m m'
  off : ∀ i, ¬ side.owns i → m'.heap i = m.heap i

theorem OnSide.refl (side : Side) (m : RollingMedian α) : OnSide side m m :=
  ⟨SameItems.refl m, fun _ _ => rfl⟩

theorem OnSide.trans {side : Side} {m m' m'' : RollingMedian α} (h : OnSide side m m')
    (h' : OnSide side m' m'') : OnSide side m m'' :=
  ⟨h.same.trans h'.same, fun i hi => (h'.off i hi).trans (h.off i hi)⟩

section Fields

variable (m : RollingMedian α)

@[simp] theorem mmexchange_data (i j : Int) : (m.mmexchange i j).data = m.data := rfl
@[simp] theorem mmexchange_N (i j : Int) : (m.mmexchange i j).N = m.N := rfl
@[simp] theorem mmexchange_idx (i j : Int) : (m.mmexchange i j).idx = m.idx := rfl
@[simp] theorem mmexchange_minCt (i j : Int) : (m.mmexchange i j).minCt = m.minCt := rfl
@[simp] theorem mmexchange_maxCt (i j : Int) : (m.mmexchange i j).maxCt = m.maxCt := rfl
@[simp] theorem mmexchange_sz (i j : Int) : (m.mmexchange i j).sz = m.sz := rfl

theorem mmexchange_heap (i j k : Int) :
    (m.mmexchange i j).heap k = if k = j then m.heap i else if k = i then m.heap j else m.heap k := by
  simp only [mmexchange, Function.update_apply]

theorem mmexchange_pos (i j : Int) (d : Nat) :
    (m.mmexchange i j).pos d =
      if d = m.heap i then j else if d = m.heap j then i else m.pos d := by
  simp only [mmexchange, Function.update_apply]
  by_cases hij : i = j
  · subst hij
    by_cases hd : d = m.heap i <;> simp [hd]
  · simp [hij]

theorem mmexchange_heap_of_ne {i j k : Int} (hi : k ≠ i) (hj : k ≠ j) :
    (m.mmexchange i j).heap k = m.heap k := by
  rw [mmexchange_heap, if_neg hj, if_neg hi]

theorem OnSide.mmexchange (side : Side) (x y : Nat) :
    OnSide side m (m.mmexchange (side.at x) (side.at y)) :=
  ⟨SameItems.mmexchange m _ _, fun _ hi => mmexchange_heap_of_ne m
    (fun h => hi (h ▸ side.owns_at x)) (fun h => hi (h ▸ side.owns_at y))⟩

theorem live_heap {m : RollingMedian α} (hl : Links m) {i : Int} (hi : m.Active i) :
    m.Live (m.heap i) := by
  have h := hl.active_pos (m.heap i) (hl.heap_lt i hi)
  rw [hl.pos_heap i hi] at h
  exact h.mp hi

/-- An exchange of two positions in use keeps `heap` and `pos` linked. -/
theorem Links.mmexchange {m : RollingMedian α} (hl : Links m) {i j : Int} (hi : m.Active i)
    (hj : m.Active j) : Links (m.mmexchange i j) := by
  have hinj : ∀ {k : Int}, m.Active k → ∀ {k' : Int}, m.Active k' → m.heap k = m.heap k' → k = k' :=
    fun hk _ hk' he => by rw [← hl.pos_heap _ hk, he, hl.pos_heap _ hk']
  -- the counts are those of `m`, so positions in use and live indexes are too
  change Links { m with heap := (m.mmexchange i j).heap, pos := (m.mmexchange i j).pos }
  constructor
  · intro d hd
    show (m.mmexchange i j).heap ((m.mmexchange i j).pos d) = d
    rw [mmexchange_pos]
    by_cases hdi : d = m.heap i
    · rw [if_pos hdi, mmexchange_heap, if_pos rfl, hdi]
    · rw [if_neg hdi]
      by_cases hdj : d = m.heap j
      · rw [if_pos hdj, mmexchange_heap]
        by_cases hij : i = j
        · rw [if_pos hij, hdj, hij]
        · rw [if_neg hij, if_pos rfl]
          exact hdj.symm
      · rw [if_neg hdj, mmexchange_heap_of_ne]
        · exact hl.heap_pos d hd
        · intro he
          exact hdi (by rw [← hl.heap_pos d hd, he])
        · intro he
          exact hdj (by rw [← hl.heap_pos d hd, he])
  · intro k hk
    show (m.mmexchange i j).pos ((m.mmexchange i j).heap k) = k
    rw [mmexchange_heap]
    by_cases hkj : k = j
    · rw [if_pos hkj, mmexchange_pos, if_pos rfl, hkj]
    · rw [if_neg hkj]
      by_cases hki : k = i
      · have hne : m.heap j ≠ m.heap i := fun he => hkj (hki.trans (hinj hi hj he.symm))
        rw [if_pos hki, mmexchange_pos, if_neg hne, if_pos rfl, hki]
      · rw [if_neg hki, mmexchange_pos, if_neg fun he => hki (hinj hk hi he),
          if_neg fun he => hkj (hinj hk hj he)]
        exact hl.pos_heap k hk
  · intro k hk
    show (m.mmexchange i j).heap k < m.N
    rw [mmexchange_heap]
    split_ifs
    · exact hl.heap_lt i hi
    · exact hl.heap_lt j hj
    · exact hl.heap_lt k hk
  · intro d hd
    show m.Active ((m.mmexchange i j).pos d) ↔ m.Live d
    rw [mmexchange_pos]
    split_ifs with hdi hdj
    · exact ⟨fun _ => hdi ▸ live_heap hl hi, fun _ => hj⟩
    · exact ⟨fun _ => hdj ▸ live_heap hl hj, fun _ => hi⟩
    · exact hl.active_pos d hd
  · intro d hd hlive
    show (m.mmexchange i j).pos d = fillPos d
    rw [mmexchange_pos, if_neg fun (he : d = m.heap i) => hlive (he ▸ live_heap hl hi),
      if_neg fun (he : d = m.heap j) => hlive (he ▸ live_heap hl hj)]
    exact hl.fill d hd hlive

end Fields


/-- The min heap as an array: place `j` holds the item at position `j`. -/
def keyMin (m : RollingMedian α) (j : Nat) : α := m.data (m.heap (Side.min.at j))

/-- The max heap as an array in the reversed order: place `j` holds the item at position `-j`. -/
def keyMax (m : RollingMedian α) (j : Nat) : αᵒᵈ :=
  OrderDual.toDual (m.data (m.heap (Side.max.at j)))

theorem keyMax_zero (m : RollingMedian α) : keyMax m 0 = OrderDual.toDual (keyMin m 0) := by
  simp [keyMax, keyMin]

section Keys

variable (m : RollingMedian α)

/-- The exchange of two positions exchanges the places they are on a side. -/
theorem key_mmexchange (side : Side) (x y : Nat) (k : Nat) :
    m.data ((m.mmexchange (side.at x) (side.at y)).heap (side.at k)) =
      swapAt (fun j => m.data (m.heap (side.at j))) x y k := by
  rw [mmexchange_heap]
  by_cases hky : k = y
  · subst hky
    simp
  · have hy : side.at k ≠ side.at y := fun h => hky (side.at_injective h)
    rw [if_neg hy]
    by_cases hkx : k = x
    · subst hkx
      simp
    · rw [if_neg fun h => hkx (side.at_injective h), swapAt_of_ne _ hkx hky]

theorem keyMin_mmexchange (x y : Nat) :
    keyMin (m.mmexchange (Side.min.at x) (Side.min.at y)) = swapAt (keyMin m) x y :=
  funext (key_mmexchange m .min x y)

theorem swapAt_comm {β : Type} (a : Nat → β) (x y : Nat) : swapAt a x y = swapAt a y x := by
  funext k
  by_cases hx : k = x <;> by_cases hy : k = y <;> simp [swapAt, hx, hy] <;> simp_all

theorem keyMax_mmexchange (x y : Nat) :
    keyMax (m.mmexchange (Side.max.at y) (Side.max.at x)) = swapAt (keyMax m) x y := by
  funext k
  simp only [keyMax, mmexchange_data, key_mmexchange m .max y x k, swapAt]
  split_ifs <;> subst_vars <;> rfl

end Keys

variable [LinearOrder α]

section Exchange

variable (m : RollingMedian α)

theorem cmpExch_min (c p : Nat) :
    cmpExch .min m c p =
      if keyMin m c < keyMin m p then (true, m.mmexchange (Side.min.at c) (Side.min.at p))
      else (false, m) := by
  by_cases h : keyMin m c < keyMin m p
  · simp only [keyMin] at h
    simp [cmpExch, mmCmpExch, mmless, keyMin, h]
  · simp only [keyMin] at h
    simp [cmpExch, mmCmpExch, mmless, keyMin, h]

theorem cmpExch_max (c p : Nat) :
    cmpExch .max m c p =
      if keyMax m c < keyMax m p then (true, m.mmexchange (Side.max.at p) (Side.max.at c))
      else (false, m) := by
  by_cases h : keyMax m c < keyMax m p
  · simp only [keyMax, OrderDual.toDual_lt_toDual] at h
    simp [cmpExch, mmCmpExch, mmless, keyMax, h]
  · simp only [keyMax, OrderDual.toDual_lt_toDual] at h
    simp [cmpExch, mmCmpExch, mmless, keyMax, h]

theorem pickLess_min (c : Nat) : pickLess .min m c = decide (keyMin m (c + 1) < keyMin m c) := by
  unfold pickLess mmless keyMin
  congr

theorem pickLess_max (c : Nat) : pickLess .max m c = decide (keyMax m (c + 1) < keyMax m c) := by
  simp [pickLess, mmless, keyMax]

end Exchange

section Sift

theorem cmpExch_onSide (side : Side) (m : RollingMedian α) (c p : Nat) :
    OnSide side m (cmpExch side m c p).2 := by
  cases side
  · rw [cmpExch_min]
    split_ifs
    · exact OnSide.mmexchange m .min c p
    · exact OnSide.refl .min m
  · rw [cmpExch_max]
    split_ifs
    · exact OnSide.mmexchange m .max p c
    · exact OnSide.refl .max m

/-- The sifts change `heap` and `pos` only, and `heap` only on their own side. -/
theorem sortUp_onSide (side : Side) (m : RollingMedian α) (j : Nat) :
    OnSide side m (sortUp side m j).2 := by
  fun_induction sortUp side m j with
  | case1 m j h r hr ih => exact (cmpExch_onSide side m j (j / 2)).trans ih
  | case2 m j h r hr => exact cmpExch_onSide side m j (j / 2)
  | case3 m j h => exact OnSide.refl side m

theorem sortDownFrom_onSide (side : Side) (cnt : Nat) (m : RollingMedian α) (c : Nat) :
    OnSide side m (sortDownFrom side cnt m c) := by
  fun_induction sortDownFrom side cnt m c with
  | case1 m c h c' r hr ih => exact (cmpExch_onSide side m _ _).trans ih
  | case2 m c h c' r hr => exact cmpExch_onSide side m _ _
  | case3 m c h => exact OnSide.refl side m

/-- `minSortUp` is `siftUp` on the min heap, and reports whether it reached the median. -/
theorem keyMin_sortUp (m : RollingMedian α) (j : Nat) :
    keyMin (sortUp .min m j).2 = (siftUp (keyMin m) j).1 ∧
      (sortUp .min m j).1 = decide ((siftUp (keyMin m) j).2 = 0) := by
  fun_induction sortUp Side.min m j with
  | case1 m j h r hr =>
    rename_i ih
    have hdef : r = cmpExch .min m j (j / 2) := rfl
    clear_value r
    subst hdef
    have hlt : keyMin m j < keyMin m (j / 2) := by
      by_contra hlt
      rw [cmpExch_min, if_neg hlt] at hr
      exact absurd hr (by simp)
    rw [cmpExch_min, if_pos hlt] at ih ⊢
    rw [keyMin_mmexchange] at ih
    rw [siftUp, dif_pos ⟨h, hlt⟩]
    exact ih
  | case2 m j h r hr =>
    have hdef : r = cmpExch .min m j (j / 2) := rfl
    clear_value r
    subst hdef
    have hlt : ¬ keyMin m j < keyMin m (j / 2) := by
      intro hlt
      rw [cmpExch_min, if_pos hlt] at hr
      exact hr rfl
    rw [cmpExch_min, if_neg hlt, siftUp, dif_neg fun hc => hlt hc.2]
    simp only [true_and]
    simp only [Bool.false_eq, decide_eq_false_iff_not]
    omega
  | case3 m j h =>
    obtain rfl : j = 0 := by omega
    rw [siftUp, dif_neg (by omega)]
    simp

/-- `maxSortUp` is `siftUp` on the max heap in the reversed order. -/
theorem keyMax_sortUp (m : RollingMedian α) (j : Nat) :
    keyMax (sortUp .max m j).2 = (siftUp (keyMax m) j).1 ∧
      (sortUp .max m j).1 = decide ((siftUp (keyMax m) j).2 = 0) := by
  fun_induction sortUp Side.max m j with
  | case1 m j h r hr =>
    rename_i ih
    have hdef : r = cmpExch .max m j (j / 2) := rfl
    clear_value r
    subst hdef
    have hlt : keyMax m j < keyMax m (j / 2) := by
      by_contra hlt
      rw [cmpExch_max, if_neg hlt] at hr
      exact absurd hr (by simp)
    rw [cmpExch_max, if_pos hlt] at ih ⊢
    rw [keyMax_mmexchange] at ih
    rw [siftUp, dif_pos ⟨h, hlt⟩]
    exact ih
  | case2 m j h r hr =>
    have hdef : r = cmpExch .max m j (j / 2) := rfl
    clear_value r
    subst hdef
    have hlt : ¬ keyMax m j < keyMax m (j / 2) := by
      intro hlt
      rw [cmpExch_max, if_pos hlt] at hr
      exact hr rfl
    rw [cmpExch_max, if_neg hlt, siftUp, dif_neg fun hc => hlt hc.2]
    simp only [true_and]
    simp only [Bool.false_eq, decide_eq_false_iff_not]
    omega
  | case3 m j h =>
    obtain rfl : j = 0 := by omega
    rw [siftUp, dif_neg (by omega)]
    simp

/-- `minSortDown` is `siftDown` on the min heap. -/
theorem keyMin_sortDownFrom (cnt : Nat) (m : RollingMedian α) (c : Nat) :
    keyMin (sortDownFrom .min cnt m c) = siftDownFrom (keyMin m) cnt c := by
  fun_induction sortDownFrom Side.min cnt m c with
  | case1 m c h c' r hr =>
    rename_i ih
    have hc' : c' = if c < cnt ∧ keyMin m (c + 1) < keyMin m c then c + 1 else c := by
      show (if c < cnt ∧ pickLess .min m c = true then c + 1 else c) = _
      simp only [pickLess_min, decide_eq_true_eq]
    have hdef : r = cmpExch .min m c' (c' / 2) := rfl
    clear_value c' r
    subst hdef
    have hlt : keyMin m c' < keyMin m (c' / 2) := by
      by_contra hlt
      rw [cmpExch_min, if_neg hlt] at hr
      exact absurd hr (by simp)
    rw [cmpExch_min, if_pos hlt, keyMin_mmexchange] at ih
    rw [cmpExch_min, if_pos hlt, siftDownFrom, dif_pos h]
    dsimp only
    rw [← hc', if_pos hlt]
    exact ih
  | case2 m c h c' r hr =>
    have hc' : c' = if c < cnt ∧ keyMin m (c + 1) < keyMin m c then c + 1 else c := by
      show (if c < cnt ∧ pickLess .min m c = true then c + 1 else c) = _
      simp only [pickLess_min, decide_eq_true_eq]
    have hdef : r = cmpExch .min m c' (c' / 2) := rfl
    clear_value c' r
    subst hdef
    have hlt : ¬ keyMin m c' < keyMin m (c' / 2) := by
      intro hlt
      rw [cmpExch_min, if_pos hlt] at hr
      exact hr rfl
    rw [cmpExch_min, if_neg hlt, siftDownFrom, dif_pos h]
    dsimp only
    rw [← hc', if_neg hlt]
  | case3 m c h =>
    rw [siftDownFrom, dif_neg h]

/-- `maxSortDown` is `siftDown` on the max heap in the reversed order. -/
theorem keyMax_sortDownFrom (cnt : Nat) (m : RollingMedian α) (c : Nat) :
    keyMax (sortDownFrom .max cnt m c) = siftDownFrom (keyMax m) cnt c := by
  fun_induction sortDownFrom Side.max cnt m c with
  | case1 m c h c' r hr =>
    rename_i ih
    have hc' : c' = if c < cnt ∧ keyMax m (c + 1) < keyMax m c then c + 1 else c := by
      show (if c < cnt ∧ pickLess .max m c = true then c + 1 else c) = _
      simp only [pickLess_max, decide_eq_true_eq]
    have hdef : r = cmpExch .max m c' (c' / 2) := rfl
    clear_value c' r
    subst hdef
    have hlt : keyMax m c' < keyMax m (c' / 2) := by
      by_contra hlt
      rw [cmpExch_max, if_neg hlt] at hr
      exact absurd hr (by simp)
    rw [cmpExch_max, if_pos hlt, keyMax_mmexchange] at ih
    rw [cmpExch_max, if_pos hlt, siftDownFrom, dif_pos h]
    dsimp only
    rw [← hc', if_pos hlt]
    exact ih
  | case2 m c h c' r hr =>
    have hc' : c' = if c < cnt ∧ keyMax m (c + 1) < keyMax m c then c + 1 else c := by
      show (if c < cnt ∧ pickLess .max m c = true then c + 1 else c) = _
      simp only [pickLess_max, decide_eq_true_eq]
    have hdef : r = cmpExch .max m c' (c' / 2) := rfl
    clear_value c' r
    subst hdef
    have hlt : ¬ keyMax m c' < keyMax m (c' / 2) := by
      intro hlt
      rw [cmpExch_max, if_pos hlt] at hr
      exact hr rfl
    rw [cmpExch_max, if_neg hlt, siftDownFrom, dif_pos h]
    dsimp only
    rw [← hc', if_neg hlt]
  | case3 m c h =>
    rw [siftDownFrom, dif_neg h]

theorem cmpExch_links {m : RollingMedian α} (hl : Links m) (side : Side) {c p : Nat}
    (hsz : 0 < m.sz) (hc : c ≤ count side m) (hp : p ≤ count side m) :
    Links (cmpExch side m c p).2 := by
  cases side
  · rw [cmpExch_min]
    split_ifs
    · exact hl.mmexchange (active_at hsz hc) (active_at hsz hp)
    · exact hl
  · rw [cmpExch_max]
    split_ifs
    · exact hl.mmexchange (active_at hsz hp) (active_at hsz hc)
    · exact hl

/-- A sift up from a place in use keeps `heap` and `pos` linked. -/
theorem sortUp_links {side : Side} {m : RollingMedian α} {j : Nat} (hl : Links m)
    (hsz : 0 < m.sz) (hj : j ≤ count side m) : Links (sortUp side m j).2 := by
  fun_induction sortUp side m j with
  | case1 m j h r hr =>
    rename_i ih
    have hsame := (cmpExch_onSide side m j (j / 2)).same
    exact ih (cmpExch_links hl side hsz hj (by omega)) (hsame.sz ▸ hsz) (by rw [hsame.count]; omega)
  | case2 m j h r hr => exact cmpExch_links hl side hsz hj (by omega)
  | case3 m j h => exact hl

/-- A sift down over the places of its side keeps `heap` and `pos` linked. -/
theorem sortDownFrom_links {side : Side} {m : RollingMedian α} {c : Nat} (hl : Links m)
    (hsz : 0 < m.sz) : Links (sortDownFrom side (count side m) m c) := by
  have key : ∀ cnt, cnt = count side m → Links (sortDownFrom side cnt m c) := by
    intro cnt hcnt
    fun_induction sortDownFrom side cnt m c with
    | case1 m c h c' r hr =>
      rename_i ih
      have hc' : c' ≤ cnt := by
        show (if c < cnt ∧ pickLess side m c = true then c + 1 else c) ≤ cnt
        split <;> omega
      have hsame := (cmpExch_onSide side m c' (c' / 2)).same
      exact ih (cmpExch_links hl side hsz (hcnt ▸ hc') (by omega)) (hsame.sz ▸ hsz)
        (by rw [hsame.count]; exact hcnt)
    | case2 m c h c' r hr =>
      have hc' : c' ≤ cnt := by
        show (if c < cnt ∧ pickLess side m c = true then c + 1 else c) ≤ cnt
        split <;> omega
      exact cmpExch_links hl side hsz (hcnt ▸ hc') (by omega)
    | case3 m c h => exact hl
  exact key _ rfl

omit [LinearOrder α] in
/-- A change on the min heap's side moves the max heap at the median only. -/
theorem keyMax_of_onMin {m m' : RollingMedian α} (h : OnSide .min m m') :
    keyMax m' = Function.update (keyMax m) 0 (keyMax m' 0) := by
  funext k
  by_cases hk : k = 0
  · subst hk
    rw [Function.update_self]
  · rw [Function.update_of_ne hk]
    simp only [keyMax, h.same.data]
    rw [h.off _ (by simp only [Side.owns, Side.at]; omega)]

omit [LinearOrder α] in
theorem keyMin_of_onMax {m m' : RollingMedian α} (h : OnSide .max m m') :
    keyMin m' = Function.update (keyMin m) 0 (keyMin m' 0) := by
  funext k
  by_cases hk : k = 0
  · subst hk
    rw [Function.update_self]
  · rw [Function.update_of_ne hk]
    simp only [keyMin, h.same.data]
    rw [h.off _ (by simp only [Side.owns, Side.at]; omega)]

end Sift

end RollingMedian

end Sumokoin.Epee
