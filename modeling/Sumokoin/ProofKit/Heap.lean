import Mathlib

/-! Binary heaps laid out on the positions `0, 1, 2, ...` of an array, position `k ≥ 1` below its
parent `k / 2`: the root `0` has the single child `1`, and every other position `j` has the
children `2 * j` and `2 * j + 1`. The sifts exchange entries in place, the way a C heap does;
`UpOrder` and `DownOrder` say what each sift needs of the order at its start (every pair in order
but those at the moving entry), and each sift ends in a heap. Over `αᵒᵈ` the same results are those
of a max heap. -/

namespace Sumokoin.ProofKit

section Swap

variable {β : Type}

/-- The array with the entries at `i` and `j` exchanged. -/
def swapAt (a : Nat → β) (i j : Nat) : Nat → β :=
  fun k => if k = i then a j else if k = j then a i else a k

@[simp] theorem swapAt_left (a : Nat → β) (i j : Nat) : swapAt a i j i = a j := by
  simp [swapAt]

@[simp] theorem swapAt_right (a : Nat → β) (i j : Nat) : swapAt a i j j = a i := by
  by_cases h : j = i <;> simp [swapAt, h]

theorem swapAt_of_ne (a : Nat → β) {i j k : Nat} (hi : k ≠ i) (hj : k ≠ j) :
    swapAt a i j k = a k := by
  simp [swapAt, hi, hj]

end Swap

variable {κ : Type} [LinearOrder κ]

/-- Every position from `1` to `cnt` is at or after its parent. -/
def IsHeap (a : Nat → κ) (cnt : Nat) : Prop :=
  ∀ k, 1 ≤ k → k ≤ cnt → a (k / 2) ≤ a k

/-- `siftUp a j`: the entry at `j` moves towards the root while it is before its parent. The
position where it stops is returned with the array. -/
def siftUp (a : Nat → κ) (j : Nat) : (Nat → κ) × Nat :=
  if h : 0 < j ∧ a j < a (j / 2) then siftUp (swapAt a j (j / 2)) (j / 2) else (a, j)
termination_by j
decreasing_by omega

/-- The loop of `siftDown` at the first child `c` of the moving entry: the earlier of `c` and
`c + 1` is exchanged with the entry while it is before it. -/
def siftDownFrom (a : Nat → κ) (cnt c : Nat) : Nat → κ :=
  if h : 0 < c ∧ c ≤ cnt then
    let c' := if c < cnt ∧ a (c + 1) < a c then c + 1 else c
    if a c' < a (c' / 2) then siftDownFrom (swapAt a c' (c' / 2)) cnt (2 * c') else a
  else a
termination_by cnt + 1 - c
decreasing_by split <;> omega

/-- `siftDown a cnt j`: the entry at `j ≥ 1` moves away from the root while a child within `cnt`
is before it. -/
def siftDown (a : Nat → κ) (cnt j : Nat) : Nat → κ := siftDownFrom a cnt (2 * j)

/-- What `siftUp` from `j` needs: every pair but the one of `j` and its parent is in order, and the
children of `j` are at or after the parent of `j`. -/
structure UpOrder (a : Nat → κ) (cnt j : Nat) : Prop where
  except : ∀ k, 1 ≤ k → k ≤ cnt → k ≠ j → a (k / 2) ≤ a k
  grand : 1 ≤ j → ∀ c, 1 ≤ c → c ≤ cnt → c / 2 = j → a (j / 2) ≤ a c

/-- What `siftDown` from `j` needs: every pair but those of `j` and its children is in order, and
the children of `j` are at or after the parent of `j`. -/
structure DownOrder (a : Nat → κ) (cnt j : Nat) : Prop where
  except : ∀ k, 1 ≤ k → k ≤ cnt → k / 2 ≠ j → a (k / 2) ≤ a k
  grand : 1 ≤ j → ∀ c, 1 ≤ c → c ≤ cnt → c / 2 = j → a (j / 2) ≤ a c

section Order

variable {a : Nat → κ} {cnt j : Nat}

theorem UpOrder.step (o : UpOrder a cnt j) (hj : 1 ≤ j) (hlt : a j < a (j / 2)) :
    UpOrder (swapAt a j (j / 2)) cnt (j / 2) := by
  have hq : j / 2 < j := by omega
  constructor
  · intro k hk hkc hkq
    by_cases hkj : k = j
    · subst hkj
      rw [swapAt_right, swapAt_left]
      exact hlt.le
    · rw [swapAt_of_ne a hkj hkq]
      by_cases hpj : k / 2 = j
      · -- a child of the moving entry: it is after the entry's old parent
        rw [hpj, swapAt_left]
        exact o.grand hj k hk hkc hpj
      · by_cases hpq : k / 2 = j / 2
        · -- a sibling of the moving entry: after the old parent, which is after the entry
          rw [hpq, swapAt_right]
          exact hlt.le.trans (hpq ▸ o.except k hk hkc hkj)
        · rw [swapAt_of_ne a hpj hpq]
          exact o.except k hk hkc hkj
  · intro hq1 c hc hcc hcq
    have hqq : j / 2 / 2 ≠ j := by omega
    have hqq' : j / 2 / 2 ≠ j / 2 := by omega
    rw [swapAt_of_ne a hqq hqq']
    have hup : a (j / 2 / 2) ≤ a (j / 2) := o.except (j / 2) hq1 (by omega) (by omega)
    by_cases hcj : c = j
    · subst hcj
      rw [swapAt_left]
      exact hup
    · rw [swapAt_of_ne a hcj (by omega)]
      exact hup.trans (hcq ▸ o.except c hc hcc hcj)

theorem UpOrder.finish (o : UpOrder a cnt j) (hstop : 1 ≤ j → a (j / 2) ≤ a j) :
    IsHeap a cnt := by
  intro k hk hkc
  by_cases hkj : k = j
  · subst hkj
    exact hstop hk
  · exact o.except k hk hkc hkj

theorem DownOrder.step (o : DownOrder a cnt j) (hj : 1 ≤ j) {c : Nat} (hc : 1 ≤ c)
    (hcc : c ≤ cnt) (hcj : c / 2 = j) (hmin : ∀ d, 1 ≤ d → d ≤ cnt → d / 2 = j → a c ≤ a d)
    (hlt : a c < a j) : DownOrder (swapAt a c j) cnt c := by
  have hjc : j < c := by omega
  constructor
  · intro k hk hkc hkp
    by_cases hkc' : k = c
    · subst hkc'
      rw [hcj, swapAt_left, swapAt_right]
      exact hlt.le
    · by_cases hkj : k = j
      · -- the entry's old place: its parent is before the child that took it
        subst hkj
        rw [swapAt_right, swapAt_of_ne a (by omega) (by omega)]
        exact o.grand hj c hc hcc hcj
      · rw [swapAt_of_ne a hkc' hkj]
        by_cases hpj : k / 2 = j
        · rw [hpj, swapAt_right]
          exact hmin k hk hkc hpj
        · rw [swapAt_of_ne a hkp hpj]
          exact o.except k hk hkc hpj
  · intro _ d hd hdc hdp
    rw [hcj, swapAt_right, swapAt_of_ne a (by omega) (by omega)]
    have := o.except d hd hdc (by omega)
    rwa [hdp] at this

theorem DownOrder.finish (o : DownOrder a cnt j)
    (hstop : ∀ c, 1 ≤ c → c ≤ cnt → c / 2 = j → a j ≤ a c) : IsHeap a cnt := by
  intro k hk hkc
  by_cases hkj : k / 2 = j
  · rw [hkj]
    exact hstop k hk hkc hkj
  · exact o.except k hk hkc hkj

/-- Moving an entry of a heap earlier leaves only its pair with its parent out of order. -/
theorem UpOrder.of_le (h : IsHeap a cnt) {x : κ} (hx : x ≤ a j) :
    UpOrder (Function.update a j x) cnt j := by
  constructor
  · intro k hk hkc hkj
    rw [Function.update_of_ne hkj]
    by_cases hpj : k / 2 = j
    · rw [hpj, Function.update_self]
      exact hx.trans (hpj ▸ h k hk hkc)
    · rw [Function.update_of_ne hpj]
      exact h k hk hkc
  · intro hj c hc hcc hcj
    rw [Function.update_of_ne (by omega), Function.update_of_ne (by omega)]
    exact (h j hj (by omega)).trans (hcj ▸ h c hc hcc)

/-- An entry put after the last position of a heap is only out of order with its parent. -/
theorem UpOrder.of_append (h : IsHeap a cnt) (x : κ) :
    UpOrder (Function.update a (cnt + 1) x) (cnt + 1) (cnt + 1) := by
  constructor
  · intro k hk hkc hkj
    rw [Function.update_of_ne hkj, Function.update_of_ne (by omega)]
    exact h k hk (by omega)
  · intro _ c hc hcc hcj
    omega

/-- Moving an entry other than the root of a heap later leaves only its pairs with its children
out of order. -/
theorem DownOrder.of_le (h : IsHeap a cnt) (hj : 1 ≤ j) {x : κ} (hx : a j ≤ x) :
    DownOrder (Function.update a j x) cnt j := by
  constructor
  · intro k hk hkc hkp
    rw [Function.update_of_ne hkp]
    by_cases hkj : k = j
    · rw [hkj, Function.update_self]
      exact (h j hj (hkj ▸ hkc)).trans hx
    · rw [Function.update_of_ne hkj]
      exact h k hk hkc
  · intro _ c hc hcc hcj
    rw [Function.update_of_ne (by omega), Function.update_of_ne (by omega)]
    exact (h j hj (by omega)).trans (hcj ▸ h c hc hcc)

/-- Below position 1 all pairs are in order and the root is after position 1: exchanging the two
leaves only the pairs of position 1 and its children out of order. -/
theorem DownOrder.of_root_swap (h : ∀ k, 2 ≤ k → k ≤ cnt → a (k / 2) ≤ a k) (hlt : a 1 < a 0) :
    DownOrder (swapAt a 1 0) cnt 1 := by
  constructor
  · intro k hk hkc hkp
    by_cases hk1 : k = 1
    · subst hk1
      simp only [Nat.reduceDiv, swapAt_right, swapAt_left]
      exact hlt.le
    · rw [swapAt_of_ne a hk1 (by omega), swapAt_of_ne a hkp (by omega)]
      exact h k (by omega) hkc
  · intro _ c hc hcc hcj
    rw [show (1 : Nat) / 2 = 0 from rfl, swapAt_right, swapAt_of_ne a (by omega) (by omega)]
    exact hcj ▸ h c (by omega) hcc

/-- The order a sift needs depends only on the positions up to the count. -/
theorem UpOrder.congr (o : UpOrder a cnt j) {b : Nat → κ} (hab : ∀ k, k ≤ cnt → b k = a k) :
    UpOrder b cnt j := by
  constructor
  · intro k hk hkc hkj
    rw [hab k hkc, hab (k / 2) (by omega)]
    exact o.except k hk hkc hkj
  · intro hj c hc hcc hcj
    rw [hab c hcc, hab (j / 2) (by omega)]
    exact o.grand hj c hc hcc hcj

theorem DownOrder.congr (o : DownOrder a cnt j) {b : Nat → κ} (hab : ∀ k, k ≤ cnt → b k = a k) :
    DownOrder b cnt j := by
  constructor
  · intro k hk hkc hkj
    rw [hab k hkc, hab (k / 2) (by omega)]
    exact o.except k hk hkc hkj
  · intro hj c hc hcc hcj
    rw [hab c hcc, hab (j / 2) (by omega)]
    exact o.grand hj c hc hcc hcj

end Order

section Heap

variable {a : Nat → κ} {cnt : Nat}

theorem isHeap_zero (a : Nat → κ) : IsHeap a 0 := fun _ hk hkc => absurd hkc (by omega)

/-- A heap is a heap on the positions where another array agrees with it. -/
theorem IsHeap.congr (h : IsHeap a cnt) {b : Nat → κ} (hab : ∀ k, k ≤ cnt → b k = a k) :
    IsHeap b cnt := by
  intro k hk hkc
  rw [hab k hkc, hab (k / 2) (by omega)]
  exact h k hk hkc

theorem IsHeap.of_root (h : ∀ k, 2 ≤ k → k ≤ cnt → a (k / 2) ≤ a k) (hroot : 1 ≤ cnt → a 0 ≤ a 1) :
    IsHeap a cnt := by
  intro k hk hkc
  by_cases hk1 : k = 1
  · subst hk1
    exact hroot hkc
  · exact h k (by omega) hkc

/-- The root may be replaced by any entry at or before position 1. -/
theorem IsHeap.update_root (h : IsHeap a cnt) {y : κ} (hy : 1 ≤ cnt → y ≤ a 1) :
    IsHeap (Function.update a 0 y) cnt := by
  refine IsHeap.of_root (fun k hk hkc => ?_) fun hc => ?_
  · rw [Function.update_of_ne (by omega), Function.update_of_ne (by omega)]
    exact h k (by omega) hkc
  · rw [Function.update_self, Function.update_of_ne (by omega)]
    exact hy hc

/-- Position 1 is at or before every position below it: the chain of parents leads there. -/
theorem IsHeap.one_le (h : IsHeap a cnt) (k : Nat) (hk : 1 ≤ k) (hkc : k ≤ cnt) : a 1 ≤ a k := by
  by_cases hk1 : k = 1
  · rw [hk1]
  · exact (h.one_le (k / 2) (by omega) (by omega)).trans (h k hk hkc)
termination_by k
decreasing_by omega

/-- The root is at or before every position. -/
theorem IsHeap.root_le (h : IsHeap a cnt) {k : Nat} (hkc : k ≤ cnt) : a 0 ≤ a k := by
  by_cases hk : k = 0
  · rw [hk]
  · exact (h 1 (Nat.le_refl 1) (by omega)).trans (h.one_le k (by omega) hkc)

end Heap


section Sift

theorem siftUp_isHeap {a : Nat → κ} {cnt j : Nat} (o : UpOrder a cnt j) :
    IsHeap (siftUp a j).1 cnt := by
  induction a, j using siftUp.induct with
  | case1 a j h ih =>
    rw [siftUp, dif_pos h]
    exact ih (o.step h.1 h.2)
  | case2 a j h =>
    rw [siftUp, dif_neg h]
    exact o.finish fun hj => not_lt.mp fun hlt => h ⟨hj, hlt⟩

/-- A sift up that stops above the root leaves the root where it was. -/
theorem siftUp_root_of_ne (a : Nat → κ) (j : Nat) (hstop : (siftUp a j).2 ≠ 0) :
    (siftUp a j).1 0 = a 0 := by
  induction a, j using siftUp.induct with
  | case1 a j h ih =>
    rw [siftUp, dif_pos h] at hstop ⊢
    rw [ih hstop]
    -- the exchange at `j` reaches the root only when `j / 2 = 0`, and then the sift ends there
    have hq : j / 2 ≠ 0 := by
      intro hq0
      rw [hq0, siftUp, dif_neg (by omega)] at hstop
      exact hstop rfl
    exact swapAt_of_ne a (by omega) (Ne.symm hq)
  | case2 a j h =>
    rw [siftUp, dif_neg h]

/-- A sift up from below the root that reaches the root puts the old root at position 1. -/
theorem siftUp_one_of_eq (a : Nat → κ) (j : Nat) (hj : 1 ≤ j) (hstop : (siftUp a j).2 = 0) :
    (siftUp a j).1 1 = a 0 := by
  induction a, j using siftUp.induct with
  | case1 a j h ih =>
    rw [siftUp, dif_pos h] at hstop ⊢
    by_cases hq : 1 ≤ j / 2
    · rw [ih hq hstop]
      exact swapAt_of_ne a (by omega) (by omega)
    · -- the last exchange is the one of positions 1 and 0
      have hj1 : j = 1 := by omega
      subst hj1
      have hdone : siftUp (swapAt a 1 0) 0 = (swapAt a 1 0, 0) := by
        rw [siftUp, dif_neg (by omega)]
      simp [hdone]
  | case2 a j h =>
    rw [siftUp, dif_neg h] at hstop
    omega

/-- The child the loop of `siftDown` picks is at or before both children. -/
theorem pick_le (a : Nat → κ) {cnt c : Nat} {d : Nat} (hd : d = c ∨ d = c + 1) (hdc : d ≤ cnt) :
    a (if c < cnt ∧ a (c + 1) < a c then c + 1 else c) ≤ a d := by
  split_ifs with hpick
  · rcases hd with rfl | rfl
    · exact hpick.2.le
    · exact le_rfl
  · rcases hd with rfl | rfl
    · exact le_rfl
    · exact not_lt.mp fun hlt => hpick ⟨by omega, hlt⟩

theorem siftDownFrom_isHeap {a : Nat → κ} {cnt c j : Nat} (o : DownOrder a cnt j) (hj : 1 ≤ j)
    (hc : c = 2 * j) : IsHeap (siftDownFrom a cnt c) cnt := by
  fun_induction siftDownFrom a cnt c generalizing j with
  | case1 a c h c' hswap =>
    rename_i ih
    have hdef : c' = if c < cnt ∧ a (c + 1) < a c then c + 1 else c := rfl
    clear_value c'
    have hc'c : c' = c ∨ c' = c + 1 := by rw [hdef]; split <;> simp
    have hc'cnt : c' ≤ cnt := by rw [hdef]; split <;> omega
    have hpar : c' / 2 = j := by omega
    have hmin : ∀ d, 1 ≤ d → d ≤ cnt → d / 2 = j → a c' ≤ a d := fun d _ hdc hdj => by
      rw [hdef]
      exact pick_le a (by omega) hdc
    have o' := o.step hj (by omega) hc'cnt hpar hmin (hpar ▸ hswap)
    rw [← hpar] at o'
    exact ih o' (by omega) rfl
  | case2 a c h c' =>
    rename_i hstay
    have hdef : c' = if c < cnt ∧ a (c + 1) < a c then c + 1 else c := rfl
    have hpar : c' / 2 = j := by rw [hdef]; split <;> omega
    -- the picked child is not before the entry, and no child is before the picked one
    refine o.finish fun d hd hdc hdj => (not_lt.mp (hpar ▸ hstay)).trans ?_
    rw [hdef]
    exact pick_le a (by omega) hdc
  | case3 a c h =>
    -- the first child is beyond the count: the entry has no children
    exact o.finish fun d _ hdc hdj => absurd hdc (by omega)

theorem siftDown_isHeap {a : Nat → κ} {cnt j : Nat} (o : DownOrder a cnt j) (hj : 1 ≤ j) :
    IsHeap (siftDown a cnt j) cnt :=
  siftDownFrom_isHeap o hj rfl

/-- One step of `siftUp` from position 1 is the exchange with the root. -/
theorem siftUp_one (a : Nat → κ) :
    siftUp a 1 = if a 1 < a 0 then (swapAt a 1 0, 0) else (a, 1) := by
  rw [siftUp]
  by_cases hlt : a 1 < a 0
  · rw [dif_pos ⟨by omega, hlt⟩, if_pos hlt, siftUp, dif_neg (by omega)]
  · rw [dif_neg fun h => hlt h.2, if_neg hlt]

/-- A sift down from below the root leaves the positions above its start alone. -/
theorem siftDownFrom_of_lt (a : Nat → κ) (cnt c : Nat) {k : Nat} (hk : 2 * k + 1 < c) :
    siftDownFrom a cnt c k = a k := by
  fun_induction siftDownFrom a cnt c with
  | case1 a c h c' hswap =>
    rename_i ih
    have hdef : c' = if c < cnt ∧ a (c + 1) < a c then c + 1 else c := rfl
    clear_value c'
    have hc' : c ≤ c' := by rw [hdef]; split <;> omega
    rw [ih (by omega)]
    exact swapAt_of_ne a (by omega) (by omega)
  | case2 => rfl
  | case3 => rfl

theorem siftDown_root (a : Nat → κ) (cnt : Nat) {j : Nat} (hj : 1 ≤ j) : siftDown a cnt j 0 = a 0 :=
  siftDownFrom_of_lt a cnt (2 * j) (by omega)

end Sift

end Sumokoin.ProofKit
