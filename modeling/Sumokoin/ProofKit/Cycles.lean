import Mathlib
import Sumokoin.ProofKit.Heap

/-! The cycles of a map `σ` that permutes the numbers below `n`. The iterates of a number `k`
return to it after `L ≤ n` steps and are distinct before (`CycleLength`), so its cycle is
`σ^[0] k, ..., σ^[L - 1] k`. A pass over the numbers in increasing order meets each cycle first at
its least number: `MeetsBelow σ n i k` says that the cycle of `k` holds a number below `i`.
Exchanging the consecutive numbers of a cycle one after the other (`cycleSwaps`) moves every entry
of an array along the cycle, and any sequence of exchanges reads the array through the sequence
applied to the identity (`foldl_swapAt_eq_comp`). -/

namespace Sumokoin.ProofKit

/-- `σ` permutes the numbers below `n`. -/
structure PermOn (n : Nat) (σ : Nat → Nat) : Prop where
  lt : ∀ k, k < n → σ k < n
  inj : ∀ a b, a < n → b < n → σ a = σ b → a = b

/-- `L` is the length of the cycle of `k`: the least positive number of steps back to `k`. -/
structure CycleLength (σ : Nat → Nat) (k L : Nat) : Prop where
  pos : 0 < L
  back : σ^[L] k = k
  least : ∀ j, 0 < j → j < L → σ^[j] k ≠ k

/-- The cycle of `k` holds a number below `i`, within its first `n` steps. -/
def MeetsBelow (σ : Nat → Nat) (n i k : Nat) : Prop := ∃ t, t < n ∧ σ^[t] k < i

instance (σ : Nat → Nat) (n i k : Nat) : Decidable (MeetsBelow σ n i k) := by
  unfold MeetsBelow
  infer_instance

/-- `x` is on the cycle of `k`, within its first `n` steps. -/
def OnCycle (σ : Nat → Nat) (n k x : Nat) : Prop := ∃ t, t < n ∧ σ^[t] k = x

instance (σ : Nat → Nat) (n k x : Nat) : Decidable (OnCycle σ n k x) := by
  unfold OnCycle
  infer_instance

namespace PermOn

variable {n : Nat} {σ : Nat → Nat}

theorem iterate_lt (perm : PermOn n σ) {k : Nat} (hk : k < n) : ∀ j, σ^[j] k < n
  | 0 => hk
  | j + 1 => by
    rw [Function.iterate_succ_apply']
    exact perm.lt _ (perm.iterate_lt hk j)

theorem iterate_inj (perm : PermOn n σ) :
    ∀ j {a b : Nat}, a < n → b < n → σ^[j] a = σ^[j] b → a = b
  | 0, _, _, _, _, same => same
  | j + 1, a, b, ha, hb, same => by
    rw [Function.iterate_succ_apply, Function.iterate_succ_apply] at same
    exact perm.inj a b ha hb (perm.iterate_inj j (perm.lt a ha) (perm.lt b hb) same)

/-- Two iterates of `k` that agree are a whole number of returns apart. -/
theorem iterate_sub_eq (perm : PermOn n σ) {k a b : Nat} (hk : k < n) (le : a ≤ b)
    (same : σ^[b] k = σ^[a] k) : σ^[b - a] k = k := by
  have split : σ^[b] k = σ^[a] (σ^[b - a] k) := by
    rw [← Function.iterate_add_apply, Nat.add_sub_cancel' le]
  rw [split] at same
  exact perm.iterate_inj a (perm.iterate_lt hk _) hk same

/-- Among the first `n + 1` iterates of `k` two agree, so `k` returns within `n` steps. -/
theorem exists_return (perm : PermOn n σ) {k : Nat} (hk : k < n) :
    ∃ L, 0 < L ∧ L ≤ n ∧ σ^[L] k = k := by
  obtain ⟨a, b, ne, same⟩ := Fintype.exists_ne_map_eq_of_card_lt
    (fun j : Fin (n + 1) => (⟨σ^[j] k, perm.iterate_lt hk j⟩ : Fin n)) (by simp)
  simp only [Fin.mk.injEq] at same
  have ne' : (a : Nat) ≠ b := Fin.val_ne_of_ne ne
  rcases Nat.lt_or_gt_of_ne ne' with lt | lt
  · exact ⟨b - a, by omega, by omega, perm.iterate_sub_eq hk lt.le same.symm⟩
  · exact ⟨a - b, by omega, by omega, perm.iterate_sub_eq hk lt.le same⟩

theorem exists_cycleLength (perm : PermOn n σ) {k : Nat} (hk : k < n) :
    ∃ L, L ≤ n ∧ CycleLength σ k L := by
  classical
  have returns : ∃ L, 0 < L ∧ σ^[L] k = k :=
    let ⟨L, pos, _, back⟩ := perm.exists_return hk
    ⟨L, pos, back⟩
  obtain ⟨L, pos, le, back⟩ := perm.exists_return hk
  refine ⟨Nat.find returns, (Nat.find_min' returns ⟨pos, back⟩).trans le,
    (Nat.find_spec returns).1, (Nat.find_spec returns).2, fun j jPos lt back' => ?_⟩
  exact Nat.find_min returns lt ⟨jPos, back'⟩

end PermOn

namespace CycleLength

variable {n : Nat} {σ : Nat → Nat} {k L : Nat}

theorem iterate_mod (cycle : CycleLength σ k L) (m : Nat) : σ^[m % L] k = σ^[m] k :=
  Function.IsPeriodicPt.iterate_mod_apply cycle.back m

theorem iterate_mul (cycle : CycleLength σ k L) (t : Nat) : σ^[L * t] k = k :=
  Function.IsPeriodicPt.mul_const cycle.back t

/-- The first `L` iterates of `k` are distinct. -/
theorem iterate_injective (perm : PermOn n σ) (hk : k < n) (cycle : CycleLength σ k L)
    {a b : Nat} (ha : a < L) (hb : b < L) (same : σ^[a] k = σ^[b] k) : a = b := by
  rcases Nat.lt_trichotomy a b with lt | eq | lt
  · exact absurd (perm.iterate_sub_eq hk lt.le same.symm) (cycle.least _ (by omega) (by omega))
  · exact eq
  · exact absurd (perm.iterate_sub_eq hk lt.le same) (cycle.least _ (by omega) (by omega))

theorem le (perm : PermOn n σ) (hk : k < n) (cycle : CycleLength σ k L) : L ≤ n := by
  obtain ⟨L', le', cycle'⟩ := perm.exists_cycleLength hk
  by_contra big
  exact cycle.least L' cycle'.pos (by omega) cycle'.back

/-- Every iterate of `k` is one of its first `L`. -/
theorem exists_lt (cycle : CycleLength σ k L) (m : Nat) : ∃ j, j < L ∧ σ^[j] k = σ^[m] k :=
  ⟨m % L, Nat.mod_lt m cycle.pos, cycle.iterate_mod m⟩

/-- `k` is an iterate of each of its iterates. -/
theorem exists_iterate_back (cycle : CycleLength σ k L) (m : Nat) :
    ∃ j, σ^[j] (σ^[m] k) = k := by
  have more : m ≤ L * (m + 1) := by
    have := Nat.mul_le_mul_right (m + 1) cycle.pos
    omega
  refine ⟨L * (m + 1) - m, ?_⟩
  rw [← Function.iterate_add_apply, Nat.sub_add_cancel more, cycle.iterate_mul]

end CycleLength

section Meets

variable {n : Nat} {σ : Nat → Nat}

/-- The cycle of `k` meets the numbers below `i` as soon as some iterate is below `i`. -/
theorem meetsBelow_of_iterate (perm : PermOn n σ) {i k t : Nat} (hk : k < n)
    (below : σ^[t] k < i) : MeetsBelow σ n i k := by
  obtain ⟨L, le, cycle⟩ := perm.exists_cycleLength hk
  obtain ⟨j, lt, same⟩ := cycle.exists_lt t
  exact ⟨j, by omega, same ▸ below⟩

/-- Numbers of one cycle meet the same numbers. -/
theorem meetsBelow_iterate_iff (perm : PermOn n σ) {i k : Nat} (hk : k < n) (m : Nat) :
    MeetsBelow σ n i (σ^[m] k) ↔ MeetsBelow σ n i k := by
  obtain ⟨L, -, cycle⟩ := perm.exists_cycleLength hk
  constructor
  · rintro ⟨t, -, below⟩
    rw [← Function.iterate_add_apply] at below
    exact meetsBelow_of_iterate perm hk below
  · rintro ⟨t, -, below⟩
    obtain ⟨j, back⟩ := cycle.exists_iterate_back m
    exact meetsBelow_of_iterate perm (perm.iterate_lt hk m)
      (show σ^[t + j] (σ^[m] k) < i by rw [Function.iterate_add_apply, back]; exact below)

/-- A pass at `i` adds to the cycles met the cycle of `i`. -/
theorem meetsBelow_succ_iff (perm : PermOn n σ) {i k : Nat} (hi : i < n) (hk : k < n) :
    MeetsBelow σ n (i + 1) k ↔ MeetsBelow σ n i k ∨ OnCycle σ n i k := by
  constructor
  · rintro ⟨t, lt, below⟩
    rcases Nat.lt_succ_iff_lt_or_eq.mp below with low | eq
    · exact Or.inl ⟨t, lt, low⟩
    · -- `i` is on the cycle of `k`, so `k` is on the cycle of `i`
      obtain ⟨L, -, cycle⟩ := perm.exists_cycleLength hk
      obtain ⟨j, back⟩ := cycle.exists_iterate_back t
      obtain ⟨L', le', cycle'⟩ := perm.exists_cycleLength hi
      obtain ⟨j', lt', same⟩ := cycle'.exists_lt j
      exact Or.inr ⟨j', by omega, by rw [same, ← eq, back]⟩
  · rintro (⟨t, lt, below⟩ | ⟨t, -, rfl⟩)
    · exact ⟨t, lt, by omega⟩
    · exact (meetsBelow_iterate_iff perm hi t).mpr ⟨0, by omega, by simp⟩

/-- The least number of a cycle meets no number below it. -/
theorem not_meetsBelow_iterate (perm : PermOn n σ) {i : Nat} (hi : i < n)
    (least : ¬MeetsBelow σ n i i) (t : Nat) : ¬MeetsBelow σ n i (σ^[t] i) :=
  fun meets => least ((meetsBelow_iterate_iff perm hi t).mp meets)

/-- The cycle of `k` has `L` numbers. -/
theorem card_onCycle (perm : PermOn n σ) {k L : Nat} (hk : k < n) (cycle : CycleLength σ k L) :
    ((Finset.range n).filter (OnCycle σ n k)).card = L := by
  have image : (Finset.range n).filter (OnCycle σ n k) =
      (Finset.range L).image fun j => σ^[j] k := by
    ext x
    simp only [Finset.mem_filter, Finset.mem_range, Finset.mem_image]
    constructor
    · rintro ⟨-, t, -, rfl⟩
      exact cycle.exists_lt t
    · rintro ⟨j, lt, rfl⟩
      exact ⟨perm.iterate_lt hk j, j, by have := cycle.le perm hk; omega, rfl⟩
  rw [image, Finset.card_image_of_injOn, Finset.card_range]
  intro a ha b hb same
  exact cycle.iterate_injective perm hk (Finset.mem_range.mp ha) (Finset.mem_range.mp hb) same

/-- The pass at the least number of a cycle meets the `L` numbers of the cycle. -/
theorem card_meetsBelow_succ (perm : PermOn n σ) {i L : Nat} (hi : i < n)
    (least : ¬MeetsBelow σ n i i) (cycle : CycleLength σ i L) :
    ((Finset.range n).filter (MeetsBelow σ n (i + 1))).card =
      ((Finset.range n).filter (MeetsBelow σ n i)).card + L := by
  have split : (Finset.range n).filter (MeetsBelow σ n (i + 1)) =
      (Finset.range n).filter (MeetsBelow σ n i) ∪ (Finset.range n).filter (OnCycle σ n i) := by
    rw [← Finset.filter_or]
    exact Finset.filter_congr fun k hk => meetsBelow_succ_iff perm hi (Finset.mem_range.mp hk)
  have disjoint : Disjoint ((Finset.range n).filter (MeetsBelow σ n i))
      ((Finset.range n).filter (OnCycle σ n i)) := by
    rw [Finset.disjoint_filter]
    rintro k - meets ⟨t, -, rfl⟩
    exact not_meetsBelow_iterate perm hi least t meets
  rw [split, Finset.card_union_of_disjoint disjoint, card_onCycle perm hi cycle]

/-- The pass at another number of a cycle meets no new number. -/
theorem meetsBelow_succ_iff_of_meets (perm : PermOn n σ) {i k : Nat} (hi : i < n) (hk : k < n)
    (meets : MeetsBelow σ n i i) : MeetsBelow σ n (i + 1) k ↔ MeetsBelow σ n i k := by
  rw [meetsBelow_succ_iff perm hi hk]
  constructor
  · rintro (meets' | ⟨t, -, rfl⟩)
    · exact meets'
    · exact (meetsBelow_iterate_iff perm hi t).mpr meets
  · exact Or.inl

theorem card_meetsBelow_succ_of_meets (perm : PermOn n σ) {i : Nat} (hi : i < n)
    (meets : MeetsBelow σ n i i) :
    ((Finset.range n).filter (MeetsBelow σ n (i + 1))).card =
      ((Finset.range n).filter (MeetsBelow σ n i)).card := by
  congr 1
  exact Finset.filter_congr fun k hk =>
    meetsBelow_succ_iff_of_meets perm hi (Finset.mem_range.mp hk) meets

end Meets

section Swaps

variable {β : Type}

/-- One exchange of a sequence. -/
def swapStep (a : Nat → β) (s : Nat × Nat) : Nat → β := swapAt a s.1 s.2

/-- A sequence of exchanges reads the array through the sequence applied to the identity. -/
theorem foldl_swapAt_eq_comp : ∀ (swaps : List (Nat × Nat)) {γ : Type} (a : Nat → γ),
    swaps.foldl swapStep a = a ∘ swaps.foldl swapStep (id : Nat → Nat)
  | [], _, _ => rfl
  | s :: swaps, γ, a => by
    have step : swapStep a s = a ∘ swapStep (id : Nat → Nat) s := by
      funext k
      simp only [swapStep, swapAt, Function.comp, id]
      split_ifs <;> rfl
    rw [List.foldl_cons, List.foldl_cons, foldl_swapAt_eq_comp swaps, step,
      foldl_swapAt_eq_comp swaps (swapStep (id : Nat → Nat) s)]
    rfl

/-- The exchanges of the consecutive numbers `σ^[j] k, σ^[j + 1] k` for `j` from `m` on,
`count` of them. -/
def cycleSwaps (σ : Nat → Nat) (k m count : Nat) : List (Nat × Nat) :=
  (List.range' m count).map fun j => (σ^[j] k, σ^[j + 1] k)

theorem cycleSwaps_succ (σ : Nat → Nat) (k m count : Nat) :
    cycleSwaps σ k m (count + 1) = (σ^[m] k, σ^[m + 1] k) :: cycleSwaps σ k (m + 1) count := by
  simp [cycleSwaps, List.range'_succ]

variable {n : Nat} {σ : Nat → Nat}

/-- The exchanges along distinct numbers `σ^[m] k, ..., σ^[m + count] k` move the entry of each
to the one before, and that of the first to the last. -/
theorem foldl_cycleSwaps (perm : PermOn n σ) {k L : Nat} (hk : k < n) (cycle : CycleLength σ k L)
    (count : Nat) : ∀ m (a : Nat → β), m + count < L →
      (cycleSwaps σ k m count).foldl swapStep a (σ^[m + count] k) = a (σ^[m] k) ∧
      (∀ j, m ≤ j → j < m + count →
        (cycleSwaps σ k m count).foldl swapStep a (σ^[j] k) = a (σ^[j + 1] k)) ∧
      (∀ x, (∀ j, m ≤ j → j ≤ m + count → σ^[j] k ≠ x) →
        (cycleSwaps σ k m count).foldl swapStep a x = a x) := by
  -- the first exchange is made on `a`, the rest by induction from `m + 1`
  induction count with
  | zero =>
    intro m a _
    exact ⟨rfl, fun j lo hi => absurd hi (by omega), fun x _ => rfl⟩
  | succ count ih =>
    intro m a fits
    have distinct : ∀ j, j < L → j ≠ m → σ^[j] k ≠ σ^[m] k := fun j hj ne same =>
      ne (cycle.iterate_injective perm hk hj (by omega) same)
    have distinct' : ∀ j, j < L → j ≠ m + 1 → σ^[j] k ≠ σ^[m + 1] k := fun j hj ne same =>
      ne (cycle.iterate_injective perm hk hj (by omega) same)
    obtain ⟨last, along, rest⟩ := ih (m + 1) (swapStep a (σ^[m] k, σ^[m + 1] k)) (by omega)
    rw [cycleSwaps_succ, List.foldl_cons]
    refine ⟨?_, fun j lo hi => ?_, fun x away => ?_⟩
    · rw [show m + (count + 1) = m + 1 + count by omega, last]
      exact swapAt_right _ _ _
    · rcases Nat.eq_or_lt_of_le lo with rfl | lo
      · rw [rest _ (fun t lo' _ same => distinct t (by omega) (by omega) same), swapStep]
        exact swapAt_left _ _ _
      · rw [along j lo (by omega), swapStep,
          swapAt_of_ne _ (distinct _ (by omega) (by omega)) (distinct' _ (by omega) (by omega))]
    · rw [rest x (fun t lo' hi' => away t (by omega) (by omega)), swapStep,
        swapAt_of_ne _ (Ne.symm (away m le_rfl (by omega))) (Ne.symm (away (m + 1) (by omega) (by omega)))]

/-- The exchanges along a whole cycle move every entry of the cycle to the number before it. -/
theorem foldl_cycleSwaps_cycle (perm : PermOn n σ) {k L : Nat} (hk : k < n)
    (cycle : CycleLength σ k L) (a : Nat → β) :
    (∀ t, (cycleSwaps σ k 0 (L - 1)).foldl swapStep a (σ^[t] k) = a (σ (σ^[t] k))) ∧
      ∀ x, (∀ t, σ^[t] k ≠ x) → (cycleSwaps σ k 0 (L - 1)).foldl swapStep a x = a x := by
  obtain ⟨last, along, rest⟩ :=
    foldl_cycleSwaps perm hk cycle (L - 1) 0 a (by have := cycle.pos; omega)
  refine ⟨fun t => ?_, fun x away => rest x (fun t _ _ => away t)⟩
  obtain ⟨j, lt, same⟩ := cycle.exists_lt t
  rw [← same, ← Function.iterate_succ_apply' σ j k]
  rcases Nat.lt_or_ge j (L - 1) with early | late
  · exact along j (Nat.zero_le _) (by omega)
  · -- the last number of the cycle takes the entry of the first
    rw [show j.succ = L by omega, cycle.back, show j = 0 + (L - 1) by omega, last]
    rfl

end Swaps

end Sumokoin.ProofKit
