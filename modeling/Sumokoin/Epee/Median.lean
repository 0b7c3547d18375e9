import Mathlib
import Sumokoin.ProofKit.UInt64Order

/-! `epee::misc_utils::median` of `misc_language.h`: the middle element of the sorted values, or the
average of the two middle elements, computed with the element type's own `+` and `/`. The
`std::sort` of the source is an insertion sort here: for a linear order every sort returns the
same list. -/

namespace Sumokoin.Epee

variable {α : Type} [LinearOrder α] [Add α] [Div α] [OfNat α 2] [Zero α]

/-- `misc_utils::median`: the value-initialised element for no values, the value itself for one,
and otherwise the middle of the sorted values, `(v[n-1] + v[n]) / 2` when their number `2 * n` is
even. -/
def median (v : List α) : α :=
  match v with
  | [] => 0
  | [a] => a
  | v =>
    let n := v.length / 2
    let s := v.insertionSort (· ≤ ·)
    if v.length % 2 = 1 then s.getD n 0 else (s.getD (n - 1) 0 + s.getD n 0) / 2

theorem median_of_two_le {v : List α} (hv : 2 ≤ v.length) :
    median v = if v.length % 2 = 1 then (v.insertionSort (· ≤ ·)).getD (v.length / 2) 0
      else ((v.insertionSort (· ≤ ·)).getD (v.length / 2 - 1) 0 +
        (v.insertionSort (· ≤ ·)).getD (v.length / 2) 0) / 2 := by
  match v, hv with
  | a :: b :: rest, _ => rfl

/-- The median depends on the values only, not on their order. -/
theorem median_perm {v w : List α} (h : v.Perm w) : median v = median w := by
  have hs : v.insertionSort (· ≤ ·) = w.insertionSort (· ≤ ·) :=
    List.Perm.eq_of_pairwise' (List.pairwise_insertionSort _ _) (List.pairwise_insertionSort _ _)
      (((List.perm_insertionSort _ v).trans h).trans (List.perm_insertionSort _ w).symm)
  have hl : v.length = w.length := h.length_eq
  match v, w, h with
  | [], [], _ => rfl
  | [a], w, h =>
    obtain rfl : w = [a] := (List.perm_singleton.mp h.symm)
    rfl
  | a :: b :: rest, w, _ =>
    have hw : 2 ≤ w.length := by simp at hl; omega
    rw [median_of_two_le (by simp), median_of_two_le hw, hs, hl]

omit [Add α] [Div α] [OfNat α 2] [Zero α] in
/-- Values that split around `x`, with `a` before it and `b` after it, sort to the sorted `a`, then
`x`, then the sorted `b`. -/
theorem insertionSort_split {v a b : List α} {x : α} (hv : v.Perm (a ++ x :: b))
    (ha : ∀ y ∈ a, y ≤ x) (hb : ∀ y ∈ b, x ≤ y) :
    v.insertionSort (· ≤ ·) = a.insertionSort (· ≤ ·) ++ x :: b.insertionSort (· ≤ ·) := by
  have hsa := List.perm_insertionSort (· ≤ ·) a
  have hsb := List.perm_insertionSort (· ≤ ·) b
  have hsorted : (a.insertionSort (· ≤ ·) ++ x :: b.insertionSort (· ≤ ·)).Pairwise (· ≤ ·) := by
    refine List.pairwise_append.mpr ⟨List.pairwise_insertionSort _ _, ?_, ?_⟩
    · exact List.Pairwise.cons (fun y hy => hb y (hsb.subset hy)) (List.pairwise_insertionSort _ _)
    · intro y hy z hz
      have hyx : y ≤ x := ha y (hsa.subset hy)
      rcases List.mem_cons.mp hz with rfl | hz
      · exact hyx
      · exact hyx.trans (hb z (hsb.subset hz))
  have hperm : (v.insertionSort (· ≤ ·)).Perm
      (a.insertionSort (· ≤ ·) ++ x :: b.insertionSort (· ≤ ·)) :=
    (List.perm_insertionSort _ v).trans (hv.trans (hsa.symm.append (hsb.symm.cons x)))
  exact List.Perm.eq_of_pairwise' (List.pairwise_insertionSort _ _) hsorted hperm

/-- An odd number of values with as many at or before `x` as at or after it: the median is `x`. -/
theorem median_of_split_odd {v a b : List α} {x : α} (hv : v.Perm (a ++ x :: b))
    (ha : ∀ y ∈ a, y ≤ x) (hb : ∀ y ∈ b, x ≤ y) (hlen : a.length = b.length) : median v = x := by
  have hvlen : v.length = 2 * a.length + 1 := by
    rw [hv.length_eq, List.length_append, List.length_cons]
    omega
  by_cases ha0 : a.length = 0
  · -- a single value
    obtain rfl : a = [] := List.eq_nil_of_length_eq_zero ha0
    obtain rfl : b = [] := List.eq_nil_of_length_eq_zero (by omega)
    rw [List.perm_singleton.mp hv]
    rfl
  · rw [median_of_two_le (by omega), if_pos (by omega), insertionSort_split hv ha hb,
      List.getD_append_right _ _ _ _ (by rw [List.length_insertionSort]; omega),
      List.length_insertionSort, show v.length / 2 - a.length = 0 by omega, List.getD_cons_zero]

/-- An even number of values: `a`, then its largest `y`, then `x`, then `b`, as many in `a` as in
`b`. The median is the average of `y` and `x`. -/
theorem median_of_split_even {v a b : List α} {x y : α} (hv : v.Perm (a ++ y :: x :: b))
    (ha : ∀ z ∈ a, z ≤ y) (hyx : y ≤ x) (hb : ∀ z ∈ b, x ≤ z) (hlen : a.length = b.length) :
    median v = (y + x) / 2 := by
  have hvlen : v.length = 2 * a.length + 2 := by
    rw [hv.length_eq, List.length_append, List.length_cons, List.length_cons]
    omega
  have hv' : v.Perm ((a ++ [y]) ++ x :: b) := by
    rw [List.append_assoc]
    exact hv
  have ha' : ∀ z ∈ a ++ [y], z ≤ x := by
    intro z hz
    rcases List.mem_append.mp hz with hz | hz
    · exact (ha z hz).trans hyx
    · rw [List.mem_singleton.mp hz]
      exact hyx
  -- `y` is the last of the sorted values at or before `x`
  have hsort : (a ++ [y]).insertionSort (· ≤ ·) = a.insertionSort (· ≤ ·) ++ [y] :=
    insertionSort_split (List.Perm.refl _) ha (fun _ hz => absurd hz List.not_mem_nil)
  have hslen := List.length_insertionSort (· ≤ ·) a
  have hy : (a.insertionSort (· ≤ ·) ++ y :: x :: b.insertionSort (· ≤ ·)).getD a.length 0 = y := by
    rw [List.getD_append_right _ _ _ _ (by omega), hslen, Nat.sub_self, List.getD_cons_zero]
  have hx : (a.insertionSort (· ≤ ·) ++ y :: x :: b.insertionSort (· ≤ ·)).getD (a.length + 1) 0 =
      x := by
    rw [List.getD_append_right _ _ _ _ (by omega), hslen, show a.length + 1 - a.length = 0 + 1 by omega,
      List.getD_cons_succ, List.getD_cons_zero]
  rw [median_of_two_le (by omega), if_neg (by omega), insertionSort_split hv' ha' hb, hsort,
    List.append_assoc, List.singleton_append, show v.length / 2 - 1 = a.length by omega,
    show v.length / 2 = a.length + 1 by omega, hy, hx]

/-- As many light values as heavy ones: the median is their average. -/
theorem median_replicate_append_replicate {light heavy : α} (le : light ≤ heavy) {n : Nat}
    (pos : 0 < n) :
    median (List.replicate n light ++ List.replicate n heavy) = (light + heavy) / 2 := by
  obtain ⟨k, rfl⟩ : ∃ k, n = k + 1 := ⟨n - 1, by omega⟩
  have split : List.replicate (k + 1) light ++ List.replicate (k + 1) heavy =
      List.replicate k light ++ light :: heavy :: List.replicate k heavy := by
    rw [List.replicate_succ', List.replicate_succ, List.append_assoc, List.singleton_append]
  refine median_of_split_even (List.Perm.of_eq split) (fun z hz => ?_) le (fun z hz => ?_) (by simp)
  · rw [List.eq_of_mem_replicate hz]
  · rw [List.eq_of_mem_replicate hz]

/-- Light values, heavy ones and a padding between them, as many light and padded values as heavy
ones: the median is halfway between the padding and the heavy value. -/
theorem median_padded {light pad heavy : α} (lp : light ≤ pad) (ph : pad ≤ heavy)
    {a b g : Nat} (padded : 0 < g) (half : a + g = b) :
    median (List.replicate a light ++ List.replicate b heavy ++ List.replicate g pad) =
      (pad + heavy) / 2 := by
  obtain ⟨j, rfl⟩ : ∃ j, g = j + 1 := ⟨g - 1, by omega⟩
  obtain ⟨k, rfl⟩ : ∃ k, b = k + 1 := ⟨b - 1, by omega⟩
  -- the padding moves between the light values and the heavy ones
  have moved : (List.replicate a light ++ List.replicate (k + 1) heavy ++
      List.replicate (j + 1) pad).Perm
      ((List.replicate a light ++ List.replicate j pad) ++ pad :: heavy :: List.replicate k heavy) := by
    rw [List.append_assoc]
    refine (List.perm_append_comm.append_left _).trans (List.Perm.of_eq ?_)
    rw [List.replicate_succ', List.replicate_succ, List.append_assoc, List.append_assoc,
      List.singleton_append]
  refine median_of_split_even moved (fun z hz => ?_) ph (fun z hz => ?_) (by simp; omega)
  · rcases List.mem_append.mp hz with hz | hz
    · rw [List.eq_of_mem_replicate hz]
      exact lp
    · rw [List.eq_of_mem_replicate hz]
  · rw [List.eq_of_mem_replicate hz]

end Sumokoin.Epee
