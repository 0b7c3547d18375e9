import Mathlib

/-! Numbers cut into groups of `size` consecutive ones that take `count` labels in turn: the group
`x / size` of `x` has the label `x / size % count`. For a label `k` that the group of `h` does not
have, `nextStart size count k h` is the first number from `h` on with label `k`: the start of the
group with label `k` in the cycle of `h`, or in the next cycle when `k` does not come after the
label of `h`. -/

namespace Sumokoin.ProofKit

/-- The label of the group of `x`. -/
def groupLabel (size count x : Nat) : Nat := x / size % count

/-- The first group from group `q` on with label `k`, for a `k` that `q` does not have. -/
def nextGroup (count k q : Nat) : Nat :=
  (q / count + if q % count < k then 0 else 1) * count + k

/-- The first number of `nextGroup` after the group of `h`. -/
def nextStart (size count k h : Nat) : Nat := nextGroup count k (h / size) * size

section Groups

variable {count k : Nat}

theorem eq_cycle_add_mod (count q : Nat) : q = q / count * count + q % count := by
  rw [Nat.mul_comm]
  exact (Nat.div_add_mod q count).symm

theorem nextGroup_mod (hk : k < count) (q : Nat) : nextGroup count k q % count = k :=
  Nat.mul_add_mod_of_lt hk

theorem lt_nextGroup (hk : k < count) (q : Nat) : q < nextGroup count k q := by
  have split := eq_cycle_add_mod count q
  have label := Nat.mod_lt q (by omega : 0 < count)
  unfold nextGroup
  split_ifs with before
  · rw [Nat.add_zero]
    omega
  · rw [Nat.add_mul, Nat.one_mul]
    omega

/-- No group from `q` on before `nextGroup count k q` has the label `k`. -/
theorem mod_ne_of_lt_nextGroup (hk : k < count) {q Q : Nat} (hne : q % count ≠ k)
    (hq : q ≤ Q) (lt : Q < nextGroup count k q) : Q % count ≠ k := by
  have split := eq_cycle_add_mod count q
  have label := Nat.mod_lt q (by omega : 0 < count)
  unfold nextGroup at lt
  -- `Q` is `t` groups after the start of the cycle of `q`
  obtain ⟨t, rfl⟩ : ∃ t, Q = q / count * count + t := ⟨Q - q / count * count, by omega⟩
  split_ifs at lt with before
  · -- the label of `q` comes before `k`, and `Q` lies between them in the same cycle
    rw [Nat.add_zero] at lt
    rw [Nat.mul_add_mod_of_lt (by omega)]
    omega
  · rw [Nat.add_mul, Nat.one_mul] at lt
    by_cases same : t < count
    · rw [Nat.mul_add_mod_of_lt same]
      omega
    · -- `Q` is in the next cycle, before its group with label `k`
      obtain ⟨u, rfl⟩ : ∃ u, t = count + u := ⟨t - count, by omega⟩
      rw [show q / count * count + (count + u) = (q / count + 1) * count + u by
        rw [Nat.add_mul, Nat.one_mul]; omega, Nat.mul_add_mod_of_lt (by omega)]
      omega

/-- From a group with label `k`, the first group with the next label in the cycle is the next
group. -/
theorem nextGroup_succ (two : 2 ≤ count) {q : Nat} :
    nextGroup count ((q % count + 1) % count) q = q + 1 := by
  have split := eq_cycle_add_mod count q
  have label := Nat.mod_lt q (by omega : 0 < count)
  unfold nextGroup
  by_cases last : q % count + 1 = count
  · rw [last, Nat.mod_self, if_neg (Nat.not_lt_zero _), Nat.add_mul, Nat.one_mul]
    omega
  · rw [Nat.mod_eq_of_lt (show q % count + 1 < count by omega), if_pos (Nat.lt_succ_self _),
      Nat.add_zero]
    omega

end Groups

section Numbers

variable {size count k : Nat}

theorem groupLabel_nextStart (hs : 0 < size) (hk : k < count) (h : Nat) :
    groupLabel size count (nextStart size count k h) = k := by
  rw [groupLabel, nextStart, Nat.mul_div_cancel _ hs, nextGroup_mod hk]

theorem lt_nextStart (hs : 0 < size) (hk : k < count) (h : Nat) : h < nextStart size count k h := by
  have next := lt_nextGroup hk (h / size)
  have within := Nat.lt_mul_div_succ h hs
  calc h < size * (h / size + 1) := within
    _ = (h / size + 1) * size := Nat.mul_comm _ _
    _ ≤ nextStart size count k h := Nat.mul_le_mul_right size next

/-- The next start is less than two cycles away. -/
theorem nextStart_lt (hs : 0 < size) (hk : k < count) (h : Nat) :
    nextStart size count k h < h + 2 * (count * size) := by
  have split := eq_cycle_add_mod count (h / size)
  have group : nextGroup count k (h / size) + 1 ≤ h / size + 2 * count := by
    unfold nextGroup
    split_ifs <;> simp only [Nat.add_zero, Nat.add_mul, Nat.one_mul] <;> omega
  have within : h / size * size ≤ h := Nat.div_mul_le_self h size
  have bound := Nat.mul_le_mul_right size group
  rw [Nat.add_mul, Nat.add_mul, Nat.one_mul, Nat.mul_assoc] at bound
  unfold nextStart
  omega

/-- No number from `h` on before `nextStart size count k h` has the label `k`. -/
theorem groupLabel_ne_of_lt_nextStart (hs : 0 < size) (hk : k < count) {h x : Nat}
    (hne : groupLabel size count h ≠ k) (hx : h ≤ x) (lt : x < nextStart size count k h) :
    groupLabel size count x ≠ k :=
  mod_ne_of_lt_nextGroup hk hne (Nat.div_le_div_right hx) ((Nat.div_lt_iff_lt_mul hs).mpr lt)

/-- The numbers from `h` on before the start of the next group share the label of `h`. -/
theorem groupLabel_eq_of_lt_succ {h x : Nat} (hx : h ≤ x) (lt : x < (h / size + 1) * size)
    (hs : 0 < size) : groupLabel size count x = groupLabel size count h := by
  have below : x / size < h / size + 1 := (Nat.div_lt_iff_lt_mul hs).mpr lt
  have above : h / size ≤ x / size := Nat.div_le_div_right hx
  rw [groupLabel, groupLabel, show x / size = h / size by omega]

theorem nextStart_succ (two : 2 ≤ count) (h : Nat) :
    nextStart size count ((groupLabel size count h + 1) % count) h = (h / size + 1) * size := by
  rw [nextStart, groupLabel, nextGroup_succ two]

end Numbers

end Sumokoin.ProofKit
