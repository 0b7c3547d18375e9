import Sumokoin.Common.ApplyPermutation
import Sumokoin.ProofKit.Cycles
import Mathlib

/-! What `tools::apply_permutation` computes. The sanity check accepts exactly the permutations of
`0, ..., size - 1`, read as the map `permutationAt`. Pass `i` meets the cycle of `i`; the pass at
its least number follows it through the copy, which still holds the permutation there, and marks
it, so that the passes at its other numbers find them marked (`cycleLoop_cycle`). After the passes
below `i` (`Passes`) the copy is marked on the cycles met below `i` and untouched elsewhere, and
the swaps have moved the entries of exactly those cycles, one swap fewer than each cycle has
numbers. -/

namespace Sumokoin.Common

open Sumokoin.ProofKit

/-- The number of cycles of a permutation: the numbers that are the least of their cycle. -/
def numCycles (permutation : List Nat) : Nat :=
  ((Finset.range permutation.length).filter fun j =>
    ∀ t, t < permutation.length → j ≤ (permutationAt permutation)^[t] j).card

section Check

/-- The sanity check passes exactly on the permutations of `0, ..., size - 1`. -/
theorem sanityCheck_iff (permutation : List Nat) :
    ((List.range permutation.length).all fun n => permutation.contains n) = true ↔
      permutation.Perm (List.range permutation.length) := by
  simp only [List.all_eq_true, List.contains_iff_mem]
  constructor
  · intro found
    exact ((List.subperm_of_subset List.nodup_range found).perm_of_length_le (by simp)).symm
  · intro perm n hn
    exact perm.symm.subset hn

theorem permOn_permutationAt {permutation : List Nat}
    (perm : permutation.Perm (List.range permutation.length)) :
    PermOn permutation.length (permutationAt permutation) where
  lt k hk := by
    rw [permutationAt, List.getD_eq_getElem _ _ hk]
    exact List.mem_range.mp (perm.subset (List.getElem_mem hk))
  inj a b ha hb same := by
    rw [permutationAt, permutationAt, List.getD_eq_getElem _ _ ha,
      List.getD_eq_getElem _ _ hb] at same
    exact ((perm.nodup_iff.mpr List.nodup_range).getElem_inj_iff).mp same

end Check

section Loop

variable {n : Nat} {σ : Nat → Nat} {i L : Nat}

/-- A pass at a marked number swaps nothing. -/
theorem cycleLoop_settled {fuel : Nat} (pos : 0 < fuel) {q : Nat → Nat} (marked : q i = i) :
    cycleLoop i fuel i q = some ([], q) := by
  obtain ⟨fuel, rfl⟩ : ∃ f, fuel = f + 1 := ⟨fuel - 1, by omega⟩
  rw [cycleLoop, if_neg (not_not.mpr marked.symm), Function.update_eq_self_iff.mpr marked.symm]

/-- From the `m`-th number of the cycle of `i`, where the copy still holds `σ`, the loop swaps
along the rest of the cycle and marks it. -/
theorem cycleLoop_cycle (perm : PermOn n σ) (hi : i < n) (cycle : CycleLength σ i L)
    (count : Nat) : ∀ m fuel (q : Nat → Nat), m + count + 1 = L → count + 1 ≤ fuel →
      (∀ j, m ≤ j → j < L → q (σ^[j] i) = σ^[j + 1] i) →
      ∃ q', cycleLoop i fuel (σ^[m] i) q = some (cycleSwaps σ i m count, q') ∧
        (∀ j, m ≤ j → j < L → q' (σ^[j] i) = σ^[j] i) ∧
        ∀ x, (∀ j, m ≤ j → j < L → σ^[j] i ≠ x) → q' x = q x := by
  -- on `count`, the swaps left: each turn of the loop marks one number of the cycle
  induction count with
  | zero =>
    rintro m (_ | fuel) q last enough holds
    · omega
    · -- the last number of the cycle points back to `i`: the loop ends
      have back : q (σ^[m] i) = i := by
        rw [holds m le_rfl (by omega), show m + 1 = L by omega, cycle.back]
      refine ⟨Function.update q (σ^[m] i) (σ^[m] i), ?_, fun j lo hj => ?_, fun x away => ?_⟩
      · rw [cycleLoop, if_neg (not_not.mpr back.symm)]
        rfl
      · rw [show j = m by omega, Function.update_self]
      · exact Function.update_of_ne (away m le_rfl (by omega)).symm _ _
  | succ count ih =>
    rintro m (_ | fuel) q last enough holds
    · omega
    · have next : i ≠ q (σ^[m] i) := by
        rw [holds m le_rfl (by omega)]
        exact (cycle.least (m + 1) (by omega) (by omega)).symm
      have other : ∀ j, m < j → j < L → σ^[j] i ≠ σ^[m] i := fun j lo hj same =>
        absurd (cycle.iterate_injective perm hi hj (by omega) same) (by omega)
      obtain ⟨q', loop, marked, kept⟩ :=
        ih (m + 1) fuel (Function.update q (σ^[m] i) (σ^[m] i)) (by omega) (by omega)
          (fun j lo hj => by
            rw [Function.update_of_ne (other j (by omega) hj)]
            exact holds j (by omega) hj)
      refine ⟨q', ?_, fun j lo hj => ?_, fun x away => ?_⟩
      · rw [cycleLoop, if_pos next]
        simp only
        rw [holds m le_rfl (by omega), loop, Option.map_some, cycleSwaps_succ]
      · rcases Nat.eq_or_lt_of_le lo with rfl | lo
        · rw [kept _ (fun j' lo' hj' => other j' (by omega) hj'), Function.update_self]
        · exact marked j (by omega) hj
      · rw [kept x (fun j' lo' hj' => away j' (by omega) hj'),
          Function.update_of_ne (away m le_rfl (by omega)).symm]

end Loop

section Passes

variable {n : Nat} {σ : Nat → Nat}

/-- The outer loop after the passes below `i`: the copy of the permutation `done.2` is marked on
the cycles met below `i` and untouched elsewhere, and the swaps `done.1` have moved the entries of
those cycles and no other, one swap fewer than each cycle has numbers. -/
structure Passes (σ : Nat → Nat) (n i : Nat) (done : List (Nat × Nat) × (Nat → Nat)) : Prop where
  settled : ∀ k, k < n → MeetsBelow σ n i k → done.2 k = k
  pending : ∀ k, k < n → ¬MeetsBelow σ n i k → done.2 k = σ k
  moved : ∀ k, k < n → done.1.foldl swapStep id k = if MeetsBelow σ n i k then σ k else k
  count : done.1.length + ((Finset.range i).filter fun j => ¬MeetsBelow σ n j j).card =
    ((Finset.range n).filter (MeetsBelow σ n i)).card
  inRange : ∀ s ∈ done.1, s.1 < n ∧ s.2 < n

theorem not_meetsBelow_zero (k : Nat) : ¬MeetsBelow σ n 0 k := fun ⟨_, _, below⟩ =>
  Nat.not_lt_zero _ below

theorem Passes.init : Passes σ n 0 ([], σ) where
  settled k _ meets := absurd meets (not_meetsBelow_zero k)
  pending _ _ _ := rfl
  moved k _ := by rw [if_neg (not_meetsBelow_zero k)]; rfl
  count := by simp [not_meetsBelow_zero]
  inRange _ mem := absurd mem List.not_mem_nil

/-- The pass at a number of a cycle met before swaps nothing. -/
theorem Passes.step_of_meets (perm : PermOn n σ) {i : Nat} (hi : i < n)
    {done : List (Nat × Nat) × (Nat → Nat)} (passes : Passes σ n i done)
    (meets : MeetsBelow σ n i i) :
    permutationPass n done i = some (done.1 ++ [], done.2) ∧
      Passes σ n (i + 1) (done.1 ++ [], done.2) := by
  have same : ∀ k, k < n → (MeetsBelow σ n (i + 1) k ↔ MeetsBelow σ n i k) := fun k hk =>
    meetsBelow_succ_iff_of_meets perm hi hk meets
  refine ⟨by rw [permutationPass, cycleLoop_settled (by omega) (passes.settled i hi meets)]; rfl,
    ⟨fun k hk meets' => ?_, fun k hk notMeets => ?_, fun k hk => ?_, ?_, fun s mem => ?_⟩⟩
  · exact passes.settled k hk ((same k hk).mp meets')
  · exact passes.pending k hk (fun meets' => notMeets ((same k hk).mpr meets'))
  · rw [List.append_nil, passes.moved k hk]
    exact if_congr (same k hk).symm rfl rfl
  · rw [List.append_nil, Finset.range_add_one, Finset.filter_insert, if_neg (not_not.mpr meets),
      card_meetsBelow_succ_of_meets perm hi meets]
    exact passes.count
  · rw [List.append_nil] at mem
    exact passes.inRange s mem

/-- The pass at the least number of a cycle swaps along the cycle and marks it. -/
theorem Passes.step_of_least (perm : PermOn n σ) {i : Nat} (hi : i < n)
    {done : List (Nat × Nat) × (Nat → Nat)} (passes : Passes σ n i done)
    (least : ¬MeetsBelow σ n i i) :
    ∃ done', permutationPass n done i = some done' ∧ Passes σ n (i + 1) done' := by
  obtain ⟨L, le, cycle⟩ := perm.exists_cycleLength hi
  have holds : ∀ j, 0 ≤ j → j < L → done.2 (σ^[j] i) = σ^[j + 1] i := fun j _ _ => by
    rw [passes.pending _ (perm.iterate_lt hi j) (not_meetsBelow_iterate perm hi least j),
      Function.iterate_succ_apply']
  obtain ⟨q', loop, marked, kept⟩ :=
    cycleLoop_cycle perm hi cycle (L - 1) 0 n done.2 (by have := cycle.pos; omega) (by omega) holds
  rw [Function.iterate_zero_apply] at loop
  -- a number is on the cycle of `i` exactly when it is one of its first `L` iterates
  have onCycle : ∀ x, OnCycle σ n i x ↔ ∃ j, j < L ∧ σ^[j] i = x := fun x =>
    ⟨fun ⟨t, _, hit⟩ => let ⟨j, hj, same⟩ := cycle.exists_lt t; ⟨j, hj, same.trans hit⟩,
      fun ⟨j, hj, hit⟩ => ⟨j, by omega, hit⟩⟩
  have off : ∀ x, ¬OnCycle σ n i x → ∀ j, 0 ≤ j → j < L → σ^[j] i ≠ x := fun x notOn j _ hj hit =>
    notOn ((onCycle x).mpr ⟨j, hj, hit⟩)
  refine ⟨(done.1 ++ cycleSwaps σ i 0 (L - 1), q'), by rw [permutationPass, loop]; rfl,
    ⟨fun k hk meets => ?_, fun k hk notMeets => ?_, fun k hk => ?_, ?_, fun s mem => ?_⟩⟩
  · rcases (meetsBelow_succ_iff perm hi hk).mp meets with old | on
    · -- a cycle met before is not the cycle of `i`
      have notOn : ¬OnCycle σ n i k := fun ⟨t, _, hit⟩ =>
        not_meetsBelow_iterate perm hi least t (hit ▸ old)
      exact (kept k (off k notOn)).trans (passes.settled k hk old)
    · obtain ⟨j, hj, rfl⟩ := (onCycle k).mp on
      exact marked j (Nat.zero_le j) hj
  · obtain ⟨notOld, notOn⟩ := not_or.mp fun h => notMeets ((meetsBelow_succ_iff perm hi hk).mpr h)
    exact (kept k (off k notOn)).trans (passes.pending k hk notOld)
  · simp only
    rw [List.foldl_append]
    by_cases on : OnCycle σ n i k
    · obtain ⟨t, ht, rfl⟩ := on
      have next : ¬MeetsBelow σ n i (σ (σ^[t] i)) := by
        rw [← Function.iterate_succ_apply' σ t i]
        exact not_meetsBelow_iterate perm hi least (t + 1)
      rw [(foldl_cycleSwaps_cycle perm hi cycle _).1 t, passes.moved _ (perm.lt _ hk),
        if_neg next, if_pos ((meetsBelow_succ_iff perm hi hk).mpr (Or.inr ⟨t, ht, rfl⟩))]
    · have away : ∀ t, σ^[t] i ≠ k := fun t hit =>
        on ((onCycle k).mpr (let ⟨j, hj, same⟩ := cycle.exists_lt t; ⟨j, hj, same.trans hit⟩))
      rw [(foldl_cycleSwaps_cycle perm hi cycle _).2 k away, passes.moved k hk]
      exact if_congr (by rw [meetsBelow_succ_iff perm hi hk, or_iff_left on]) rfl rfl
  · have length : (cycleSwaps σ i 0 (L - 1)).length = L - 1 := by simp [cycleSwaps]
    have leader : i ∉ (Finset.range i).filter fun j => ¬MeetsBelow σ n j j := by simp
    rw [List.length_append, length, Finset.range_add_one, Finset.filter_insert, if_pos least,
      Finset.card_insert_of_notMem leader, card_meetsBelow_succ perm hi least cycle]
    have := passes.count
    have := cycle.pos
    omega
  · rcases List.mem_append.mp mem with old | new
    · exact passes.inRange s old
    · obtain ⟨j, -, rfl⟩ := List.mem_map.mp new
      exact ⟨perm.iterate_lt hi j, perm.iterate_lt hi (j + 1)⟩

theorem Passes.step (perm : PermOn n σ) {i : Nat} (hi : i < n)
    {done : List (Nat × Nat) × (Nat → Nat)} (passes : Passes σ n i done) :
    ∃ done', permutationPass n done i = some done' ∧ Passes σ n (i + 1) done' := by
  by_cases meets : MeetsBelow σ n i i
  · exact ⟨_, passes.step_of_meets perm hi meets⟩
  · exact passes.step_of_least perm hi meets

/-- The passes below `i` run to the end and keep `Passes`. -/
theorem passes_run (perm : PermOn n σ) : ∀ i, i ≤ n →
    ∃ done, (List.range i).foldlM (permutationPass n) ([], σ) = some done ∧ Passes σ n i done
  | 0, _ => ⟨([], σ), rfl, Passes.init⟩
  | i + 1, hi => by
    obtain ⟨done, run, passes⟩ := passes_run perm i (by omega)
    obtain ⟨done', pass, passes'⟩ := passes.step perm (by omega)
    refine ⟨done', ?_, passes'⟩
    rw [List.range_succ, List.foldlM_append, run]
    simp [pass]

end Passes

section Swaps

/-- After the last pass every cycle has been met. -/
theorem meetsBelow_self {n : Nat} {σ : Nat → Nat} {k : Nat} (hk : k < n) : MeetsBelow σ n n k :=
  ⟨0, by omega, hk⟩

theorem card_filter_not_meetsBelow (permutation : List Nat) :
    ((Finset.range permutation.length).filter fun j =>
      ¬MeetsBelow (permutationAt permutation) permutation.length j j).card =
        numCycles permutation := by
  rw [numCycles]
  congr 1
  refine Finset.filter_congr fun j _ => ?_
  simp only [MeetsBelow, not_exists, not_and, Nat.not_lt]

/-- On a permutation the loops end, with one swap fewer than each cycle has numbers, and the
swaps move the entry at `permutation[k]` to `k`. -/
theorem permutationSwaps_ok {permutation : List Nat}
    (perm : permutation.Perm (List.range permutation.length)) :
    ∃ swaps, permutationSwaps permutation = .ok swaps ∧
      swaps.length = permutation.length - numCycles permutation ∧
      (∀ k, k < permutation.length → swaps.foldl swapStep id k = permutationAt permutation k) ∧
      ∀ s ∈ swaps, s.1 < permutation.length ∧ s.2 < permutation.length := by
  obtain ⟨⟨swaps, q⟩, run, passes⟩ :=
    passes_run (permOn_permutationAt perm) permutation.length le_rfl
  have every : (Finset.range permutation.length).filter
      (MeetsBelow (permutationAt permutation) permutation.length permutation.length) =
        Finset.range permutation.length :=
    Finset.filter_true_of_mem fun k hk => meetsBelow_self (Finset.mem_range.mp hk)
  refine ⟨swaps, ?_, ?_, fun k hk => ?_, passes.inRange⟩
  · rw [permutationSwaps, (sanityCheck_iff permutation).mpr perm, Bool.not_true,
      if_neg Bool.false_ne_true, run]
  · have count := passes.count
    rw [card_filter_not_meetsBelow, every, Finset.card_range] at count
    simp only at count
    omega
  · rw [passes.moved k hk, if_pos (meetsBelow_self hk)]

/-- The sanity check throws on anything else. -/
theorem permutationSwaps_error {permutation : List Nat}
    (notPerm : ¬permutation.Perm (List.range permutation.length)) :
    permutationSwaps permutation = .error "Bad permutation" := by
  have fails : ((List.range permutation.length).all fun n => permutation.contains n) = false :=
    Bool.eq_false_iff.mpr fun passes => notPerm ((sanityCheck_iff permutation).mp passes)
  rw [permutationSwaps, fails]
  rfl

end Swaps

section Vector

variable {α : Type}

/-- One call of the callback reads the vector through the exchange of the two positions. -/
theorem getElem?_swap (v : List α) {a b : Nat} (ha : a < v.length) (hb : b < v.length) (k : Nat) :
    (v.swap a b)[k]? = swapAt (fun k => v[k]?) a b k := by
  rw [List.swap_eq_of_lt ha hb, swapAt, List.getElem?_set, List.getElem?_set]
  by_cases kb : k = b
  · subst kb
    by_cases ka : k = a
    · subst ka
      simp [hb]
    · simp [hb, ka]
  · by_cases ka : k = a
    · subst ka
      simp [Ne.symm kb, ha]
    · simp [Ne.symm kb, Ne.symm ka, ka, kb]

theorem length_foldl_swap (swaps : List (Nat × Nat)) (v : List α) :
    (swaps.foldl (fun s c => s.swap c.1 c.2) v).length = v.length := by
  induction swaps generalizing v with
  | nil => rfl
  | cons s swaps ih => rw [List.foldl_cons, ih, List.length_swap]

/-- The calls of the callback read the vector through the exchanges applied to the identity. -/
theorem getElem?_foldl_swap (swaps : List (Nat × Nat)) (v : List α)
    (inRange : ∀ s ∈ swaps, s.1 < v.length ∧ s.2 < v.length) (k : Nat) :
    (swaps.foldl (fun s c => s.swap c.1 c.2) v)[k]? = v[swaps.foldl swapStep id k]? := by
  induction swaps generalizing v with
  | nil => rfl
  | cons s swaps ih =>
    obtain ⟨ha, hb⟩ := inRange s List.mem_cons_self
    have rest : ∀ s' ∈ swaps,
        s'.1 < (v.swap s.1 s.2).length ∧ s'.2 < (v.swap s.1 s.2).length := by
      intro s' mem
      rw [List.length_swap]
      exact inRange s' (List.mem_cons_of_mem _ mem)
    rw [List.foldl_cons, List.foldl_cons, ih _ rest, getElem?_swap v ha hb,
      foldl_swapAt_eq_comp swaps (swapStep id s)]
    simp only [Function.comp, swapStep, swapAt, id]
    split_ifs <;> rfl

end Vector

/-- `apply_permutation(p, v)` with `p` and `v` of one size throws exactly when `p` is not a
permutation of `0, ..., size - 1`; otherwise it calls the swap callback `size` minus the number of
cycles of `p` times and leaves `v[p[i]]` at each `i`. -/
theorem applyPermutation_spec {α : Type} (permutation : List Nat) (v : List α)
    (sizes : permutation.length = v.length) :
    ((∃ e, applyPermutation permutation v = .error e) ↔
        ¬permutation.Perm (List.range v.length)) ∧
      (permutation.Perm (List.range v.length) →
        ∃ swaps, permutationSwaps permutation = .ok swaps ∧
          swaps.length = v.length - numCycles permutation ∧
          ∃ w, applyPermutation permutation v = .ok w ∧ w.length = v.length ∧
            ∀ i (hi : i < permutation.length), w[i]? = v[permutation[i]]?) := by
  have checked : applyPermutation permutation v = applyPermutationWith List.swap permutation v := by
    rw [applyPermutation, if_neg (not_not.mpr sizes)]
  rw [← sizes]
  constructor
  · constructor
    · rintro ⟨e, thrown⟩ perm
      obtain ⟨swaps, ok, -⟩ := permutationSwaps_ok perm
      rw [checked, applyPermutationWith, ok] at thrown
      exact nomatch thrown
    · intro notPerm
      exact ⟨"Bad permutation", by rw [checked, applyPermutationWith, permutationSwaps_error notPerm]; rfl⟩
  · intro perm
    obtain ⟨swaps, ok, length, moved, inRange⟩ := permutationSwaps_ok perm
    refine ⟨swaps, ok, length, swaps.foldl (fun s c => s.swap c.1 c.2) v,
      by rw [checked, applyPermutationWith, ok]; rfl, by rw [length_foldl_swap, sizes],
      fun i hi => ?_⟩
    rw [getElem?_foldl_swap swaps v (fun s mem => sizes ▸ inRange s mem), moved i hi, permutationAt,
      List.getD_eq_getElem _ _ hi]

/-- The vector of the test `reorder`, under its permutation of one cycle of seven. -/
theorem applyPermutation_spec_reorder :
    ∃ swaps, permutationSwaps [3, 5, 6, 1, 2, 4, 0] = .ok swaps ∧ swaps.length = 6 ∧
      applyPermutation [3, 5, 6, 1, 2, 4, 0] [8, 4, 6, 1, 7, 2, 4] = .ok [1, 2, 4, 4, 6, 7, 8] := by
  obtain ⟨-, sorted⟩ := applyPermutation_spec [3, 5, 6, 1, 2, 4, 0] [8, 4, 6, 1, 7, 2, 4] rfl
  obtain ⟨swaps, found, length, w, applied, wLength, entries⟩ := sorted (by decide)
  have cycles : numCycles [3, 5, 6, 1, 2, 4, 0] = 1 := by decide
  have reordered : w = [1, 2, 4, 4, 6, 7, 8] := by
    apply List.ext_getElem?
    intro i
    by_cases hi : i < 7
    · rw [entries i hi]
      revert i
      decide
    · have seven : w.length = 7 := wLength
      rw [List.getElem?_eq_none (by omega), List.getElem?_eq_none (by simp; omega)]
  exact ⟨swaps, found, by rw [length, cycles]; rfl, reordered ▸ applied⟩

example : applyPermutation [3, 5, 6, 1, 2, 4, 0] [8, 4, 6, 1, 7, 2, 4, 9] =
    .error "Mismatched vector sizes" := rfl

example : applyPermutation [3, 5, 6, 1, 2, 4, 1] [8, 4, 6, 1, 7, 2, 4] =
    .error "Bad permutation" := rfl

end Sumokoin.Common
