import Mathlib

/-! `tools::apply_permutation` of `common/apply_permutation.h`, Raymond Chen's in-place
application of a permutation: every pass `i` follows the cycle from `i` through the copy of the
permutation, swapping consecutive positions and marking each position it leaves with itself, so
that the passes at the other positions of the cycle find them marked.

The callback `swap` acts only on the state the caller captured, so the algorithm is the sequence
of its calls (`permutationSwaps`), folded over the state (`applyPermutationWith`). The copy of
the permutation is read as a function; its entries are read only at positions below its size. The
`while` loop, which does not end on a permutation that fails the check, runs with the size of the
permutation as its fuel. -/

namespace Sumokoin.Common

/-- The copy of the permutation that the loops mark. -/
def permutationAt (permutation : List Nat) : Nat → Nat := fun k => permutation.getD k 0

/-- The loop `while (i != permutation[current])` of the pass `i`, from `current` with `fuel` turns
left: the swaps it calls and the marked permutation, with the final
`permutation[current] = current`. -/
def cycleLoop (i : Nat) : Nat → Nat → (Nat → Nat) → Option (List (Nat × Nat) × (Nat → Nat))
  | 0, _, _ => none
  | fuel + 1, current, permutation =>
    if i ≠ permutation current then
      let next := permutation current
      (cycleLoop i fuel next (Function.update permutation current current)).map
        fun (swaps, permutation) => ((current, next) :: swaps, permutation)
    else some ([], Function.update permutation current current)

/-- The pass `i` of the loop `for (size_t i = 0; i < permutation.size(); ++i)`. -/
def permutationPass (size : Nat) (done : List (Nat × Nat) × (Nat → Nat)) (i : Nat) :
    Option (List (Nat × Nat) × (Nat → Nat)) :=
  (cycleLoop i size i done.2).map fun (swaps, permutation) => (done.1 ++ swaps, permutation)

/-- The calls of `swap` that `apply_permutation(permutation, swap)` makes: the sanity check, that
every `n` below the size is found in the permutation, throws. -/
def permutationSwaps (permutation : List Nat) : Except String (List (Nat × Nat)) :=
  if !(List.range permutation.length).all fun n => permutation.contains n then
    .error "Bad permutation"
  else
    match (List.range permutation.length).foldlM (permutationPass permutation.length)
        ([], permutationAt permutation) with
    | some (swaps, _) => .ok swaps
    | none => .error "the loop does not end"

/-- `apply_permutation(permutation, swap)` on the state `s` that the callback changes. -/
def applyPermutationWith {σ : Type} (swap : σ → Nat → Nat → σ) (permutation : List Nat) (s : σ) :
    Except String σ :=
  (permutationSwaps permutation).map fun swaps => swaps.foldl (fun s c => swap s c.1 c.2) s

/-- `apply_permutation(permutation, v)`: the callback `std::swap(v[i0], v[i1])`. -/
def applyPermutation {α : Type} (permutation : List Nat) (v : List α) : Except String (List α) :=
  if permutation.length ≠ v.length then .error "Mismatched vector sizes"
  else applyPermutationWith List.swap permutation v

end Sumokoin.Common
