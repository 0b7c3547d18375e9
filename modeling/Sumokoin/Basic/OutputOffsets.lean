import Sumokoin.Config

/-! `relative_output_offsets_to_absolute` and `absolute_output_offsets_to_relative` of
`cryptonote_basic/cryptonote_format_utils.cpp`: the global indices of a ring as their first one and
the gaps between the next ones. The offsets are `uint64_t`: the forward loop adds to each entry the
one before, already summed, and wraps; the backward loop subtracts from each entry of the sorted
vector the one before, not yet changed. -/

namespace Sumokoin.Basic

/-- `std::sort` of offsets, ascending. -/
def sortOffsets (off : List Nat) : List Nat := off.mergeSort fun a b => decide (a ≤ b)

/-- The loop `res[i] += res[i-1]` from the entry after `previous`, the entry before summed. -/
def addPrevious (previous : Nat) : List Nat → List Nat
  | [] => []
  | entry :: rest =>
    let summed := (entry + previous) % uint64Modulus
    summed :: addPrevious summed rest

/-- `relative_output_offsets_to_absolute(off)`. -/
def relativeOutputOffsetsToAbsolute : List Nat → List Nat
  | [] => []
  | first :: rest => first :: addPrevious first rest

/-- The loop `res[i] -= res[i-1]` from the entry after `previous`: run from the back, each entry
loses the one before as it was. -/
def subPrevious (previous : Nat) : List Nat → List Nat
  | [] => []
  | entry :: rest => (entry + uint64Modulus - previous) % uint64Modulus :: subPrevious entry rest

/-- `absolute_output_offsets_to_relative(off)`: the empty vector as it is, else sorted. -/
def absoluteOutputOffsetsToRelative (off : List Nat) : List Nat :=
  match sortOffsets off with
  | [] => []
  | first :: rest => first :: subPrevious first rest

section Sums

/-- Sums that do not wrap are running sums above the first. -/
theorem addPrevious_bounds : ∀ (previous : Nat) (rest : List Nat),
    previous + rest.sum < uint64Modulus →
      ∀ x ∈ addPrevious previous rest, previous ≤ x ∧ x ≤ previous + rest.sum
  | _, [], _, _, mem => absurd mem List.not_mem_nil
  | previous, entry :: rest, fits, x, mem => by
    rw [List.sum_cons] at fits
    rw [addPrevious, Nat.mod_eq_of_lt (by omega), List.mem_cons] at mem
    rcases mem with rfl | later
    · simp only [List.sum_cons]
      omega
    · have := addPrevious_bounds (entry + previous) rest (by omega) x later
      simp only [List.sum_cons]
      omega

/-- Sums that do not wrap ascend. -/
theorem pairwise_addPrevious : ∀ (previous : Nat) (rest : List Nat),
    previous + rest.sum < uint64Modulus →
      (previous :: addPrevious previous rest).Pairwise (· ≤ ·)
  | previous, [], _ => List.pairwise_singleton _ _
  | previous, entry :: rest, fits => by
    rw [List.sum_cons] at fits
    have summed : (entry + previous) % uint64Modulus = entry + previous := Nat.mod_eq_of_lt (by omega)
    have tail := pairwise_addPrevious (entry + previous) rest (by omega)
    rw [addPrevious, summed, List.pairwise_cons]
    refine ⟨fun x mem => ?_, tail⟩
    rcases List.mem_cons.mp mem with rfl | later
    · omega
    · have := addPrevious_bounds (entry + previous) rest (by omega) x later
      omega

/-- The gaps of running sums that do not wrap are the summands. -/
theorem subPrevious_addPrevious : ∀ (previous : Nat) (rest : List Nat),
    previous + rest.sum < uint64Modulus → subPrevious previous (addPrevious previous rest) = rest
  | _, [], _ => rfl
  | previous, entry :: rest, fits => by
    rw [List.sum_cons] at fits
    have summed : (entry + previous) % uint64Modulus = entry + previous := Nat.mod_eq_of_lt (by omega)
    rw [addPrevious, summed, subPrevious, subPrevious_addPrevious (entry + previous) rest (by omega),
      show entry + previous + uint64Modulus - previous = entry + uint64Modulus by omega,
      Nat.add_mod_right, Nat.mod_eq_of_lt (by omega)]

/-- The running sums of the gaps of ascending offsets are the offsets. -/
theorem addPrevious_subPrevious : ∀ (previous : Nat) (rest : List Nat),
    (previous :: rest).Pairwise (· ≤ ·) → (∀ x ∈ rest, x < uint64Modulus) →
      addPrevious previous (subPrevious previous rest) = rest
  | _, [], _, _ => rfl
  | previous, entry :: rest, ascending, word => by
    have le : previous ≤ entry := List.rel_of_pairwise_cons ascending List.mem_cons_self
    have small : entry < uint64Modulus := word entry List.mem_cons_self
    have gap : (entry + uint64Modulus - previous) % uint64Modulus = entry - previous := by
      rw [show entry + uint64Modulus - previous = entry - previous + uint64Modulus by omega,
        Nat.add_mod_right, Nat.mod_eq_of_lt (by omega)]
    rw [subPrevious, addPrevious, gap, show entry - previous + previous = entry by omega,
      Nat.mod_eq_of_lt small,
      addPrevious_subPrevious entry rest (List.pairwise_cons.mp ascending).2
        (fun x mem => word x (List.mem_cons_of_mem _ mem))]

end Sums

section Sorted

theorem pairwise_sortOffsets (off : List Nat) : (sortOffsets off).Pairwise (· ≤ ·) := by
  have sorted := @List.pairwise_mergeSort Nat (fun a b => decide (a ≤ b))
    (fun a b c hab hbc => by simp only [decide_eq_true_eq] at *; omega)
    (fun a b => by simpa using Nat.le_total a b) off
  exact sorted.imp (fun le => by simpa using le)

theorem sortOffsets_perm (off : List Nat) : (sortOffsets off).Perm off := List.mergeSort_perm _ _

theorem sortOffsets_of_pairwise {off : List Nat} (ascending : off.Pairwise (· ≤ ·)) :
    sortOffsets off = off :=
  List.mergeSort_of_pairwise (ascending.imp fun le => decide_eq_true le)

end Sorted

section Words

theorem length_subPrevious : ∀ (previous : Nat) (rest : List Nat),
    (subPrevious previous rest).length = rest.length
  | _, [] => rfl
  | _, entry :: rest => by rw [subPrevious, List.length_cons, length_subPrevious entry rest]; rfl

theorem subPrevious_lt : ∀ (previous : Nat) (rest : List Nat), ∀ x ∈ subPrevious previous rest,
    x < uint64Modulus
  | _, [], _, mem => absurd mem List.not_mem_nil
  | previous, entry :: rest, x, mem => by
    rcases List.mem_cons.mp mem with rfl | later
    · exact Nat.mod_lt _ (by decide)
    · exact subPrevious_lt entry rest x later

theorem length_absoluteOutputOffsetsToRelative (off : List Nat) :
    (absoluteOutputOffsetsToRelative off).length = off.length := by
  rw [absoluteOutputOffsetsToRelative, ← (sortOffsets_perm off).length_eq]
  cases sortOffsets off with
  | nil => rfl
  | cons first rest => rw [List.length_cons, List.length_cons, length_subPrevious]

/-- The gaps of `uint64_t` offsets are `uint64_t` words. -/
theorem absoluteOutputOffsetsToRelative_lt {off : List Nat} (word : ∀ x ∈ off, x < uint64Modulus) :
    ∀ x ∈ absoluteOutputOffsetsToRelative off, x < uint64Modulus := by
  have sortedWord : ∀ x ∈ sortOffsets off, x < uint64Modulus := fun x mem =>
    word x ((sortOffsets_perm off).subset mem)
  rw [absoluteOutputOffsetsToRelative]
  generalize sortOffsets off = sorted at sortedWord
  cases sorted with
  | nil => exact fun _ mem => absurd mem List.not_mem_nil
  | cons first rest =>
    intro x mem
    rcases List.mem_cons.mp mem with rfl | later
    · exact sortedWord x List.mem_cons_self
    · exact subPrevious_lt first rest x later

end Words

/-- Back from the gaps: the offsets, sorted. -/
theorem relativeOutputOffsetsToAbsolute_toRelative (off : List Nat)
    (word : ∀ x ∈ off, x < uint64Modulus) :
    relativeOutputOffsetsToAbsolute (absoluteOutputOffsetsToRelative off) = sortOffsets off := by
  have ascending := pairwise_sortOffsets off
  have sortedWord : ∀ x ∈ sortOffsets off, x < uint64Modulus := fun x mem =>
    word x ((sortOffsets_perm off).subset mem)
  rw [absoluteOutputOffsetsToRelative]
  generalize sortOffsets off = sorted at ascending sortedWord
  cases sorted with
  | nil => rfl
  | cons first rest =>
    rw [relativeOutputOffsetsToAbsolute, addPrevious_subPrevious first rest ascending
      (fun x mem => sortedWord x (List.mem_cons_of_mem _ mem))]

/-- Back from the running sums, when they do not wrap: the gaps. -/
theorem absoluteOutputOffsetsToRelative_toAbsolute (r : List Nat) (fits : r.sum < uint64Modulus) :
    absoluteOutputOffsetsToRelative (relativeOutputOffsetsToAbsolute r) = r := by
  cases r with
  | nil => simp [relativeOutputOffsetsToAbsolute, absoluteOutputOffsetsToRelative, sortOffsets]
  | cons first rest =>
    rw [List.sum_cons] at fits
    rw [relativeOutputOffsetsToAbsolute, absoluteOutputOffsetsToRelative,
      sortOffsets_of_pairwise (pairwise_addPrevious first rest fits)]
    simp only
    rw [subPrevious_addPrevious first rest fits]

end Sumokoin.Basic
