import Sumokoin.Epee.Median
import Sumokoin.Config

/-! The difficulty algorithms of `cryptonote_basic/difficulty.cpp` on `difficulty_type` (a 128 bit
word): `next_difficulty` for version 1 and `next_difficulty_v2` for versions 2 to 4, with the wrap
of every `uint64_t` and `difficulty_type` operation that can wrap. `next_difficulty_v3`, used from
version 5 on, computes in `double`; it is a parameter of the models that call it. -/

namespace Sumokoin.Difficulty

open Sumokoin.Epee

/-- `a - b` on `uint64_t`. -/
def sub64 (a b : Nat) : Nat := (a + uint64Modulus - b % uint64Modulus) % uint64Modulus

/-- `a - b` on words with `b ≤ a` is the difference. -/
theorem sub64_of_le {a b : Nat} (small : a < 2 ^ 64) (le : b ≤ a) : sub64 a b = a - b := by
  have word : b % 2 ^ 64 = b := Nat.mod_eq_of_lt (by omega)
  simp only [sub64, uint64Modulus, word]
  rw [show a + 2 ^ 64 - b = a - b + 2 ^ 64 by omega, Nat.add_mod_right, Nat.mod_eq_of_lt (by omega)]

/-- The width of `difficulty_type`, `boost::multiprecision::uint128_t`. -/
def difficultyModulus : Nat := 2 ^ 128

/-- `a - b` on `difficulty_type`. -/
def subDifficulty (a b : Nat) : Nat :=
  (a + difficultyModulus - b % difficultyModulus) % difficultyModulus

/-- `a - b` on `difficulty_type` with `b ≤ a` is the difference. -/
theorem subDifficulty_of_le {a b : Nat} (small : a < 2 ^ 128) (le : b ≤ a) :
    subDifficulty a b = a - b := by
  have word : b % 2 ^ 128 = b := Nat.mod_eq_of_lt (by omega)
  simp only [subDifficulty, difficultyModulus, word]
  rw [show a + 2 ^ 128 - b = a - b + 2 ^ 128 by omega, Nat.add_mod_right, Nat.mod_eq_of_lt (by omega)]

/-- `max128bit`, the largest `difficulty_type`. -/
def max128bit : Nat := difficultyModulus - 1

/-- `std::vector::resize`: the first `n` entries, padded with zeros. -/
def resize (l : List Nat) (n : Nat) : List Nat := l.take n ++ List.replicate (n - l.length) 0

/-- `next_difficulty`, the algorithm of version 1: the first `DIFFICULTY_WINDOW` entries, the
sorted timestamps cut by `DIFFICULTY_CUT` at each end, and the work over that span per target
time, rounded up. -/
def nextDifficulty (timestamps cumulativeDifficulties : List Nat) (targetSeconds : Nat) : Nat :=
  let (timestamps, cumulativeDifficulties) :=
    if timestamps.length > difficultyWindow then
      (resize timestamps difficultyWindow, resize cumulativeDifficulties difficultyWindow)
    else (timestamps, cumulativeDifficulties)
  let length := timestamps.length
  if length ≤ 1 then 1
  else
    let timestamps := timestamps.insertionSort (· ≤ ·)
    let (cutBegin, cutEnd) :=
      if length ≤ difficultyWindow - 2 * difficultyCut then (0, length)
      else
        let cutBegin := (length - (difficultyWindow - 2 * difficultyCut) + 1) / 2
        (cutBegin, cutBegin + (difficultyWindow - 2 * difficultyCut))
    let timeSpan := sub64 (timestamps.getD (cutEnd - 1) 0) (timestamps.getD cutBegin 0)
    let timeSpan := if timeSpan = 0 then 1 else timeSpan
    let totalWork := subDifficulty (cumulativeDifficulties.getD (cutEnd - 1) 0)
      (cumulativeDifficulties.getD cutBegin 0)
    let res := (totalWork * targetSeconds + timeSpan - 1) / timeSpan
    if res > max128bit then 0 else res

/-- The spans between consecutive sorted timestamps from index `first` to the last, each at
least one second: the `time_spans` of `next_difficulty_v2`. -/
def timeSpans (timestamps : List Nat) (first : Nat) : List Nat :=
  (List.range' first (timestamps.length - 1 - first)).map fun i =>
    let timeSpan := sub64 (timestamps.getD (i + 1) 0) (timestamps.getD i 0)
    if timeSpan = 0 then 1 else timeSpan

/-- `next_difficulty_v2`, the algorithm of versions 2 to 4: `DIFFICULTY_BLOCKS_COUNT_V2` entries
cut by `DIFFICULTY_CUT_V2`, with the span blended from the total and the median solve time and
clamped between `MIN_AVERAGE_TIMESPAN` and `MAX_AVERAGE_TIMESPAN` per block. -/
def nextDifficultyV2 (timestamps cumulativeDifficulties : List Nat) (targetSeconds : Nat) : Nat :=
  let (timestamps, cumulativeDifficulties) :=
    if timestamps.length > difficultyBlocksCountV2 then
      (resize timestamps difficultyBlocksCountV2,
        resize cumulativeDifficulties difficultyBlocksCountV2)
    else (timestamps, cumulativeDifficulties)
  let length := timestamps.length
  if length ≤ 1 then 1
  else
    let timestamps := timestamps.insertionSort (· ≤ ·)
    let kept := difficultyBlocksCountV2 - 2 * difficultyCutV2
    let (cutBegin, cutEnd) :=
      if length ≤ kept then (0, length)
      else
        let cutBegin := (length - kept + 1) / 2
        (cutBegin, cutBegin + kept)
    let totalTimespan := sub64 (timestamps.getD (cutEnd - 1) 0) (timestamps.getD cutBegin 0)
    let totalTimespan := if totalTimespan = 0 then 1 else totalTimespan
    let timespanMedian :=
      if cutBegin > 0 ∧ length ≥ cutBegin * 2 + 3 then
        (median ((timeSpans timestamps (length - cutBegin * 2 - 3)).map UInt64.ofNat)).toNat
      else 0
    let timespanLength := length - cutBegin * 2 - 1
    let totalTimespanMedian :=
      if timespanMedian > 0 then timespanMedian * timespanLength % uint64Modulus
      else totalTimespan * 7 % uint64Modulus / 10
    let adjusted := (totalTimespan * 8 + totalTimespanMedian * 3) % uint64Modulus / 10
    let adjusted :=
      if adjusted > maxAverageTimespan * timespanLength % uint64Modulus then
        maxAverageTimespan * timespanLength % uint64Modulus
      else adjusted
    let adjusted :=
      if adjusted < minAverageTimespan * timespanLength % uint64Modulus then
        minAverageTimespan * timespanLength % uint64Modulus
      else adjusted
    let totalWork := subDifficulty (cumulativeDifficulties.getD (cutEnd - 1) 0)
      (cumulativeDifficulties.getD cutBegin 0)
    let res := (totalWork * targetSeconds + adjusted - 1) / adjusted
    if res > max128bit then 0 else res

/-- The window of blocks that `get_difficulty_for_next_block` and
`get_next_difficulty_for_alternative_chain` read for a hard fork version. -/
def difficultyBlocksCountFor (hfVersion : Nat) : Nat :=
  if hfVersion = 1 then difficultyBlocksCount
  else if hfVersion < 5 then difficultyBlocksCountV2
  else difficultyBlocksCountV3

/-- The algorithm applied to the window for a hard fork version, with `next_difficulty_v3` given. -/
def nextDifficultyFor (nextDifficultyV3 : List Nat → List Nat → Nat → Nat) (hfVersion : Nat)
    (timestamps cumulativeDifficulties : List Nat) (targetSeconds : Nat) : Nat :=
  if hfVersion = 1 then nextDifficulty timestamps cumulativeDifficulties targetSeconds
  else if hfVersion < 5 then nextDifficultyV2 timestamps cumulativeDifficulties targetSeconds
  else nextDifficultyV3 timestamps cumulativeDifficulties targetSeconds

theorem difficultyBlocksCountFor_pos (v : Nat) : 0 < difficultyBlocksCountFor v := by
  unfold difficultyBlocksCountFor
  split_ifs <;> decide

end Sumokoin.Difficulty
