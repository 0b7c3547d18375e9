import Sumokoin.Difficulty.NextDifficulty
import Sumokoin.Difficulty.CheckHash

/-! `next_difficulty_64` and `next_difficulty_v2_64` of `cryptonote_basic/difficulty.cpp`, the
algorithms of versions 1 and 2 to 4 on `uint64_t` cumulative difficulties, against the wide ones
of `NextDifficulty`. A narrow function and its wide one cut the same window, so each of the four is
written through `cutWindow` by a lemma proved by `rfl`, and a comparison is about the last lines
only: the product of the window's work by the target time, formed in two words by `mul`, and the
division rounded up. Version 1 refuses a product or a rounding that leaves the low word, and so
agrees with the wide algorithm below `2 ^ 64`. Version 2 tests the high word only: a rounding
that wraps divides the wrapped sum, and a quotient `0` is raised to `1`. -/

namespace Sumokoin.Difficulty

/-- The window a difficulty algorithm reads after its cut: the kept timestamps sorted, the kept
cumulative difficulties, their count, and the cut `[cutBegin, cutEnd)`. -/
structure Window where
  timestamps : List Nat
  cumulativeDifficulties : List Nat
  length : Nat
  cutBegin : Nat
  cutEnd : Nat

/-- The first lines of the four algorithms, for a window of `count` entries cut by `cut` at each
end: the first `count` entries, sorted timestamps, and the kept entries centred. -/
def cutWindow (count cut : Nat) (timestamps cumulativeDifficulties : List Nat) : Window :=
  let (timestamps, cumulativeDifficulties) :=
    if timestamps.length > count then
      (resize timestamps count, resize cumulativeDifficulties count)
    else (timestamps, cumulativeDifficulties)
  let length := timestamps.length
  let kept := count - 2 * cut
  let (cutBegin, cutEnd) :=
    if length ≤ kept then (0, length)
    else
      let cutBegin := (length - kept + 1) / 2
      (cutBegin, cutBegin + kept)
  ⟨timestamps.insertionSort (· ≤ ·), cumulativeDifficulties, length, cutBegin, cutEnd⟩

/-- The window of `next_difficulty` and `next_difficulty_64`. -/
def windowV1 (timestamps cumulativeDifficulties : List Nat) : Window :=
  cutWindow difficultyWindow difficultyCut timestamps cumulativeDifficulties

/-- The window of `next_difficulty_v2` and `next_difficulty_v2_64`. -/
def windowV2 (timestamps cumulativeDifficulties : List Nat) : Window :=
  cutWindow difficultyBlocksCountV2 difficultyCutV2 timestamps cumulativeDifficulties

/-- `timestamps[cut_end - 1] - timestamps[cut_begin]`, at least one second. -/
def Window.timeSpan (w : Window) : Nat :=
  let timeSpan := sub64 (w.timestamps.getD (w.cutEnd - 1) 0) (w.timestamps.getD w.cutBegin 0)
  if timeSpan = 0 then 1 else timeSpan

/-- `adjusted_total_timespan` of `next_difficulty_v2` and `next_difficulty_v2_64`: the total span
blended with the median span, clamped per block. -/
def Window.adjustedTimespan (w : Window) : Nat :=
  let totalTimespan := w.timeSpan
  let timespanMedian :=
    if w.cutBegin > 0 ∧ w.length ≥ w.cutBegin * 2 + 3 then
      (Epee.median ((timeSpans w.timestamps (w.length - w.cutBegin * 2 - 3)).map
        UInt64.ofNat)).toNat
    else 0
  let timespanLength := w.length - w.cutBegin * 2 - 1
  let totalTimespanMedian :=
    if timespanMedian > 0 then timespanMedian * timespanLength % uint64Modulus
    else totalTimespan * 7 % uint64Modulus / 10
  let adjusted := (totalTimespan * 8 + totalTimespanMedian * 3) % uint64Modulus / 10
  let adjusted :=
    if adjusted > maxAverageTimespan * timespanLength % uint64Modulus then
      maxAverageTimespan * timespanLength % uint64Modulus
    else adjusted
  if adjusted < minAverageTimespan * timespanLength % uint64Modulus then
    minAverageTimespan * timespanLength % uint64Modulus
  else adjusted

/-- `cumulative_difficulties[cut_end - 1] - cumulative_difficulties[cut_begin]` on `uint64_t`. -/
def Window.work64 (w : Window) : Nat :=
  sub64 (w.cumulativeDifficulties.getD (w.cutEnd - 1) 0)
    (w.cumulativeDifficulties.getD w.cutBegin 0)

/-- The same difference on `difficulty_type`. -/
def Window.workWide (w : Window) : Nat :=
  subDifficulty (w.cumulativeDifficulties.getD (w.cutEnd - 1) 0)
    (w.cumulativeDifficulties.getD w.cutBegin 0)

/-- The work of the window, the exact difference of the two cumulative difficulties. -/
def Window.totalWork (w : Window) : Nat :=
  w.cumulativeDifficulties.getD (w.cutEnd - 1) 0 - w.cumulativeDifficulties.getD w.cutBegin 0

/-- `next_difficulty_64(timestamps, cumulative_difficulties, target_seconds)`. The time span is at
least one, so `low + time_span - 1` is the `uint64_t` sum. -/
def nextDifficulty64 (timestamps cumulativeDifficulties : List Nat) (targetSeconds : Nat) : Nat :=
  let (timestamps, cumulativeDifficulties) :=
    if timestamps.length > difficultyWindow then
      (resize timestamps difficultyWindow, resize cumulativeDifficulties difficultyWindow)
    else (timestamps, cumulativeDifficulties)
  let length := timestamps.length
  if length ≤ 1 then 1
  else
    let timestamps := timestamps.insertionSort (· ≤ ·)
    let (cutBegin, cutEnd) :=
      if length ≤ difficultyWindow - 2 * difficultyCut then (0, length)
      else
        let cutBegin := (length - (difficultyWindow - 2 * difficultyCut) + 1) / 2
        (cutBegin, cutBegin + (difficultyWindow - 2 * difficultyCut))
    let timeSpan := sub64 (timestamps.getD (cutEnd - 1) 0) (timestamps.getD cutBegin 0)
    let timeSpan := if timeSpan = 0 then 1 else timeSpan
    let totalWork := sub64 (cumulativeDifficulties.getD (cutEnd - 1) 0)
      (cumulativeDifficulties.getD cutBegin 0)
    let (low, high) := mul totalWork targetSeconds
    -- blockchain errors "difficulty overhead" if this function returns zero.
    if high ≠ 0 ∨ (low + timeSpan - 1) % uint64Modulus < low then 0
    else (low + timeSpan - 1) % uint64Modulus / timeSpan

/-- `next_difficulty_v2_64(timestamps, cumulative_difficulties, target_seconds)`. The adjusted
span is at least `MIN_AVERAGE_TIMESPAN`, so `low + adjusted_total_timespan - 1` is the `uint64_t`
sum. -/
def nextDifficultyV2_64 (timestamps cumulativeDifficulties : List Nat) (targetSeconds : Nat) :
    Nat :=
  let (timestamps, cumulativeDifficulties) :=
    if timestamps.length > difficultyBlocksCountV2 then
      (resize timestamps difficultyBlocksCountV2,
        resize cumulativeDifficulties difficultyBlocksCountV2)
    else (timestamps, cumulativeDifficulties)
  let length := timestamps.length
  if length ≤ 1 then 1
  else
    let timestamps := timestamps.insertionSort (· ≤ ·)
    let kept := difficultyBlocksCountV2 - 2 * difficultyCutV2
    let (cutBegin, cutEnd) :=
      if length ≤ kept then (0, length)
      else
        let cutBegin := (length - kept + 1) / 2
        (cutBegin, cutBegin + kept)
    let totalTimespan := sub64 (timestamps.getD (cutEnd - 1) 0) (timestamps.getD cutBegin 0)
    let totalTimespan := if totalTimespan = 0 then 1 else totalTimespan
    let timespanMedian :=
      if cutBegin > 0 ∧ length ≥ cutBegin * 2 + 3 then
        (Epee.median ((timeSpans timestamps (length - cutBegin * 2 - 3)).map UInt64.ofNat)).toNat
      else 0
    let timespanLength := length - cutBegin * 2 - 1
    let totalTimespanMedian :=
      if timespanMedian > 0 then timespanMedian * timespanLength % uint64Modulus
      else totalTimespan * 7 % uint64Modulus / 10
    let adjusted := (totalTimespan * 8 + totalTimespanMedian * 3) % uint64Modulus / 10
    let adjusted :=
      if adjusted > maxAverageTimespan * timespanLength % uint64Modulus then
        maxAverageTimespan * timespanLength % uint64Modulus
      else adjusted
    let adjusted :=
      if adjusted < minAverageTimespan * timespanLength % uint64Modulus then
        minAverageTimespan * timespanLength % uint64Modulus
      else adjusted
    let totalWork := sub64 (cumulativeDifficulties.getD (cutEnd - 1) 0)
      (cumulativeDifficulties.getD cutBegin 0)
    let (low, high) := mul totalWork targetSeconds
    if high ≠ 0 then 0
    else
      let nextDiff := (low + adjusted - 1) % uint64Modulus / adjusted
      if nextDiff < 1 then 1 else nextDiff

/-! Each algorithm is its window followed by its last lines. -/

theorem nextDifficulty_eq_window (timestamps cumulativeDifficulties : List Nat)
    (targetSeconds : Nat) :
    nextDifficulty timestamps cumulativeDifficulties targetSeconds =
      let w := cutWindow difficultyWindow difficultyCut timestamps cumulativeDifficulties
      if w.length ≤ 1 then 1
      else
        let res := (w.workWide * targetSeconds + w.timeSpan - 1) / w.timeSpan
        if res > max128bit then 0 else res := rfl

theorem nextDifficultyV2_eq_window (timestamps cumulativeDifficulties : List Nat)
    (targetSeconds : Nat) :
    nextDifficultyV2 timestamps cumulativeDifficulties targetSeconds =
      let w := cutWindow difficultyBlocksCountV2 difficultyCutV2 timestamps cumulativeDifficulties
      if w.length ≤ 1 then 1
      else
        let res := (w.workWide * targetSeconds + w.adjustedTimespan - 1) / w.adjustedTimespan
        if res > max128bit then 0 else res := rfl

theorem nextDifficulty64_eq_window (timestamps cumulativeDifficulties : List Nat)
    (targetSeconds : Nat) :
    nextDifficulty64 timestamps cumulativeDifficulties targetSeconds =
      let w := cutWindow difficultyWindow difficultyCut timestamps cumulativeDifficulties
      if w.length ≤ 1 then 1
      else
        let (low, high) := mul w.work64 targetSeconds
        if high ≠ 0 ∨ (low + w.timeSpan - 1) % uint64Modulus < low then 0
        else (low + w.timeSpan - 1) % uint64Modulus / w.timeSpan := rfl

theorem nextDifficultyV2_64_eq_window (timestamps cumulativeDifficulties : List Nat)
    (targetSeconds : Nat) :
    nextDifficultyV2_64 timestamps cumulativeDifficulties targetSeconds =
      let w := cutWindow difficultyBlocksCountV2 difficultyCutV2 timestamps cumulativeDifficulties
      if w.length ≤ 1 then 1
      else
        let (low, high) := mul w.work64 targetSeconds
        if high ≠ 0 then 0
        else
          let nextDiff := (low + w.adjustedTimespan - 1) % uint64Modulus / w.adjustedTimespan
          if nextDiff < 1 then 1 else nextDiff := rfl

theorem length_resize (l : List Nat) (n : Nat) : (resize l n).length = n := by
  simp only [resize, List.length_append, List.length_take, List.length_replicate]
  omega

theorem resize_of_le {l : List Nat} {n : Nat} (le : n ≤ l.length) : resize l n = l.take n := by
  simp [resize, Nat.sub_eq_zero_of_le le]

section Cut

variable (count cut : Nat) (timestamps cumulativeDifficulties : List Nat)

/-- The cut: the whole window while it has at most the kept count, else the kept count centred,
one more entry cut at the start when the surplus is odd. -/
theorem cutWindow_cut :
    let w := cutWindow count cut timestamps cumulativeDifficulties
    (w.cutBegin, w.cutEnd) =
      if w.length ≤ count - 2 * cut then (0, w.length)
      else ((w.length - (count - 2 * cut) + 1) / 2,
        (w.length - (count - 2 * cut) + 1) / 2 + (count - 2 * cut)) := rfl

theorem cutWindow_length :
    (cutWindow count cut timestamps cumulativeDifficulties).length =
      min timestamps.length count := by
  by_cases long : timestamps.length > count
  · simp only [cutWindow, long, if_true, length_resize]
    omega
  · simp only [cutWindow, long, if_false]
    omega

/-- The kept entries of two lists of one length: the first `count` of each. -/
theorem cutWindow_kept (same : timestamps.length = cumulativeDifficulties.length) :
    let w := cutWindow count cut timestamps cumulativeDifficulties
    w.cumulativeDifficulties = cumulativeDifficulties.take count ∧
      w.length = min cumulativeDifficulties.length count := by
  by_cases long : timestamps.length > count
  · have first : resize cumulativeDifficulties count = cumulativeDifficulties.take count :=
      resize_of_le (by omega)
    refine ⟨by simp only [cutWindow, long, if_true, first], ?_⟩
    rw [cutWindow_length]
    omega
  · refine ⟨?_, ?_⟩
    · simp only [cutWindow, long, if_false]
      exact (List.take_of_length_le (by omega)).symm
    · rw [cutWindow_length]
      omega

/-- The assertion `cut_begin + 2 <= cut_end && cut_end <= length` of the source, from its static
assertion `2 * cut <= count - 2`. -/
theorem cutWindow_bounds (room : 2 * cut + 2 ≤ count)
    (long : 1 < (cutWindow count cut timestamps cumulativeDifficulties).length) :
    let w := cutWindow count cut timestamps cumulativeDifficulties
    w.cutBegin + 2 ≤ w.cutEnd ∧ w.cutEnd ≤ w.length := by
  have bounds := cutWindow_cut count cut timestamps cumulativeDifficulties
  dsimp only at bounds long ⊢
  split_ifs at bounds <;> simp only [Prod.mk.injEq] at bounds <;> omega

/-- On a window of at least two entries of increasing words, both differences of the source are
the work, which fits a word. -/
theorem cutWindow_work (same : timestamps.length = cumulativeDifficulties.length)
    (increasing : cumulativeDifficulties.Pairwise (· < ·))
    (words : ∀ d ∈ cumulativeDifficulties, d < 2 ^ 64) (room : 2 * cut + 2 ≤ count)
    (long : 1 < (cutWindow count cut timestamps cumulativeDifficulties).length) :
    let w := cutWindow count cut timestamps cumulativeDifficulties
    w.work64 = w.totalWork ∧ w.workWide = w.totalWork ∧ w.totalWork < 2 ^ 64 := by
  obtain ⟨kept, keptLength⟩ := cutWindow_kept count cut timestamps cumulativeDifficulties same
  obtain ⟨apart, within⟩ :=
    cutWindow_bounds count cut timestamps cumulativeDifficulties room long
  dsimp only at kept keptLength apart within ⊢
  generalize cutWindow count cut timestamps cumulativeDifficulties = w at *
  simp only [Window.work64, Window.workWide, Window.totalWork, kept]
  -- the two entries read are entries of the first `count`, the first before the last
  have last : w.cutEnd - 1 < (cumulativeDifficulties.take count).length := by
    rw [List.length_take]; omega
  have first : w.cutBegin < (cumulativeDifficulties.take count).length := by omega
  have ordered : (cumulativeDifficulties.take count).getD w.cutBegin 0 <
      (cumulativeDifficulties.take count).getD (w.cutEnd - 1) 0 := by
    rw [List.getD_eq_getElem _ _ first, List.getD_eq_getElem _ _ last]
    exact List.pairwise_iff_getElem.mp increasing.take _ _ first last (by omega)
  have top : (cumulativeDifficulties.take count).getD (w.cutEnd - 1) 0 < 2 ^ 64 := by
    rw [List.getD_eq_getElem _ _ last]
    exact words _ (List.mem_of_mem_take (List.getElem_mem last))
  exact ⟨sub64_of_le top ordered.le, subDifficulty_of_le (by omega) ordered.le, by omega⟩

/-- A kept count of three or more leaves at least one span between the cuts. -/
theorem cutWindow_spans (three : 3 ≤ count - 2 * cut)
    (long : 1 < (cutWindow count cut timestamps cumulativeDifficulties).length) :
    let w := cutWindow count cut timestamps cumulativeDifficulties
    w.cutBegin * 2 + 2 ≤ w.length := by
  have bounds := cutWindow_cut count cut timestamps cumulativeDifficulties
  dsimp only at bounds long ⊢
  split_ifs at bounds <;> simp only [Prod.mk.injEq] at bounds <;> omega

end Cut

theorem Window.timeSpan_bounds (w : Window) : 1 ≤ w.timeSpan ∧ w.timeSpan < 2 ^ 64 := by
  have word : sub64 (w.timestamps.getD (w.cutEnd - 1) 0) (w.timestamps.getD w.cutBegin 0) <
      2 ^ 64 := Nat.mod_lt _ (by decide)
  simp only [Window.timeSpan]
  split_ifs <;> omega

theorem le_raise (m x : Nat) : m ≤ if x < m then m else x := by
  split <;> omega

/-- The adjusted span is at least `MIN_AVERAGE_TIMESPAN` per span. -/
theorem Window.le_adjustedTimespan (w : Window) :
    minAverageTimespan * (w.length - w.cutBegin * 2 - 1) % uint64Modulus ≤ w.adjustedTimespan :=
  le_raise _ _

/-- The window of versions 2 to 4 has at least one span, and so an adjusted span of at least
one second. -/
theorem cutWindowV2_adjustedTimespan_pos (timestamps cumulativeDifficulties : List Nat)
    (long : 1 < (cutWindow difficultyBlocksCountV2 difficultyCutV2 timestamps
      cumulativeDifficulties).length) :
    1 ≤ (cutWindow difficultyBlocksCountV2 difficultyCutV2 timestamps
      cumulativeDifficulties).adjustedTimespan := by
  have spans := cutWindow_spans difficultyBlocksCountV2 difficultyCutV2 timestamps
    cumulativeDifficulties (by decide) long
  have atMost := cutWindow_length difficultyBlocksCountV2 difficultyCutV2 timestamps
    cumulativeDifficulties
  have least := (cutWindow difficultyBlocksCountV2 difficultyCutV2 timestamps
    cumulativeDifficulties).le_adjustedTimespan
  dsimp only at spans
  generalize cutWindow difficultyBlocksCountV2 difficultyCutV2 timestamps
    cumulativeDifficulties = w at *
  simp only [difficultyBlocksCountV2, difficultyWindowV2, difficultyCutV2, minAverageTimespan,
    difficultyTarget, uint64Modulus, Nat.reduceMul, Nat.reduceAdd, Nat.reduceDiv] at atMost least
  -- at most 28 spans: the bound does not wrap (and `omega` is slow with the wrap left in)
  rw [Nat.mod_eq_of_lt (by omega)] at least
  omega

/-! The last lines of the two algorithms, on the exact product `p` of the work and the target
time, with the low and the high word of `mul` written `p % 2 ^ 64` and `p / 2 ^ 64`. -/

/-- A quotient rounded up is at most the dividend. -/
theorem divCeil_le (p : Nat) {s : Nat} (pos : 1 ≤ s) : (p + s - 1) / s ≤ p := by
  apply Nat.le_of_lt_succ
  rw [Nat.div_lt_iff_lt_mul (by omega), Nat.succ_mul]
  have : p ≤ p * s := Nat.le_mul_of_pos_right p pos
  omega

/-- The last lines of `next_difficulty_64`: it refuses exactly a rounded sum `p + s - 1` that
leaves the low word, and otherwise divides the exact sum. -/
theorem roundUp64_eq {p s : Nat} (pos : 1 ≤ s) (small : s < 2 ^ 64) :
    (if p / 2 ^ 64 ≠ 0 ∨ (p % 2 ^ 64 + s - 1) % uint64Modulus < p % 2 ^ 64 then 0
      else (p % 2 ^ 64 + s - 1) % uint64Modulus / s) =
      if 2 ^ 64 ≤ p + s - 1 then 0 else (p + s - 1) / s := by
  by_cases wraps : 2 ^ 64 ≤ p + s - 1
  · -- the high word is set, or the low word wraps
    have refused : p / 2 ^ 64 ≠ 0 ∨ (p % 2 ^ 64 + s - 1) % uint64Modulus < p % 2 ^ 64 := by
      simp only [uint64Modulus]
      omega
    rw [if_pos wraps, if_pos refused]
  · have fits : (p % 2 ^ 64 + s - 1) % uint64Modulus = p + s - 1 := by
      simp only [uint64Modulus]
      omega
    have accepted : ¬(p / 2 ^ 64 ≠ 0 ∨ (p % 2 ^ 64 + s - 1) % uint64Modulus < p % 2 ^ 64) := by
      rw [fits]
      omega
    rw [if_neg wraps, if_neg accepted, fits]

/-- Raising a quotient `0` to `1` is the maximum with `1`. -/
theorem raise_eq_max (q : Nat) : (if q < 1 then 1 else q) = max 1 q := by
  rw [max_def]
  split_ifs <;> omega

/-- The last lines of `next_difficulty_v2_64`: it refuses a product that leaves the low word
only, divides the rounded sum modulo `2 ^ 64`, and raises a quotient `0` to `1`. -/
theorem roundUpV2_64_eq (p a : Nat) :
    (if p / 2 ^ 64 ≠ 0 then 0
      else
        let nextDiff := (p % 2 ^ 64 + a - 1) % uint64Modulus / a
        if nextDiff < 1 then 1 else nextDiff) =
      if 2 ^ 64 ≤ p then 0 else max 1 ((p + a - 1) % 2 ^ 64 / a) := by
  by_cases wraps : 2 ^ 64 ≤ p
  · have high : p / 2 ^ 64 ≠ 0 := by omega
    rw [if_pos high, if_pos wraps]
  · have high : ¬p / 2 ^ 64 ≠ 0 := by omega
    have low : p % 2 ^ 64 = p := Nat.mod_eq_of_lt (by omega)
    rw [if_neg high, if_neg wraps, low]
    exact raise_eq_max _

section Narrow

variable {timestamps cumulativeDifficulties : List Nat} {targetSeconds : Nat}

/-- Version 1 on words agrees with the wide algorithm, except that it returns `0` when the
rounded product `W * t + S - 1` of the window's work and span leaves the word. -/
theorem nextDifficulty64_eq (same : timestamps.length = cumulativeDifficulties.length)
    (increasing : cumulativeDifficulties.Pairwise (· < ·))
    (words : ∀ d ∈ cumulativeDifficulties, d < 2 ^ 64) (target : targetSeconds < 2 ^ 64) :
    let w := cutWindow difficultyWindow difficultyCut timestamps cumulativeDifficulties
    nextDifficulty64 timestamps cumulativeDifficulties targetSeconds =
      if 1 < w.length ∧ 2 ^ 64 ≤ w.totalWork * targetSeconds + w.timeSpan - 1 then 0
      else nextDifficulty timestamps cumulativeDifficulties targetSeconds := by
  have work := cutWindow_work difficultyWindow difficultyCut timestamps cumulativeDifficulties
    same increasing words (by decide)
  rw [nextDifficulty64_eq_window, nextDifficulty_eq_window]
  dsimp only at work ⊢
  generalize cutWindow difficultyWindow difficultyCut timestamps cumulativeDifficulties = w at *
  by_cases short : w.length ≤ 1
  · rw [if_pos short, if_neg (by omega), if_pos short]
  · have long : 1 < w.length := by omega
    obtain ⟨work64, workWide, small⟩ := work long
    obtain ⟨pos, spanSmall⟩ := w.timeSpan_bounds
    rw [if_neg short, if_neg short, work64, workWide, mul_eq small target]
    dsimp only
    rw [roundUp64_eq pos spanSmall]
    -- the wide quotient is at most the product, so the wide algorithm never refuses
    have notOver : ¬(w.totalWork * targetSeconds + w.timeSpan - 1) / w.timeSpan > max128bit := by
      have := divCeil_le (w.totalWork * targetSeconds) pos
      have := mul_lt_of_words small target
      simp only [max128bit, difficultyModulus]
      omega
    simp only [notOver, if_false, long, true_and]

/-- Versions 2 to 4 on words return `0` only for a product `W * t` of the window's work and the
target that leaves the word; a rounded sum `W * t + A - 1` that leaves it is divided modulo
`2 ^ 64`, and elsewhere the wide result is raised to at least `1`. -/
theorem nextDifficultyV2_64_eq (same : timestamps.length = cumulativeDifficulties.length)
    (increasing : cumulativeDifficulties.Pairwise (· < ·))
    (words : ∀ d ∈ cumulativeDifficulties, d < 2 ^ 64) (target : targetSeconds < 2 ^ 64) :
    let w := cutWindow difficultyBlocksCountV2 difficultyCutV2 timestamps cumulativeDifficulties
    nextDifficultyV2_64 timestamps cumulativeDifficulties targetSeconds =
      if 1 < w.length ∧ 2 ^ 64 ≤ w.totalWork * targetSeconds then 0
      else if 1 < w.length ∧ 2 ^ 64 ≤ w.totalWork * targetSeconds + w.adjustedTimespan - 1 then
        max 1 ((w.totalWork * targetSeconds + w.adjustedTimespan - 1) % 2 ^ 64 /
          w.adjustedTimespan)
      else max 1 (nextDifficultyV2 timestamps cumulativeDifficulties targetSeconds) := by
  have work := cutWindow_work difficultyBlocksCountV2 difficultyCutV2 timestamps
    cumulativeDifficulties same increasing words (by decide)
  have adjusted := cutWindowV2_adjustedTimespan_pos timestamps cumulativeDifficulties
  rw [nextDifficultyV2_64_eq_window, nextDifficultyV2_eq_window]
  dsimp only at work ⊢
  generalize cutWindow difficultyBlocksCountV2 difficultyCutV2 timestamps
    cumulativeDifficulties = w at *
  by_cases short : w.length ≤ 1
  · have notLong : ¬1 < w.length := by omega
    simp only [short, notLong, if_true, false_and, if_false]
    rfl
  · have long : 1 < w.length := by omega
    obtain ⟨work64, workWide, small⟩ := work long
    have pos := adjusted long
    rw [if_neg short, if_neg short, work64, workWide, mul_eq small target]
    dsimp only
    rw [roundUpV2_64_eq]
    have notOver : ¬(w.totalWork * targetSeconds + w.adjustedTimespan - 1) /
        w.adjustedTimespan > max128bit := by
      have := divCeil_le (w.totalWork * targetSeconds) pos
      have := mul_lt_of_words small target
      simp only [max128bit, difficultyModulus]
      omega
    simp only [notOver, if_false, long, true_and]
    -- below the word, the wrapped sum is the sum
    by_cases wraps : 2 ^ 64 ≤ w.totalWork * targetSeconds + w.adjustedTimespan - 1
    · simp only [wraps, if_true]
    · have fits : (w.totalWork * targetSeconds + w.adjustedTimespan - 1) % 2 ^ 64 =
          w.totalWork * targetSeconds + w.adjustedTimespan - 1 := Nat.mod_eq_of_lt (by omega)
      simp only [wraps, if_false, fits]

end Narrow

/-- The narrow algorithms against the wide ones, on increasing cumulative difficulties that fit
a word: version 1 agrees except for a `0` exactly when the rounded product `W * t + S - 1` leaves
the word; versions 2 to 4 return `0` only when `W * t` itself leaves it, divide a rounded sum
`W * t + A - 1` that leaves it modulo `2 ^ 64`, and raise the wide result to at least `1`. -/
theorem nextDifficulty_narrow_eq (ts cd : List Nat) (t : Nat) (same : ts.length = cd.length)
    (increasing : cd.Pairwise (· < ·)) (words : ∀ d ∈ cd, d < 2 ^ 64) (target : t < 2 ^ 64) :
    (nextDifficulty64 ts cd t =
      if 1 < (windowV1 ts cd).length ∧
          2 ^ 64 ≤ (windowV1 ts cd).totalWork * t + (windowV1 ts cd).timeSpan - 1 then 0
      else nextDifficulty ts cd t) ∧
    (nextDifficultyV2_64 ts cd t =
      if 1 < (windowV2 ts cd).length ∧ 2 ^ 64 ≤ (windowV2 ts cd).totalWork * t then 0
      else if 1 < (windowV2 ts cd).length ∧
          2 ^ 64 ≤ (windowV2 ts cd).totalWork * t + (windowV2 ts cd).adjustedTimespan - 1 then
        max 1 (((windowV2 ts cd).totalWork * t + (windowV2 ts cd).adjustedTimespan - 1) % 2 ^ 64 /
          (windowV2 ts cd).adjustedTimespan)
      else max 1 (nextDifficultyV2 ts cd t)) :=
  ⟨nextDifficulty64_eq same increasing words target,
    nextDifficultyV2_64_eq same increasing words target⟩

/-- Two blocks a hundred seconds apart whose work times the target is `2 ^ 64 - 16`: the adjusted
span is `101`, the rounded sum leaves the word, and `next_difficulty_v2_64` returns `1` where the
wide algorithm returns `⌈(2 ^ 64 - 16) / 101⌉`. -/
theorem nextDifficulty_narrow_eq_wrapped :
    (windowV2 [0, 100] [0, 76861433640456465]).adjustedTimespan = 101 ∧
      (windowV2 [0, 100] [0, 76861433640456465]).totalWork * 240 = 2 ^ 64 - 16 ∧
      nextDifficultyV2_64 [0, 100] [0, 76861433640456465] 240 = 1 ∧
      nextDifficultyV2 [0, 100] [0, 76861433640456465] 240 = 182641030432767838 := by
  have narrow := (nextDifficulty_narrow_eq [0, 100] [0, 76861433640456465] 240 rfl
    (by decide) (by decide) (by decide)).2
  refine ⟨by decide, by decide, ?_, by decide⟩
  rw [narrow]
  decide

end Sumokoin.Difficulty
