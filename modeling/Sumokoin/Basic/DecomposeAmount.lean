import Sumokoin.Config
import Sumokoin.ProofKit.Digits

/-! `decompose_amount_into_digits` of `cryptonote_basic/cryptonote_format_utils.h`: an amount
split digit by digit, lowest first, into chunks `digit * 10 ^ k`; the low chunks join the dust
while it stays within the threshold, and the dust goes to its handler once. The handlers are
modelled by the list of their calls. Words are `uint64_t`, with their wraps.

Over the chunks the loop is a walk with the state `dust, is_dust_handled`; after the first chunk
that does not fit, no later chunk but zero fits, because every chunk that is not zero is above the
chunks below it. That is why nothing is lost, though the loop goes on adding to the dust after it
has handed the dust over. -/

namespace Sumokoin.Basic

open Sumokoin.ProofKit

/-- A call of `chunk_handler` or `dust_handler`, with the value passed. -/
inductive HandlerCall
  | chunk (value : Nat)
  | dust (value : Nat)
  deriving DecidableEq, Repr

/-- The values passed to `chunk_handler`, in order. -/
def chunkValues : List HandlerCall → List Nat :=
  List.filterMap fun
    | .chunk value => some value
    | .dust _ => none

/-- The values passed to `dust_handler`, in order. -/
def dustValues : List HandlerCall → List Nat :=
  List.filterMap fun
    | .chunk _ => none
    | .dust value => some value

/-- `dust` and `is_dust_handled`. -/
structure DustState where
  dust : Nat
  isDustHandled : Bool
  deriving DecidableEq, Repr

/-- The body of the loop past the division: `chunk` joins the dust while `dust + chunk` stays
within the threshold; otherwise the dust goes to `dust_handler` the first time it is not zero,
and the chunk to `chunk_handler` when it is not zero. -/
def takeChunk (dustThreshold : Nat) (st : DustState) (chunk : Nat) :
    List HandlerCall × DustState :=
  if (st.dust + chunk) % uint64Modulus ≤ dustThreshold then
    ([], { st with dust := (st.dust + chunk) % uint64Modulus })
  else
    ((if !st.isDustHandled && st.dust != 0 then [.dust st.dust] else []) ++
        (if chunk != 0 then [.chunk chunk] else []),
      -- `is_dust_handled` is set by the first handed-over dust
      { st with isDustHandled := st.isDustHandled || st.dust != 0 })

/-- The `while (0 != amount)` loop, with `fuel` bounding its rounds. -/
def decomposeLoop (dustThreshold : Nat) :
    (fuel amount order : Nat) → DustState → List HandlerCall × DustState
  | 0, _, _, st => ([], st)
  | fuel + 1, amount, order, st =>
    if amount = 0 then ([], st)
    else
      let chunk := amount % 10 * order % uint64Modulus
      let step := takeChunk dustThreshold st chunk
      let rest := decomposeLoop dustThreshold fuel (amount / 10) (order * 10 % uint64Modulus) step.2
      (step.1 ++ rest.1, rest.2)

/-- `decompose_amount_into_digits(amount, dust_threshold, chunk_handler, dust_handler)`: the calls
of the handlers. The loop has a round a digit, so `amount` rounds are enough. -/
def decomposeAmountIntoDigits (amount dustThreshold : Nat) : List HandlerCall :=
  if amount = 0 then []
  else
    let loop := decomposeLoop dustThreshold amount amount 1 ⟨0, false⟩
    loop.1 ++ (if !loop.2.isDustHandled && loop.2.dust != 0 then [.dust loop.2.dust] else [])

/-! ### The loop as a walk over the chunks -/

/-- The loop over a list of chunks. -/
def takeChunks (dustThreshold : Nat) : List Nat → DustState → List HandlerCall × DustState
  | [], st => ([], st)
  | chunk :: chunks, st =>
    let step := takeChunk dustThreshold st chunk
    let rest := takeChunks dustThreshold chunks step.2
    (step.1 ++ rest.1, rest.2)

@[simp] theorem chunkValues_append (calls calls' : List HandlerCall) :
    chunkValues (calls ++ calls') = chunkValues calls ++ chunkValues calls' :=
  List.filterMap_append

@[simp] theorem dustValues_append (calls calls' : List HandlerCall) :
    dustValues (calls ++ calls') = dustValues calls ++ dustValues calls' :=
  List.filterMap_append

@[simp] theorem chunkValues_chunk (value : Nat) : chunkValues [.chunk value] = [value] := rfl

@[simp] theorem chunkValues_dust (value : Nat) : chunkValues [.dust value] = [] := rfl

@[simp] theorem dustValues_chunk (value : Nat) : dustValues [.chunk value] = [] := rfl

@[simp] theorem dustValues_dust (value : Nat) : dustValues [.dust value] = [value] := rfl

@[simp] theorem chunkValues_nil : chunkValues [] = [] := rfl

@[simp] theorem dustValues_nil : dustValues [] = [] := rfl

@[simp] theorem chunkValues_dustIf (p : Prop) [Decidable p] (value : Nat) :
    chunkValues (if p then [.dust value] else []) = [] := by
  split <;> rfl

@[simp] theorem dustValues_dustIf (p : Prop) [Decidable p] (value : Nat) :
    dustValues (if p then [.dust value] else []) = if p then [value] else [] := by
  split <;> rfl

@[simp] theorem chunkValues_chunkIf (p : Prop) [Decidable p] (value : Nat) :
    chunkValues (if p then [.chunk value] else []) = if p then [value] else [] := by
  split <;> rfl

@[simp] theorem dustValues_chunkIf (p : Prop) [Decidable p] (value : Nat) :
    dustValues (if p then [.chunk value] else []) = [] := by
  split <;> rfl

theorem takeChunk_of_le {dustThreshold chunk : Nat} {st : DustState}
    (fits : (st.dust + chunk) % uint64Modulus ≤ dustThreshold) :
    takeChunk dustThreshold st chunk = ([], { st with dust := (st.dust + chunk) % uint64Modulus }) :=
  if_pos fits

theorem takeChunk_of_lt {dustThreshold chunk : Nat} {st : DustState}
    (exceeds : dustThreshold < (st.dust + chunk) % uint64Modulus) :
    takeChunk dustThreshold st chunk =
      ((if !st.isDustHandled && st.dust != 0 then [.dust st.dust] else []) ++
          (if chunk != 0 then [.chunk chunk] else []),
        { st with isDustHandled := st.isDustHandled || st.dust != 0 }) :=
  if_neg (Nat.not_le.mpr exceeds)

/-- The loop walks the place values of the digits of `amount` from the place `order`: the chunks
stay exact while `amount * order` fits in a word, and `amount` rounds are enough. -/
theorem decomposeLoop_eq (dustThreshold : Nat) :
    ∀ (fuel amount order : Nat) (st : DustState), amount ≤ fuel → amount * order < 2 ^ 64 →
      decomposeLoop dustThreshold fuel amount order st =
        takeChunks dustThreshold (placeValues 10 order (Nat.digits 10 amount)) st
  | 0, amount, order, st, enough, _ => by
    rw [Nat.le_zero.mp enough]
    rfl
  | fuel + 1, amount, order, st, enough, word => by
    by_cases zero : amount = 0
    · subst zero
      simp [decomposeLoop, placeValues, takeChunks]
    · rw [Nat.digits_def' (by norm_num) (Nat.pos_of_ne_zero zero)]
      have chunkExact : amount % 10 * order % uint64Modulus = amount % 10 * order := by
        refine Nat.mod_eq_of_lt (lt_of_le_of_lt ?_ word)
        exact Nat.mul_le_mul_right _ (Nat.mod_le _ _)
      -- the next order wraps only when no round is left to read it
      have next : decomposeLoop dustThreshold fuel (amount / 10) (order * 10 % uint64Modulus) =
          decomposeLoop dustThreshold fuel (amount / 10) (order * 10) := by
        by_cases last : amount / 10 = 0
        · funext st'
          cases fuel <;> simp [decomposeLoop, last]
        · have : order * 10 < uint64Modulus := by
            have := Nat.mul_le_mul_right order (Nat.div_mul_le_self amount 10)
            rw [uint64Modulus]
            nlinarith [Nat.pos_of_ne_zero last]
          rw [Nat.mod_eq_of_lt this]
      have rest := decomposeLoop_eq dustThreshold fuel (amount / 10) (order * 10)
        (takeChunk dustThreshold st (amount % 10 * order)).2 (by omega)
        (by nlinarith [Nat.div_mul_le_self amount 10])
      simp only [decomposeLoop, if_neg zero, chunkExact, next, placeValues, takeChunks, rest]

/-! ### What the walk keeps -/

/-- Between two chunks, with `rest` the chunks to come and `total` the amount: the dust is within
the threshold; it has been handed over, once, exactly when `is_dust_handled`, and is then what
was handed over; once a chunk has not fitted, no chunk to come but zero fits; and the chunks handed
over, the dust and the chunks to come add up to the amount. -/
structure TakeInv (dustThreshold total : Nat) (calls : List HandlerCall) (st : DustState)
    (rest : List Nat) : Prop where
  dust_le : st.dust ≤ dustThreshold
  handled : st.isDustHandled = true → 0 < st.dust ∧ dustValues calls = [st.dust]
  unhandled : st.isDustHandled = false → dustValues calls = []
  blocked : calls ≠ [] → ∀ c ∈ rest, c ≠ 0 → dustThreshold < st.dust + c
  sum : (chunkValues calls).sum + st.dust + rest.sum = total

namespace TakeInv

variable {dustThreshold total : Nat} {calls : List HandlerCall} {st : DustState}

theorem start (chunks : List Nat) :
    TakeInv dustThreshold chunks.sum [] ⟨0, false⟩ chunks where
  dust_le := Nat.zero_le _
  handled h := absurd h (by decide)
  unhandled _ := rfl
  blocked h := absurd rfl h
  sum := by simp

/-- One chunk, when every nonzero chunk to come is at least as large. -/
theorem takeChunk {c : Nat} {rest : List Nat} (inv : TakeInv dustThreshold total calls st (c :: rest))
    (word : total < 2 ^ 64) (above : ∀ c' ∈ rest, c' ≠ 0 → c ≤ c') :
    TakeInv dustThreshold total (calls ++ (Basic.takeChunk dustThreshold st c).1)
      (Basic.takeChunk dustThreshold st c).2 rest := by
  have sum := inv.sum
  rw [List.sum_cons] at sum
  have noWrap : (st.dust + c) % uint64Modulus = st.dust + c :=
    Nat.mod_eq_of_lt (by rw [uint64Modulus]; omega)
  by_cases fits : st.dust + c ≤ dustThreshold
  · -- the chunk joins the dust; after a chunk that did not fit, it can only be zero
    rw [takeChunk_of_le (by rw [noWrap]; exact fits), noWrap, List.append_nil]
    have zero : calls ≠ [] → c = 0 := fun called => by
      by_contra nonzero
      exact absurd fits (Nat.not_le.mpr (inv.blocked called c List.mem_cons_self nonzero))
    have called : st.isDustHandled = true → calls ≠ [] := fun handled none => by
      have := (inv.handled handled).2
      rw [none] at this
      exact absurd this (by simp)
    refine ⟨fits, fun handled => ?_, inv.unhandled, fun called' c' hc' nonzero => ?_, ?_⟩
    · rw [zero (called handled), Nat.add_zero]
      exact inv.handled handled
    · rw [zero called', Nat.add_zero]
      exact inv.blocked called' c' (List.mem_cons_of_mem c hc') nonzero
    · dsimp only
      omega
  · -- the chunk is handed over, and the dust with it the first time it is not zero
    have exceeds : dustThreshold < st.dust + c := Nat.lt_of_not_le fits
    have nonzero : c ≠ 0 := by
      rintro rfl
      exact fits inv.dust_le
    rw [takeChunk_of_lt (by rw [noWrap]; exact exceeds)]
    have chunkOn : (c != 0) = true := by simpa using nonzero
    refine ⟨inv.dust_le, fun handled => ?_, fun unhandled => ?_, fun _ c' hc' nonzero' => ?_, ?_⟩
    · -- handled by now: before, or with this chunk
      simp only [Bool.or_eq_true, bne_iff_ne, ne_eq] at handled
      simp only [dustValues_append, dustValues_dustIf, dustValues_chunkIf, List.append_nil]
      cases hs : st.isDustHandled
      · have dust : st.dust ≠ 0 := by simpa [hs] using handled
        simp [dust, inv.unhandled hs, Nat.pos_of_ne_zero dust]
      · simp [inv.handled hs]
    · simp only [Bool.or_eq_false_iff, bne_eq_false_iff_eq] at unhandled
      simp [dustValues_append, unhandled.1, unhandled.2, inv.unhandled unhandled.1, nonzero]
    · have := above c' hc' nonzero'
      dsimp only
      omega
    · simp only [chunkValues_append, chunkValues_dustIf, chunkOn, if_true, chunkValues_chunk,
        List.nil_append, List.sum_append, List.sum_singleton]
      omega

/-- The whole walk, when the chunks that are not zero are above those before them. -/
theorem takeChunks (word : total < 2 ^ 64) :
    ∀ {rest : List Nat} {calls : List HandlerCall} {st : DustState},
      TakeInv dustThreshold total calls st rest →
      rest.Pairwise (fun c c' => c' ≠ 0 → c ≤ c') →
      TakeInv dustThreshold total (calls ++ (Basic.takeChunks dustThreshold rest st).1)
        (Basic.takeChunks dustThreshold rest st).2 []
  | [], calls, st, inv, _ => by simpa [Basic.takeChunks] using inv
  | c :: rest, calls, st, inv, sorted => by
    have step := inv.takeChunk word fun c' hc' => List.rel_of_pairwise_cons sorted hc'
    simpa [Basic.takeChunks, List.append_assoc] using takeChunks word step sorted.of_cons

/-- The dust call at the end: the dust is handed over once at most, within the threshold, and
nothing is lost. -/
theorem finish (inv : TakeInv dustThreshold total calls st []) :
    let calls' := calls ++ (if !st.isDustHandled && st.dust != 0 then [.dust st.dust] else [])
    (chunkValues calls').sum + (dustValues calls').sum = total ∧ (dustValues calls').length ≤ 1 ∧
      ∀ d ∈ dustValues calls', 0 < d ∧ d ≤ dustThreshold := by
  intro calls'
  have sum := inv.sum
  simp only [List.sum_nil, Nat.add_zero] at sum
  have chunks : chunkValues calls' = chunkValues calls := by simp [calls']
  cases hs : st.isDustHandled
  · -- the dust, if it is not zero, is handed over now
    have none := inv.unhandled hs
    by_cases dust : st.dust = 0
    · have out : dustValues calls' = [] := by simp [calls', hs, dust, none]
      rw [chunks, out]
      exact ⟨by simpa [dust] using sum, by simp, by simp⟩
    · have out : dustValues calls' = [st.dust] := by simp [calls', hs, dust, none]
      rw [chunks, out]
      exact ⟨by simpa using sum, by simp, by simpa using ⟨Nat.pos_of_ne_zero dust, inv.dust_le⟩⟩
  · obtain ⟨positive, once⟩ := inv.handled hs
    have out : dustValues calls' = [st.dust] := by simp [calls', hs, once]
    rw [chunks, out]
    exact ⟨by simpa using sum, by simp, by simpa using ⟨positive, inv.dust_le⟩⟩

end TakeInv

/-- Only chunks that are not zero are handed over, in the order they come. -/
theorem chunkValues_takeChunks_sublist (dustThreshold : Nat) :
    ∀ (chunks : List Nat) (st : DustState),
      (chunkValues (takeChunks dustThreshold chunks st).1).Sublist (chunks.filter (· != 0))
  | [], _ => List.Sublist.slnil
  | c :: chunks, st => by
    have step : (chunkValues (takeChunk dustThreshold st c).1).Sublist ([c].filter (· != 0)) := by
      by_cases fits : (st.dust + c) % uint64Modulus ≤ dustThreshold
      · rw [takeChunk_of_le fits]
        exact List.nil_sublist _
      · rw [takeChunk_of_lt (Nat.lt_of_not_le fits)]
        by_cases zero : c = 0 <;> simp [zero]
    rw [takeChunks, chunkValues_append, ← List.singleton_append, List.filter_append]
    exact step.append
      (chunkValues_takeChunks_sublist dustThreshold chunks (takeChunk dustThreshold st c).2)

/-- `decompose_amount_into_digits` splits a word without loss: the chunks and the dust add up to
the amount; the dust is handed over once at most, not zero and within the threshold; and the chunks
are digits from 1 to 9 times powers of ten, increasing. -/
theorem decomposeAmountIntoDigits_spec {amount : Nat} (word : amount < 2 ^ 64)
    (dustThreshold : Nat) :
    (chunkValues (decomposeAmountIntoDigits amount dustThreshold)).sum +
        (dustValues (decomposeAmountIntoDigits amount dustThreshold)).sum = amount ∧
      (dustValues (decomposeAmountIntoDigits amount dustThreshold)).length ≤ 1 ∧
      (∀ d ∈ dustValues (decomposeAmountIntoDigits amount dustThreshold),
        0 < d ∧ d ≤ dustThreshold) ∧
      (∀ c ∈ chunkValues (decomposeAmountIntoDigits amount dustThreshold),
        ∃ digit k, 1 ≤ digit ∧ digit ≤ 9 ∧ c = digit * 10 ^ k) ∧
      (chunkValues (decomposeAmountIntoDigits amount dustThreshold)).Pairwise (· < ·) := by
  by_cases zero : amount = 0
  · simp [decomposeAmountIntoDigits, zero]
  have digits : ∀ d ∈ Nat.digits 10 amount, d < 10 := fun d hd =>
    Nat.digits_lt_base (by norm_num) hd
  have total : (placeValues 10 1 (Nat.digits 10 amount)).sum = amount := by
    rw [sum_placeValues, Nat.ofDigits_digits, Nat.one_mul]
  have increasing := pairwise_placeValues Nat.one_pos digits
  -- the walk over the place values of the digits, with the dust call at the end
  have calls : decomposeAmountIntoDigits amount dustThreshold =
      let walk := takeChunks dustThreshold (placeValues 10 1 (Nat.digits 10 amount)) ⟨0, false⟩
      [] ++ walk.1 ++
        (if !walk.2.isDustHandled && walk.2.dust != 0 then [.dust walk.2.dust] else []) := by
    rw [decomposeAmountIntoDigits, if_neg zero,
      decomposeLoop_eq dustThreshold amount amount 1 _ le_rfl (by omega)]
    rfl
  have inv := (total ▸ @TakeInv.start dustThreshold
    (placeValues 10 1 (Nat.digits 10 amount))).takeChunks word
      (increasing.imp fun {c c'} (above : c' ≠ 0 → c < c') nonzero => (above nonzero).le)
  obtain ⟨sum, once, within⟩ := inv.finish
  have handed : (chunkValues (decomposeAmountIntoDigits amount dustThreshold)).Sublist
      ((placeValues 10 1 (Nat.digits 10 amount)).filter (· != 0)) := by
    rw [calls]
    simpa using chunkValues_takeChunks_sublist dustThreshold _ ⟨0, false⟩
  rw [calls]
  refine ⟨sum, once, within, fun c hc => ?_, ?_⟩
  · rw [← calls] at hc
    obtain ⟨mem, nonzero⟩ := List.mem_filter.mp (handed.subset hc)
    obtain ⟨d, hd, k, rfl⟩ := mem_placeValues mem
    have small := digits d hd
    have positive : d ≠ 0 := by
      rintro rfl
      simp at nonzero
    exact ⟨d, k, by omega, by omega, by ring⟩
  · rw [← calls]
    refine List.Pairwise.sublist handed ((increasing.filter _).imp_of_mem ?_)
    intro c c' _ hc' above
    exact above (by simpa using (List.mem_filter.mp hc').2)

/-- The test with the amount 8900100 and the threshold 1000: the dust 100, then the chunks 900000
and 8000000. -/
theorem decomposeAmountIntoDigits_spec_test6 :
    decomposeAmountIntoDigits 8900100 1000 = [.dust 100, .chunk 900000, .chunk 8000000] ∧
      (chunkValues (decomposeAmountIntoDigits 8900100 1000)).sum +
          (dustValues (decomposeAmountIntoDigits 8900100 1000)).sum = 8900100 :=
  ⟨by decide, (decomposeAmountIntoDigits_spec (by norm_num) 1000).1⟩

end Sumokoin.Basic
