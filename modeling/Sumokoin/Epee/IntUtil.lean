import Mathlib
import Sumokoin.Config

/-! The word arithmetic of epee's `int-util.h`: the halves of a 64-bit word, `mul128`, which
multiplies two words through their 32-bit halves and returns the low and the high word of the
product, and `div128_64`, which divides a double word by a word in `uint128_t`. Each `uint64_t`
operation is written with its wrap modulo `2 ^ 64`. The four products of halves, as atoms, make
the exact product a linear sum, so that `omega` follows the carries of such code;
`product_halves` and `half_mul_le` are those facts. -/

namespace Sumokoin.Epee

/-- `hi_dword(val)`: `val >> 32`. -/
def hiDword (val : Nat) : Nat := val >>> 32

/-- `lo_dword(val)`: `val & 0xFFFFFFFF`. -/
def loDword (val : Nat) : Nat := val &&& 0xFFFFFFFF

/-- `mul128(multiplier, multiplicand, &product_hi)`: the low word of the product, and the high word
that it stores in `product_hi`. -/
def mul128 (multiplier multiplicand : Nat) : Nat × Nat :=
  let a := hiDword multiplier
  let b := loDword multiplier
  let c := hiDword multiplicand
  let d := loDword multiplicand
  let ac := a * c % uint64Modulus
  let ad := a * d % uint64Modulus
  let bc := b * c % uint64Modulus
  let bd := b * d % uint64Modulus
  let adbc := (ad + bc) % uint64Modulus
  let adbcCarry := if adbc < ad then 1 else 0
  let productLo := (bd + (adbc <<< 32) % uint64Modulus) % uint64Modulus
  let productLoCarry := if productLo < bd then 1 else 0
  let productHi := (ac + (adbc >>> 32) + (adbcCarry <<< 32) + productLoCarry) % uint64Modulus
  (productLo, productHi)

/-- `div128_64(dividend_hi, dividend_lo, divisor, &quotient_hi, &quotient_lo, ...)`: the high and
the low word of the quotient of the double word by the divisor. The remainders are left out: the
callers modelled here pass `NULL` for them. -/
def div128_64 (dividendHi dividendLo divisor : Nat) : Nat × Nat :=
  let dividend := (dividendHi <<< 64) % 2 ^ 128 ||| dividendLo
  let q := dividend / divisor
  ((q >>> 64) &&& 0xffffffffffffffff, q &&& 0xffffffffffffffff)

/-- `div_with_reminder(dividend, divisor, &remainder)`: the remainder so far put above the 32 bits
of the dividend, divided; the quotient and the new remainder, which is stored in 32 bits. -/
def divWithReminder (dividend divisor remainder : Nat) : Nat × Nat :=
  let dividend := dividend ||| (remainder <<< 32) % uint64Modulus
  (dividend / divisor, dividend % divisor % 2 ^ 32)

/-- `div128_32(dividend_hi, dividend_lo, divisor, &quotient_hi, &quotient_lo)`: long division of
the double word in base `2 ^ 32`, from the highest 32 bits down; the remainder it returns, and
the high and the low word of the quotient. -/
def div128_32 (dividendHi dividendLo divisor : Nat) : Nat × Nat × Nat :=
  let step3 := divWithReminder (hiDword dividendHi) divisor 0
  let step2 := divWithReminder (loDword dividendHi) divisor step3.2
  let step1 := divWithReminder (hiDword dividendLo) divisor step2.2
  let step0 := divWithReminder (loDword dividendLo) divisor step1.2
  let quotientHi := (step3.1 <<< 32) % uint64Modulus ||| step2.1
  let quotientLo := (step1.1 <<< 32) % uint64Modulus ||| step0.1
  (step0.2, quotientHi, quotientLo)

theorem hiDword_eq (val : Nat) : hiDword val = val / 2 ^ 32 := Nat.shiftRight_eq_div_pow val 32

theorem loDword_eq (val : Nat) : loDword val = val % 2 ^ 32 := Nat.and_two_pow_sub_one_eq_mod val 32

/-- The product of two words as the sum of the products of their halves. -/
theorem product_halves (x y : Nat) :
    x * y = x / 2 ^ 32 * (y / 2 ^ 32) * 2 ^ 64 +
      (x / 2 ^ 32 * (y % 2 ^ 32) + x % 2 ^ 32 * (y / 2 ^ 32)) * 2 ^ 32 + x % 2 ^ 32 * (y % 2 ^ 32) := by
  conv_lhs => rw [← Nat.div_add_mod x (2 ^ 32), ← Nat.div_add_mod y (2 ^ 32)]
  ring

theorem half_mul_le {u v : Nat} (hu : u < 2 ^ 32) (hv : v < 2 ^ 32) :
    u * v ≤ (2 ^ 32 - 1) * (2 ^ 32 - 1) :=
  Nat.mul_le_mul (by omega) (by omega)

/-- The halves of a word are below `2 ^ 32`, and so are the four products of halves of two words
below `(2 ^ 32 - 1) ^ 2`. -/
theorem halves_mul_le {x y : Nat} (hx : x < 2 ^ 64) (hy : y < 2 ^ 64) :
    x / 2 ^ 32 * (y / 2 ^ 32) ≤ (2 ^ 32 - 1) * (2 ^ 32 - 1) ∧
      x / 2 ^ 32 * (y % 2 ^ 32) ≤ (2 ^ 32 - 1) * (2 ^ 32 - 1) ∧
      x % 2 ^ 32 * (y / 2 ^ 32) ≤ (2 ^ 32 - 1) * (2 ^ 32 - 1) ∧
      x % 2 ^ 32 * (y % 2 ^ 32) ≤ (2 ^ 32 - 1) * (2 ^ 32 - 1) := by
  have hxh : x / 2 ^ 32 < 2 ^ 32 := by omega
  have hyh : y / 2 ^ 32 < 2 ^ 32 := by omega
  have hxl : x % 2 ^ 32 < 2 ^ 32 := Nat.mod_lt _ (by decide)
  have hyl : y % 2 ^ 32 < 2 ^ 32 := Nat.mod_lt _ (by decide)
  exact ⟨half_mul_le hxh hyh, half_mul_le hxh hyl, half_mul_le hxl hyh, half_mul_le hxl hyl⟩

/-- `mul128` returns the low and the high word of the exact product of two words. -/
theorem mul128_eq {x y : Nat} (hx : x < 2 ^ 64) (hy : y < 2 ^ 64) :
    mul128 x y = (x * y % 2 ^ 64, x * y / 2 ^ 64) := by
  have product := product_halves x y
  obtain ⟨hac, had, hbc, hbd⟩ := halves_mul_le hx hy
  simp only [mul128, hiDword_eq, loDword_eq, uint64Modulus, Nat.shiftLeft_eq, Nat.shiftRight_eq_div_pow]
  generalize x / 2 ^ 32 * (y / 2 ^ 32) = ac at *
  generalize x / 2 ^ 32 * (y % 2 ^ 32) = ad at *
  generalize x % 2 ^ 32 * (y / 2 ^ 32) = bc at *
  generalize x % 2 ^ 32 * (y % 2 ^ 32) = bd at *
  generalize x * y = xy at *
  simp only [Nat.reducePow] at *
  -- one case for each of the two carries, of the middle sum and of the low word
  split_ifs <;> simp only [Prod.mk.injEq] <;> omega

/-- `div128_64` returns the two words of the quotient of the double word `hi * 2 ^ 64 + lo`. -/
theorem div128_64_eq {hi lo : Nat} (hhi : hi < 2 ^ 64) (hlo : lo < 2 ^ 64) (divisor : Nat) :
    div128_64 hi lo divisor =
      ((hi * 2 ^ 64 + lo) / divisor / 2 ^ 64 % 2 ^ 64, (hi * 2 ^ 64 + lo) / divisor % 2 ^ 64) := by
  have shifted : (hi <<< 64) % 2 ^ 128 = hi <<< 64 := by
    rw [Nat.shiftLeft_eq]
    exact Nat.mod_eq_of_lt (by omega)
  have mask : (0xffffffffffffffff : Nat) = 2 ^ 64 - 1 := by norm_num
  simp only [div128_64]
  rw [shifted, ← Nat.shiftLeft_add_eq_or_of_lt hlo, Nat.shiftLeft_eq, mask,
    Nat.and_two_pow_sub_one_eq_mod, Nat.and_two_pow_sub_one_eq_mod, Nat.shiftRight_eq_div_pow]

/-- A product of two words in `mul128`, then `div128_64` by one divisor and the quotient by
another: the product over both divisors, when that is a word. -/
theorem div128_64_div128_64_mul128 {x y : Nat} (hx : x < 2 ^ 64) (hy : y < 2 ^ 64) (d₁ d₂ : Nat)
    (fits : x * y / (d₁ * d₂) < 2 ^ 64) :
    (div128_64 (div128_64 (mul128 x y).2 (mul128 x y).1 d₁).1
        (div128_64 (mul128 x y).2 (mul128 x y).1 d₁).2 d₂).2 = x * y / (d₁ * d₂) := by
  have product : x * y < 2 ^ 128 :=
    calc x * y < 2 ^ 64 * 2 ^ 64 := Nat.mul_lt_mul'' hx hy
      _ = 2 ^ 128 := by norm_num
  have first : x * y / d₁ < 2 ^ 128 := lt_of_le_of_lt (Nat.div_le_self _ _) product
  -- the high word of the first quotient is a word
  have high : x * y / d₁ / 2 ^ 64 % 2 ^ 64 = x * y / d₁ / 2 ^ 64 :=
    Nat.mod_eq_of_lt (Nat.div_lt_of_lt_mul (by rw [← pow_add]; exact first))
  rw [mul128_eq hx hy]
  dsimp only
  rw [div128_64_eq (by omega) (Nat.mod_lt _ (by decide)), Nat.div_add_mod' (x * y)]
  dsimp only
  rw [div128_64_eq (Nat.mod_lt _ (by decide)) (Nat.mod_lt _ (by decide)), high, Nat.div_add_mod']
  dsimp only
  rw [Nat.div_div_eq_div_mul, Nat.mod_eq_of_lt fits]

/-- A word shifted into the high half and a number below the half: `|||` adds them. -/
theorem shiftLeft_mod_or_eq (r u : Nat) (hu : u < 2 ^ 32) :
    (r <<< 32) % 2 ^ 64 ||| u = r % 2 ^ 32 * 2 ^ 32 + u := by
  have high : (r <<< 32) % 2 ^ 64 = (r % 2 ^ 32) <<< 32 := by
    rw [Nat.shiftLeft_eq, Nat.shiftLeft_eq, show (2 : Nat) ^ 64 = 2 ^ 32 * 2 ^ 32 by norm_num,
      Nat.mul_mod_mul_right]
  rw [high, ← Nat.shiftLeft_add_eq_or_of_lt hu, Nat.shiftLeft_eq]

/-- One step of the long division: with the remainder so far below the divisor, the quotient is a
32-bit digit and the step divides `remainder * 2 ^ 32 + dividend` exactly. -/
theorem divWithReminder_spec {dividend divisor remainder : Nat} (hdividend : dividend < 2 ^ 32)
    (hdivisor : divisor < 2 ^ 32) (hremainder : remainder < divisor) :
    (divWithReminder dividend divisor remainder).1 * divisor +
        (divWithReminder dividend divisor remainder).2 = remainder * 2 ^ 32 + dividend ∧
      (divWithReminder dividend divisor remainder).2 < divisor ∧
      (divWithReminder dividend divisor remainder).1 < 2 ^ 32 := by
  have joined : dividend ||| (remainder <<< 32) % uint64Modulus = remainder * 2 ^ 32 + dividend := by
    rw [Nat.or_comm, uint64Modulus, shiftLeft_mod_or_eq _ _ hdividend,
      Nat.mod_eq_of_lt (show remainder < 2 ^ 32 by omega)]
  have positive : 0 < divisor := by omega
  have small : (remainder * 2 ^ 32 + dividend) % divisor < 2 ^ 32 :=
    (Nat.mod_lt _ positive).trans hdivisor
  simp only [divWithReminder, joined, Nat.mod_eq_of_lt small]
  refine ⟨by rw [Nat.mul_comm]; exact Nat.div_add_mod _ _, Nat.mod_lt _ positive, ?_⟩
  -- the digit is below `2 ^ 32` because the remainder is below the divisor
  rw [Nat.div_lt_iff_lt_mul positive]
  calc remainder * 2 ^ 32 + dividend < (remainder + 1) * 2 ^ 32 := by omega
    _ ≤ divisor * 2 ^ 32 := Nat.mul_le_mul_right _ hremainder
    _ = 2 ^ 32 * divisor := Nat.mul_comm _ _

/-- `div128_32` divides the double word `hi * 2 ^ 64 + lo` by a nonzero 32-bit divisor: the two
words of the quotient and the remainder put it back together, and the remainder is below the
divisor. -/
theorem div128_32_eq {hi lo divisor : Nat} (hhi : hi < 2 ^ 64) (hlo : lo < 2 ^ 64)
    (positive : 0 < divisor) (hdivisor : divisor < 2 ^ 32) :
    ((div128_32 hi lo divisor).2.1 * 2 ^ 64 + (div128_32 hi lo divisor).2.2) * divisor +
        (div128_32 hi lo divisor).1 = hi * 2 ^ 64 + lo ∧
      (div128_32 hi lo divisor).1 < divisor := by
  have digit : ∀ {w : Nat}, w < 2 ^ 64 → w / 2 ^ 32 < 2 ^ 32 ∧ w % 2 ^ 32 < 2 ^ 32 :=
    fun hw => ⟨by omega, Nat.mod_lt _ (by decide)⟩
  obtain ⟨e3, r3, q3⟩ := divWithReminder_spec (digit hhi).1 hdivisor positive
  obtain ⟨e2, r2, q2⟩ := divWithReminder_spec (digit hhi).2 hdivisor r3
  obtain ⟨e1, r1, q1⟩ := divWithReminder_spec (digit hlo).1 hdivisor r2
  obtain ⟨e0, r0, q0⟩ := divWithReminder_spec (digit hlo).2 hdivisor r1
  simp only [div128_32, hiDword_eq, loDword_eq, uint64Modulus, shiftLeft_mod_or_eq _ _ q2,
    shiftLeft_mod_or_eq _ _ q0, Nat.mod_eq_of_lt q3, Nat.mod_eq_of_lt q1]
  refine ⟨?_, r0⟩
  generalize divWithReminder (hi / 2 ^ 32) divisor 0 = step3 at *
  generalize divWithReminder (hi % 2 ^ 32) divisor step3.2 = step2 at *
  generalize divWithReminder (lo / 2 ^ 32) divisor step2.2 = step1 at *
  generalize divWithReminder (lo % 2 ^ 32) divisor step1.2 = step0 at *
  -- each step's equation in the four products of a digit and the divisor
  have expand : ((step3.1 * 2 ^ 32 + step2.1) * 2 ^ 64 + (step1.1 * 2 ^ 32 + step0.1)) * divisor =
      step3.1 * divisor * 2 ^ 96 + step2.1 * divisor * 2 ^ 64 + step1.1 * divisor * 2 ^ 32 +
        step0.1 * divisor := by ring
  rw [expand]
  omega

end Sumokoin.Epee
