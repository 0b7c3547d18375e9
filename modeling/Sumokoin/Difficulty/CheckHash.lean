import Mathlib
import Sumokoin.Epee.IntUtil

/-! The proof of work test of `cryptonote_basic/difficulty.cpp`. A hash passes at difficulty `d`
when the hash, read as a little-endian number of 256 bits, times `d` stays below `2 ^ 256`.
`check_hash_64` never forms that product: it multiplies the four words of the hash by a 64-bit
difficulty, drops the low word of the lowest product, and adds the other words column by column
with the carry tests `cadd` and `cadc`. `check_hash_128` forms the product in 512 bits, and
`check_hash` takes the first for the difficulties that fit in 64 bits. The `mul` of this file is
`mul128` on `x86_64` and a portable product of halves elsewhere; both are the exact product. -/

namespace Sumokoin.Difficulty

open Sumokoin.Epee

/-- The portable `mul(a, b, low, high)` used off `x86_64`, with `(low, high)` returned. -/
def mul (a b : Nat) : Nat × Nat :=
  let aLow := a &&& 0xFFFFFFFF
  let aHigh := a >>> 32
  let bLow := b &&& 0xFFFFFFFF
  let bHigh := b >>> 32
  let res := aLow * bLow % uint64Modulus
  let lowRes1 := res &&& 0xFFFFFFFF
  let carry := res >>> 32
  let res := (aHigh * bLow + carry) % uint64Modulus
  let highResHigh1 := res >>> 32
  let highResLow1 := res &&& 0xFFFFFFFF
  let res := aLow * bHigh % uint64Modulus
  let lowRes2 := res &&& 0xFFFFFFFF
  let carry := res >>> 32
  let res := (aHigh * bHigh + carry) % uint64Modulus
  let highResHigh2 := res >>> 32
  let highResLow2 := res &&& 0xFFFFFFFF
  let r := (highResLow1 + lowRes2) % uint64Modulus
  let carry := r >>> 32
  let low := (r <<< 32) % uint64Modulus ||| lowRes1
  let r := (highResHigh1 + highResLow2 + carry) % uint64Modulus
  let d3 := r &&& 0xFFFFFFFF
  let carry := r >>> 32
  let r := (highResHigh2 + carry) % uint64Modulus
  let high := d3 ||| (r <<< 32) % uint64Modulus
  (low, high)

/-- `cadd(a, b)`: the sum of two words wraps. -/
def cadd (a b : Nat) : Bool := (a + b) % uint64Modulus < a

/-- `cadc(a, b, c)`: the sum of two words and a carry wraps. -/
def cadc (a b : Nat) (c : Bool) : Bool :=
  (a + b) % uint64Modulus < a || (c && (a + b) % uint64Modulus = uint64Modulus - 1)

/-- `swap64le(((const uint64_t *)&hash)[i])`: the bytes `8 i` to `8 i + 7` of the hash as a
little-endian word. -/
def hashWord (hash : Vector UInt8 32) (i : Nat) : Nat :=
  Nat.ofDigits 256 (((hash.toList.drop (8 * i)).take 8).map UInt8.toNat)

/-- `check_hash_64(hash, difficulty)`. -/
def checkHash64 (hash : Vector UInt8 32) (difficulty : Nat) : Bool :=
  -- the highest word first: it fails for most hashes
  let (top, high) := mul (hashWord hash 3) difficulty
  if high ≠ 0 then false
  else
    let cur := (mul (hashWord hash 0) difficulty).2
    let (low, high) := mul (hashWord hash 1) difficulty
    let carry := cadd cur low
    let cur := high
    let (low, high) := mul (hashWord hash 2) difficulty
    let carry := cadc cur low carry
    let carry := cadc high top carry
    !carry

/-- `max256bit`, the largest `uint256_t`. -/
def max256bit : Nat := 2 ^ 256 - 1

/-- `max64bit`, the largest `uint64_t` as a `difficulty_type`. -/
def max64bit : Nat := 2 ^ 64 - 1

/-- `check_hash_128(hash, difficulty)` with `FORCE_FULL_128_BITS`: the four words shifted into a
`uint512_t`, and the product in 512 bits. -/
def checkHash128 (hash : Vector UInt8 32) (difficulty : Nat) : Bool :=
  let hashVal := (List.range 4).foldl (fun hashVal i => (hashVal <<< 64) ||| hashWord hash (3 - i)) 0
  decide (hashVal * difficulty % 2 ^ 512 ≤ max256bit)

/-- `check_hash(hash, difficulty)`. -/
def checkHash (hash : Vector UInt8 32) (difficulty : Nat) : Bool :=
  if difficulty ≤ max64bit then checkHash64 hash difficulty else checkHash128 hash difficulty

/-- The hash as the little-endian number of 256 bits that the proof of work bounds. -/
def hashValue (hash : Vector UInt8 32) : Nat := Nat.ofDigits 256 (hash.toList.map UInt8.toNat)

/-! ### Words -/

theorem and_low_eq (val : Nat) : val &&& 0xFFFFFFFF = val % 2 ^ 32 :=
  Nat.and_two_pow_sub_one_eq_mod val 32

/-- The portable `mul` is the exact product too. -/
theorem mul_eq {x y : Nat} (hx : x < 2 ^ 64) (hy : y < 2 ^ 64) :
    mul x y = (x * y % 2 ^ 64, x * y / 2 ^ 64) := by
  have product := product_halves x y
  obtain ⟨hac, had, hbc, hbd⟩ := halves_mul_le hx hy
  simp only [mul, and_low_eq, uint64Modulus, Nat.shiftRight_eq_div_pow]
  rw [shiftLeft_mod_or_eq _ _ (Nat.mod_lt _ (by decide)), Nat.or_comm,
    shiftLeft_mod_or_eq _ _ (Nat.mod_lt _ (by decide))]
  generalize x / 2 ^ 32 * (y / 2 ^ 32) = ac at *
  generalize x / 2 ^ 32 * (y % 2 ^ 32) = ad at *
  generalize x % 2 ^ 32 * (y / 2 ^ 32) = bc at *
  generalize x % 2 ^ 32 * (y % 2 ^ 32) = bd at *
  generalize x * y = xy at *
  simp only [Nat.reducePow] at *
  simp only [Prod.mk.injEq]
  constructor <;> omega

theorem mul_eq_mul128 {x y : Nat} (hx : x < 2 ^ 64) (hy : y < 2 ^ 64) : mul x y = mul128 x y := by
  rw [mul_eq hx hy, mul128_eq hx hy]

/-- The 128-bit helpers are exact: `mul128` and the portable `mul` give the two words of the
product of two words, and `div128_32` the quotient and the remainder of a double word by a nonzero
32-bit divisor. -/
theorem mul128_div128_32_exact :
    (∀ a b : Nat, a < 2 ^ 64 → b < 2 ^ 64 → (mul128 a b).2 * 2 ^ 64 + (mul128 a b).1 = a * b) ∧
    (∀ a b : Nat, a < 2 ^ 64 → b < 2 ^ 64 → mul a b = mul128 a b) ∧
    (∀ dh dl d : Nat, dh < 2 ^ 64 → dl < 2 ^ 64 → 0 < d → d < 2 ^ 32 →
      ((div128_32 dh dl d).2.1 * 2 ^ 64 + (div128_32 dh dl d).2.2) * d + (div128_32 dh dl d).1 =
        dh * 2 ^ 64 + dl ∧ (div128_32 dh dl d).1 < d) := by
  refine ⟨fun a b ha hb => ?_, fun a b ha hb => mul_eq_mul128 ha hb,
    fun dh dl d hh hl positive hd => div128_32_eq hh hl positive hd⟩
  rw [mul128_eq ha hb]
  exact Nat.div_add_mod' (a * b) (2 ^ 64)

/-- The largest operands: both words of all ones, and the double word of all ones by the largest
32-bit divisor. -/
theorem mul128_div128_32_exact_allOnes :
    (mul128 (2 ^ 64 - 1) (2 ^ 64 - 1)).2 * 2 ^ 64 + (mul128 (2 ^ 64 - 1) (2 ^ 64 - 1)).1 =
        (2 ^ 64 - 1) * (2 ^ 64 - 1) ∧
      mul (2 ^ 64 - 1) (2 ^ 64 - 1) = mul128 (2 ^ 64 - 1) (2 ^ 64 - 1) ∧
      ((div128_32 (2 ^ 64 - 1) (2 ^ 64 - 1) (2 ^ 32 - 1)).2.1 * 2 ^ 64 +
          (div128_32 (2 ^ 64 - 1) (2 ^ 64 - 1) (2 ^ 32 - 1)).2.2) * (2 ^ 32 - 1) +
          (div128_32 (2 ^ 64 - 1) (2 ^ 64 - 1) (2 ^ 32 - 1)).1 =
        (2 ^ 64 - 1) * 2 ^ 64 + (2 ^ 64 - 1) ∧
      (div128_32 (2 ^ 64 - 1) (2 ^ 64 - 1) (2 ^ 32 - 1)).1 < 2 ^ 32 - 1 :=
  ⟨mul128_div128_32_exact.1 _ _ (by norm_num) (by norm_num),
    mul128_div128_32_exact.2.1 _ _ (by norm_num) (by norm_num),
    mul128_div128_32_exact.2.2 _ _ _ (by norm_num) (by norm_num) (by norm_num) (by norm_num)⟩

/-- `cadd` is the carry out of the sum of two words. -/
theorem cadd_eq {a b : Nat} (ha : a < 2 ^ 64) (hb : b < 2 ^ 64) : cadd a b = decide (2 ^ 64 ≤ a + b) := by
  rw [Bool.eq_iff_iff, cadd, decide_eq_true_iff, decide_eq_true_iff, uint64Modulus]
  simp only [Nat.reducePow] at *
  omega

/-- `cadc` is the carry out of the sum of two words and a carry: the sum wraps, or it is the
largest word and the carry comes in. -/
theorem cadc_eq {a b : Nat} (ha : a < 2 ^ 64) (hb : b < 2 ^ 64) (c : Bool) :
    cadc a b c = decide (2 ^ 64 ≤ a + b + c.toNat) := by
  rw [Bool.eq_iff_iff, cadc, Bool.or_eq_true, decide_eq_true_iff, Bool.and_eq_true, decide_eq_true_iff,
    decide_eq_true_iff, uint64Modulus]
  simp only [Nat.reducePow] at *
  cases c <;> simp <;> omega

theorem hashWord_lt (hash : Vector UInt8 32) (i : Nat) : hashWord hash i < 2 ^ 64 := by
  have bytes : ∀ d ∈ ((hash.toList.drop (8 * i)).take 8).map UInt8.toNat, d < 256 := by
    intro d member
    obtain ⟨byte, -, rfl⟩ := List.mem_map.mp member
    exact UInt8.toNat_lt byte
  calc hashWord hash i < 256 ^ (((hash.toList.drop (8 * i)).take 8).map UInt8.toNat).length :=
        Nat.ofDigits_lt_base_pow_length (by decide) bytes
    _ ≤ 256 ^ 8 := Nat.pow_le_pow_right (by decide) (by simp)
    _ = 2 ^ 64 := by norm_num

/-- The digits of a number in two parts: the first `n` and the rest. -/
theorem ofDigits_take_drop (b n : Nat) (l : List Nat) (h : n ≤ l.length) :
    Nat.ofDigits b l = Nat.ofDigits b (l.take n) + b ^ n * Nat.ofDigits b (l.drop n) := by
  conv_lhs => rw [← List.take_append_drop n l]
  rw [Nat.ofDigits_append, List.length_take, min_eq_left h]

/-- The hash is its four words, lowest first. -/
theorem hashValue_eq_words (hash : Vector UInt8 32) :
    hashValue hash = hashWord hash 0 + hashWord hash 1 * 2 ^ 64 + hashWord hash 2 * 2 ^ 128 +
      hashWord hash 3 * 2 ^ 192 := by
  have length : (hash.toList.map UInt8.toNat).length = 32 := by simp
  have word : ∀ i, hashWord hash i = Nat.ofDigits 256 (((hash.toList.map UInt8.toNat).drop (8 * i)).take 8) := by
    intro i
    rw [hashWord, List.map_take, List.map_drop]
  -- cut the bytes after the first, second and third word
  have cut : ∀ i, i < 3 → Nat.ofDigits 256 ((hash.toList.map UInt8.toNat).drop (8 * i)) =
      hashWord hash i + 2 ^ 64 * Nat.ofDigits 256 ((hash.toList.map UInt8.toNat).drop (8 * (i + 1))) := by
    intro i hi
    rw [ofDigits_take_drop 256 8 _ (by simp; omega), List.drop_drop, word i,
      show (256 : Nat) ^ 8 = 2 ^ 64 by norm_num]
    congr 3
  have last : Nat.ofDigits 256 ((hash.toList.map UInt8.toNat).drop (8 * 3)) = hashWord hash 3 := by
    rw [word 3, List.take_of_length_le (by simp)]
  have first := cut 0 (by decide)
  rw [Nat.mul_zero, List.drop_zero] at first
  rw [hashValue, first, cut 1 (by decide), cut 2 (by decide), last]
  ring

/-! ### The carries of `check_hash_64` -/

/-- A carry bit is the quotient of a sum below two words by a word. -/
theorem toNat_decide_le {x : Nat} (small : x < 2 * 2 ^ 64) : (decide (2 ^ 64 ≤ x)).toNat = x / 2 ^ 64 := by
  by_cases carry : 2 ^ 64 ≤ x
  · rw [decide_eq_true carry, Bool.toNat_true]
    omega
  · rw [decide_eq_false carry, Bool.toNat_false]
    omega

/-- The columns of a sum of four double words `p i * 2 ^ (64 i)`, the lower two below `2 ^ 128`
and the top one a single word: the sum reaches `2 ^ 256` exactly when the carry out of the top column is set, the
lowest word taking no part. -/
theorem carry_chain {p0 p1 p2 p3 : Nat} (h0 : p0 < 2 ^ 128) (h1 : p1 < 2 ^ 128) (h3 : p3 < 2 ^ 64) :
    decide (2 ^ 64 ≤ p2 / 2 ^ 64 + p3 % 2 ^ 64 +
        (decide (2 ^ 64 ≤ p1 / 2 ^ 64 + p2 % 2 ^ 64 + (decide (2 ^ 64 ≤ p0 / 2 ^ 64 + p1 % 2 ^ 64)).toNat)).toNat) =
      decide (2 ^ 256 ≤ p0 + p1 * 2 ^ 64 + p2 * 2 ^ 128 + p3 * 2 ^ 192) := by
  -- the carries out of the second and the third column
  rw [toNat_decide_le (x := p0 / 2 ^ 64 + p1 % 2 ^ 64) (by omega), toNat_decide_le (by omega),
    Bool.eq_iff_iff, decide_eq_true_iff, decide_eq_true_iff]
  omega

/-! ### The two paths -/

theorem mul_lt_of_words {x y : Nat} (hx : x < 2 ^ 64) (hy : y < 2 ^ 64) : x * y < 2 ^ 128 :=
  calc x * y < 2 ^ 64 * 2 ^ 64 := Nat.mul_lt_mul'' hx hy
    _ = 2 ^ 128 := by norm_num

/-- `check_hash_64` passes exactly the hashes whose product with the difficulty is below
`2 ^ 256`. -/
theorem checkHash64_eq (hash : Vector UInt8 32) {difficulty : Nat} (hd : difficulty < 2 ^ 64) :
    checkHash64 hash difficulty = decide (hashValue hash * difficulty < 2 ^ 256) := by
  have h0 := mul_lt_of_words (hashWord_lt hash 0) hd
  have h1 := mul_lt_of_words (hashWord_lt hash 1) hd
  have h2 := mul_lt_of_words (hashWord_lt hash 2) hd
  have h3 := mul_lt_of_words (hashWord_lt hash 3) hd
  have value : hashValue hash * difficulty = hashWord hash 0 * difficulty +
      hashWord hash 1 * difficulty * 2 ^ 64 + hashWord hash 2 * difficulty * 2 ^ 128 +
      hashWord hash 3 * difficulty * 2 ^ 192 := by
    rw [hashValue_eq_words]
    ring
  simp only [checkHash64, mul_eq (hashWord_lt hash 0) hd, mul_eq (hashWord_lt hash 1) hd,
    mul_eq (hashWord_lt hash 2) hd, mul_eq (hashWord_lt hash 3) hd]
  rw [value]
  generalize hashWord hash 0 * difficulty = p0 at *
  generalize hashWord hash 1 * difficulty = p1 at *
  generalize hashWord hash 2 * difficulty = p2 at *
  generalize hashWord hash 3 * difficulty = p3 at *
  by_cases high : p3 / 2 ^ 64 = 0
  · -- the top product is one word: the carries of the other columns decide
    have top : p3 < 2 ^ 64 := by omega
    rw [if_neg (not_not.mpr high), cadd_eq (by omega) (by omega), cadc_eq (by omega) (by omega),
      cadc_eq (by omega) (by omega), carry_chain h0 h1 top, Bool.not_eq_eq_eq_not,
      Bool.eq_iff_iff, decide_eq_true_iff, Bool.not_eq_true', decide_eq_false_iff_not]
    omega
  · -- the top product alone reaches `2 ^ 256`
    rw [if_pos high]
    symm
    rw [decide_eq_false_iff_not]
    omega

/-- `check_hash_128` passes exactly the same hashes: the hash fits in 256 bits, so the product
with a difficulty below `2 ^ 256` does not wrap in 512 bits. -/
theorem checkHash128_eq (hash : Vector UInt8 32) {difficulty : Nat} (hd : difficulty < 2 ^ 256) :
    checkHash128 hash difficulty = decide (hashValue hash * difficulty < 2 ^ 256) := by
  have shift : ∀ v i, v <<< 64 ||| hashWord hash i = v * 2 ^ 64 + hashWord hash i := fun v i => by
    rw [← Nat.shiftLeft_add_eq_or_of_lt (hashWord_lt hash i), Nat.shiftLeft_eq]
  have hashVal : ((List.range 4).foldl (fun hashVal i => (hashVal <<< 64) ||| hashWord hash (3 - i)) 0) =
      hashValue hash := by
    rw [show List.range 4 = [0, 1, 2, 3] from rfl, hashValue_eq_words]
    simp only [List.foldl_cons, List.foldl_nil, Nat.reduceSub, shift]
    ring
  have value : hashValue hash < 2 ^ 256 := by
    have := hashWord_lt hash 0
    have := hashWord_lt hash 1
    have := hashWord_lt hash 2
    have := hashWord_lt hash 3
    rw [hashValue_eq_words]
    omega
  have product : hashValue hash * difficulty < 2 ^ 512 := by
    have bound := Nat.mul_lt_mul'' value hd
    simp only [← pow_add, Nat.reduceAdd] at bound
    exact bound
  simp only [checkHash128, hashVal, Nat.mod_eq_of_lt product, max256bit]
  rw [Bool.eq_iff_iff, decide_eq_true_iff, decide_eq_true_iff]
  omega

theorem checkHash_eq (hash : Vector UInt8 32) {difficulty : Nat} (hd : difficulty < 2 ^ 128) :
    checkHash hash difficulty = decide (hashValue hash * difficulty < 2 ^ 256) := by
  unfold checkHash
  split_ifs with small
  · exact checkHash64_eq hash (by simp only [max64bit] at small; omega)
  · exact checkHash128_eq hash (lt_trans hd (by norm_num))

/-- `check_hash` passes a hash at a difficulty below `2 ^ 128` exactly when the hash, as a
little-endian number, times the difficulty is below `2 ^ 256`; `check_hash_64` and
`check_hash_128` agree at every difficulty that fits in 64 bits. -/
theorem checkHash_iff :
    (∀ hash difficulty, difficulty < 2 ^ 128 →
      (checkHash hash difficulty = true ↔ hashValue hash * difficulty < 2 ^ 256)) ∧
    (∀ hash difficulty, difficulty < 2 ^ 64 → checkHash64 hash difficulty = checkHash128 hash difficulty) :=
  ⟨fun hash _ hd => by rw [checkHash_eq hash hd, decide_eq_true_iff],
    fun hash _ hd => by rw [checkHash64_eq hash hd, checkHash128_eq hash (lt_trans hd (by norm_num))]⟩

/-- The first case of the unit test: the hash `MKHASH(0, 1)`, all of whose bytes are `0xff`, at
the difficulty `1`. -/
theorem checkHash_iff_allOnes :
    (checkHash (Vector.replicate 32 255) 1 = true ↔ hashValue (Vector.replicate 32 255) * 1 < 2 ^ 256) ∧
      checkHash64 (Vector.replicate 32 255) 1 = checkHash128 (Vector.replicate 32 255) 1 :=
  ⟨checkHash_iff.1 _ 1 (by norm_num), checkHash_iff.2 _ 1 (by norm_num)⟩

end Sumokoin.Difficulty
