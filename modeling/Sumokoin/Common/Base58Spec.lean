import Sumokoin.Common.Base58

/-! The base58 code of `tools::base58` read as positional notation. A block of `k` bytes is the
big-endian number `uint_8be_to_64` reads, below `256 ^ k`; its letters are the
`encoded_block_sizes[k]` digits of that number in base 58, and `256 ^ k ≤ 58 ^ encoded_block_sizes[k]`
is what makes the digits suffice. `decode_block`'s loop computes the same number back with 64-bit
words, and its two overflow tests refuse exactly the numbers that do not fit the decoded block.
Block by block, `encode` and `decode` are then inverse bijections between all byte strings and the
strings that `decode` accepts. -/

namespace Sumokoin.Tools.Base58

open Sumokoin.ProofKit

/-! ### The tables -/

/-- The digit of a letter, its place in the alphabet. -/
def letterDigit (letter : UInt8) : Nat := (reverseAlphabet letter).toNat

/-- The number that a block's letters spell in base 58, the first letter the most significant. -/
def blockValue (block : List UInt8) : Nat := ofDigitsBE alphabetSize (block.map letterDigit)

theorem reverseAlphabet_getD : ∀ d < alphabetSize, reverseAlphabet (alphabet.getD d 0) = d := by
  decide

theorem decodedBlockSizes_getD : ∀ k ≤ fullBlockSize, decodedBlockSizes (encodedBlockSizes.getD k 0) = k := by
  decide

theorem getD_encodedBlockSizes_lt : ∀ k < fullBlockSize, encodedBlockSizes.getD k 0 < fullEncodedBlockSize := by
  decide

theorem getD_encodedBlockSizes_le : ∀ k ≤ fullBlockSize, encodedBlockSizes.getD k 0 ≤ fullEncodedBlockSize := by
  decide

/-- The letters of a block are enough for its bytes. -/
theorem pow_le_pow_encodedBlockSizes :
    ∀ k ≤ fullBlockSize, 256 ^ k ≤ alphabetSize ^ encodedBlockSizes.getD k 0 := by
  decide

theorem reverseAlphabet_nonneg_iff (letter : UInt8) : 0 ≤ reverseAlphabet letter ↔ letter ∈ alphabet := by
  unfold reverseAlphabet
  split
  next i found => exact iff_of_true (Int.natCast_nonneg i) (List.isSome_idxOf?.mp (by rw [found]; rfl))
  next missing => exact iff_of_false (by decide) (List.idxOf?_eq_none_iff.mp missing)

theorem letterDigit_lt (letter : UInt8) : letterDigit letter < alphabetSize := by
  unfold letterDigit reverseAlphabet
  split
  next i found =>
    obtain ⟨bound, -⟩ := List.idxOf?_eq_some_iff.mp found
    exact bound
  next => decide

theorem getD_letterDigit {letter : UInt8} (member : letter ∈ alphabet) :
    alphabet.getD (letterDigit letter) 0 = letter := by
  obtain ⟨i, found⟩ := Option.isSome_iff_exists.mp (List.isSome_idxOf?.mpr member)
  obtain ⟨bound, at_i, -⟩ := List.idxOf?_eq_some_iff.mp found
  simp [letterDigit, reverseAlphabet, found, List.getD_eq_getElem?_getD, bound, at_i]

theorem letterDigit_getD {d : Nat} (small : d < alphabetSize) : letterDigit (alphabet.getD d 0) = d := by
  rw [letterDigit, reverseAlphabet_getD d small, Int.toNat_natCast]

theorem getD_mem_alphabet {d : Nat} (small : d < alphabetSize) : alphabet.getD d 0 ∈ alphabet := by
  have bound : d < alphabet.length := small
  rw [List.getD_eq_getElem?_getD, List.getElem?_eq_getElem bound, Option.getD_some]
  exact List.getElem_mem bound

theorem mem_alphabet_of_mem_map {digits : List Nat} (small : ∀ d ∈ digits, d < alphabetSize)
    {letter : UInt8} (member : letter ∈ digits.map fun d => alphabet.getD d 0) : letter ∈ alphabet := by
  obtain ⟨d, mem, rfl⟩ := List.mem_map.mp member
  exact getD_mem_alphabet (small d mem)

/-- Letters of the alphabet are the letters of their digits. -/
theorem map_getD_letterDigit {block : List UInt8} (valid : ∀ letter ∈ block, letter ∈ alphabet) :
    (block.map letterDigit).map (fun d => alphabet.getD d 0) = block := by
  rw [List.map_map]
  conv => rhs; rw [← List.map_id block]
  exact List.map_congr_left fun letter member => getD_letterDigit (valid letter member)

/-- The letters of digits spell the number of the digits. -/
theorem blockValue_map_getD {digits : List Nat} (small : ∀ d ∈ digits, d < alphabetSize) :
    blockValue (digits.map fun d => alphabet.getD d 0) = ofDigitsBE alphabetSize digits := by
  rw [blockValue, List.map_map]
  congr 1
  conv => rhs; rw [← List.map_id digits]
  exact List.map_congr_left fun d member => letterDigit_getD (small d member)

/-- A positive decoded size belongs to one of the table's sizes. -/
theorem encodedBlockSizes_of_pos {encodedBlockSize : Nat} (pos : 0 < decodedBlockSizes encodedBlockSize) :
    encodedBlockSizes.getD (decodedBlockSizes encodedBlockSize).toNat 0 = encodedBlockSize ∧
      1 ≤ (decodedBlockSizes encodedBlockSize).toNat ∧ (decodedBlockSizes encodedBlockSize).toNat ≤ fullBlockSize := by
  unfold decodedBlockSizes at pos ⊢
  split at pos
  next k found =>
    obtain ⟨bound, at_k, -⟩ := List.idxOf?_eq_some_iff.mp found
    have short : k < 9 := bound
    simp only [Int.toNat_natCast, List.getD_eq_getElem?_getD, List.getElem?_eq_getElem bound,
      Option.getD_some]
    exact ⟨at_k, by omega, Nat.lt_succ_iff.mp short⟩
  next => exact absurd pos (by decide)

theorem encodedBlockSizes_of_nonneg {encodedBlockSize : Nat} (nonneg : 0 ≤ decodedBlockSizes encodedBlockSize) :
    encodedBlockSizes.getD (decodedBlockSizes encodedBlockSize).toNat 0 = encodedBlockSize ∧
      (decodedBlockSizes encodedBlockSize).toNat ≤ fullBlockSize := by
  unfold decodedBlockSizes at nonneg ⊢
  split at nonneg
  next k found =>
    obtain ⟨bound, at_k, -⟩ := List.idxOf?_eq_some_iff.mp found
    have short : k < 9 := bound
    simp only [Int.toNat_natCast, List.getD_eq_getElem?_getD, List.getElem?_eq_getElem bound,
      Option.getD_some]
    exact ⟨at_k, Nat.lt_succ_iff.mp short⟩
  next => exact absurd nonneg (by decide)

/-! ### Bytes as big-endian numbers -/

theorem lt_of_mem_map_toNat (data : List UInt8) : ∀ d ∈ data.map UInt8.toNat, d < 256 := by
  intro d member
  obtain ⟨byte, -, rfl⟩ := List.mem_map.mp member
  exact UInt8.toNat_lt byte

theorem uint8beTo64_lt (data : List UInt8) : uint8beTo64 data < 256 ^ data.length := by
  simpa [uint8beTo64] using ofDigitsBE_lt (lt_of_mem_map_toNat data)

@[simp] theorem length_uint64To8be (num size : Nat) : (uint64To8be num size).length = size := by
  simp [uint64To8be]

theorem uint64To8be_uint8beTo64 (data : List UInt8) : uint64To8be (uint8beTo64 data) data.length = data := by
  have digits := toDigitsBE_ofDigitsBE (lt_of_mem_map_toNat data)
  rw [List.length_map] at digits
  rw [uint64To8be, uint8beTo64, digits, List.map_map]
  conv => rhs; rw [← List.map_id data]
  exact List.map_congr_left fun byte _ => UInt8.ofNat_toNat

theorem uint8beTo64_uint64To8be {num size : Nat} (small : num < 256 ^ size) :
    uint8beTo64 (uint64To8be num size) = num := by
  have bytes : (toDigitsBE 256 size num).map (fun d => d.toUInt8.toNat) = toDigitsBE 256 size num := by
    conv => rhs; rw [← List.map_id (toDigitsBE 256 size num)]
    refine List.map_congr_left fun d member => ?_
    have digit := lt_of_mem_toDigitsBE (by decide) member
    simp [Nat.mod_eq_of_lt digit]
  rw [uint8beTo64, uint64To8be, List.map_map]
  change ofDigitsBE 256 ((toDigitsBE 256 size num).map fun d => d.toUInt8.toNat) = num
  rw [bytes, ofDigitsBE_toDigitsBE, Nat.mod_eq_of_lt small]

/-! ### `decode_block` -/

/-- The overflow test of `decode_block`'s loop: the sum wraps, or the product has a high word,
exactly when the exact sum reaches `2 ^ 64`. -/
theorem overflow_iff {resNum product : Nat} (small : resNum < 2 ^ 64) :
    ((resNum + product % 2 ^ 64) % 2 ^ 64 < resNum ∨ product / 2 ^ 64 ≠ 0) ↔ 2 ^ 64 ≤ resNum + product := by
  simp only [Nat.reducePow] at small ⊢
  omega

theorem sum_of_not_overflow {resNum product : Nat} (fits : resNum + product < 2 ^ 64) :
    (resNum + product % 2 ^ 64) % 2 ^ 64 = resNum + product := by
  rw [Nat.mod_eq_of_lt (show product < 2 ^ 64 by omega), Nat.mod_eq_of_lt fits]

/-- The orders of the letters of a block are exact: `58 ^ 10 < 2 ^ 64`. -/
theorem order_lt {i : Nat} (short : i < fullEncodedBlockSize) : alphabetSize ^ i < 2 ^ 64 :=
  calc alphabetSize ^ i ≤ alphabetSize ^ 10 := Nat.pow_le_pow_right (by decide) (by
        simp only [fullEncodedBlockSize] at short
        omega)
    _ < 2 ^ 64 := by decide

/-- The loop of `decode_block` from the letter of order `58 ^ i`: it returns the exact sum when
every letter is in the alphabet and the sum stays below `2 ^ 64`, and refuses the block
otherwise. The orders are those of a block of at most `full_encoded_block_size` letters. -/
theorem decodeBlockLoop_eq (letters : List UInt8) (resNum i : Nat) (small : resNum < 2 ^ 64)
    (short : i + letters.length ≤ fullEncodedBlockSize) :
    decodeBlockLoop letters resNum (alphabetSize ^ i % 2 ^ 64) =
      if (∀ letter ∈ letters, letter ∈ alphabet) ∧
          resNum + alphabetSize ^ i * Nat.ofDigits alphabetSize (letters.map letterDigit) < 2 ^ 64
      then some (resNum + alphabetSize ^ i * Nat.ofDigits alphabetSize (letters.map letterDigit))
      else none := by
  induction letters generalizing resNum i with
  | nil => simpa [decodeBlockLoop] using small
  | cons letter rest ih =>
    rw [List.length_cons] at short
    have value : resNum + alphabetSize ^ i * Nat.ofDigits alphabetSize ((letter :: rest).map letterDigit) =
        resNum + alphabetSize ^ i * letterDigit letter +
          alphabetSize ^ (i + 1) * Nat.ofDigits alphabetSize (rest.map letterDigit) := by
      rw [List.map_cons, Nat.ofDigits_cons, pow_succ]
      ring
    rw [decodeBlockLoop, value]
    by_cases valid : letter ∈ alphabet
    · have nonneg : ¬ reverseAlphabet letter < 0 := not_lt.mpr ((reverseAlphabet_nonneg_iff letter).mpr valid)
      have order : alphabetSize ^ i % 2 ^ 64 = alphabetSize ^ i := Nat.mod_eq_of_lt (order_lt (by omega))
      have next : alphabetSize ^ i * alphabetSize % 2 ^ 64 = alphabetSize ^ (i + 1) % 2 ^ 64 := by
        rw [← pow_succ]
      have digit : (reverseAlphabet letter).toNat = letterDigit letter := rfl
      simp only [nonneg, if_false, order, next, digit]
      by_cases fits : resNum + alphabetSize ^ i * letterDigit letter < 2 ^ 64
      · -- the letter's term is added exactly, and the rest of the block reads on
        rw [if_neg ((overflow_iff small).not.mpr (by omega)), sum_of_not_overflow fits,
          ih _ _ fits (by omega)]
        simp [valid]
      · -- this letter already overflows, whatever the letters after it
        rw [if_pos ((overflow_iff small).mpr (by omega)), if_neg (by omega)]
    · have negative : reverseAlphabet letter < 0 := lt_of_not_ge (mt (reverseAlphabet_nonneg_iff letter).mp valid)
      simp [negative, valid]

/-- Digits read from the last letter back, as `decode_block` reads them, spell the block's value. -/
theorem ofDigits_reverse_eq_blockValue (block : List UInt8) :
    Nat.ofDigits alphabetSize (block.reverse.map letterDigit) = blockValue block := by
  rw [blockValue, ofDigitsBE_eq_ofDigits_reverse, List.map_reverse]

/-- The size test at the end of `decode_block`: a number below `2 ^ 64` fits `k` bytes unless the
block is short and the number reaches `2 ^ (8 * k)`, that is exactly when it is below `256 ^ k`. -/
theorem fits_iff (value k : Nat) (k_le : k ≤ fullBlockSize) :
    (value < 2 ^ 64 ∧ ¬ (k < fullBlockSize ∧ 2 ^ (8 * k) ≤ value)) ↔ value < 256 ^ k := by
  have bytes : (256 : Nat) ^ k = 2 ^ (8 * k) := by rw [pow_mul]; norm_num
  rw [bytes]
  by_cases short : k < fullBlockSize
  · have below : 2 ^ (8 * k) ≤ 2 ^ 64 :=
      Nat.pow_le_pow_right (by decide) (by simp only [fullBlockSize] at short; omega)
    constructor
    · rintro ⟨-, fits⟩
      exact lt_of_not_ge fun big => fits ⟨short, big⟩
    · intro fits
      exact ⟨lt_of_lt_of_le fits below, fun ⟨_, big⟩ => absurd big (not_le.mpr fits)⟩
  · have full : k = fullBlockSize := by omega
    subst full
    simp [fullBlockSize]

/-- `decode_block` of a block whose size has a decoded size `k`: the `k` bytes of the block's
value when every letter is in the alphabet and the value is below `256 ^ k`, and a refusal
otherwise. -/
theorem decodeBlock_eq (block : List UInt8) (sized : 0 < decodedBlockSizes block.length) :
    decodeBlock block =
      if (∀ letter ∈ block, letter ∈ alphabet) ∧
          blockValue block < 256 ^ (decodedBlockSizes block.length).toNat
      then some (uint64To8be (blockValue block) (decodedBlockSizes block.length).toNat) else none := by
  obtain ⟨length_eq, -, le_full⟩ := encodedBlockSizes_of_pos sized
  have short : 0 + block.reverse.length ≤ fullEncodedBlockSize := by
    rw [Nat.zero_add, List.length_reverse, ← length_eq]
    exact getD_encodedBlockSizes_le _ le_full
  have loop := decodeBlockLoop_eq block.reverse 0 0 (by decide) short
  have first : alphabetSize ^ 0 % 2 ^ 64 = 1 := by decide
  rw [first] at loop
  simp only [pow_zero, Nat.zero_add, Nat.one_mul, ofDigits_reverse_eq_blockValue,
    List.mem_reverse] at loop
  simp only [decodeBlock]
  rw [if_neg (not_le.mpr sized), loop]
  by_cases valid : ∀ letter ∈ block, letter ∈ alphabet
  · by_cases small : blockValue block < 2 ^ 64
    · have fits := fits_iff (blockValue block) _ le_full
      rw [if_pos ⟨valid, small⟩]
      dsimp only
      by_cases below : blockValue block < 256 ^ (decodedBlockSizes block.length).toNat
      · rw [if_neg fun big => (fits.mpr below).2 big, if_pos ⟨valid, below⟩]
      · rw [if_pos (by_contra fun fine => below (fits.mp ⟨small, fine⟩)), if_neg fun h => below h.2]
    · have above : ¬ blockValue block < 256 ^ (decodedBlockSizes block.length).toNat :=
        fun below => small ((fits_iff _ _ le_full).mpr below).1
      rw [if_neg fun h => small h.2, if_neg fun h => above h.2]
  · rw [if_neg fun h => valid h.1, if_neg fun h => valid h.1]

/-! ### `encode_block` -/

theorem encodeBlockLoop_zero (res : List UInt8) (i : Nat) : encodeBlockLoop res 0 i = res := by
  rw [encodeBlockLoop, if_neg (lt_irrefl 0)]

theorem set_replicate_append {α : Type} (i : Nat) (a x : α) (suffix : List α) :
    (List.replicate (i + 1) a ++ suffix).set i x = List.replicate i a ++ x :: suffix := by
  rw [List.replicate_succ', List.append_assoc, List.set_append_right _ _ (by simp)]
  simp

/-- The loop of `encode_block` over `i + 1` letters `1`: the base 58 digits of a number below
`58 ^ (i + 1)` are written from the right, and the letters left of them stay `1`, the letter of
the digit `0`. -/
theorem encodeBlockLoop_replicate (i num : Nat) (suffix : List UInt8) (small : num < alphabetSize ^ (i + 1)) :
    encodeBlockLoop (List.replicate (i + 1) (alphabet.getD 0 0) ++ suffix) num i =
      (toDigitsBE alphabetSize (i + 1) num).map (fun d => alphabet.getD d 0) ++ suffix := by
  induction i generalizing num suffix with
  | zero =>
    rcases Nat.eq_zero_or_pos num with rfl | pos
    · rw [encodeBlockLoop_zero, toDigitsBE_zero, List.map_replicate]
    · have single : num / alphabetSize = 0 := Nat.div_eq_of_lt (by simpa using small)
      rw [encodeBlockLoop, if_pos pos, set_replicate_append, single, encodeBlockLoop_zero]
      simp [toDigitsBE]
  | succ j ih =>
    rcases Nat.eq_zero_or_pos num with rfl | pos
    · rw [encodeBlockLoop_zero, toDigitsBE_zero, List.map_replicate]
    · have quotient : num / alphabetSize < alphabetSize ^ (j + 1) :=
        Nat.div_lt_of_lt_mul (by rw [← pow_succ']; exact small)
      rw [encodeBlockLoop, if_pos pos, set_replicate_append, Nat.add_sub_cancel, ih _ _ quotient]
      show _ = List.map _ (toDigitsBE alphabetSize (j + 1) (num / alphabetSize) ++ [num % alphabetSize]) ++ suffix
      rw [List.map_append, List.append_assoc]
      rfl

/-- `encode_block` writes the `encoded_block_sizes[k]` base 58 digits of the block's number. -/
theorem encodeBlock_eq (block : List UInt8) (short : block.length ≤ fullBlockSize) :
    encodeBlock block =
      (toDigitsBE alphabetSize (encodedBlockSizes.getD block.length 0) (uint8beTo64 block)).map
        fun d => alphabet.getD d 0 := by
  have small : uint8beTo64 block < alphabetSize ^ encodedBlockSizes.getD block.length 0 :=
    lt_of_lt_of_le (uint8beTo64_lt block) (pow_le_pow_encodedBlockSizes _ short)
  simp only [encodeBlock]
  generalize encodedBlockSizes.getD block.length 0 = n at small ⊢
  cases n with
  | zero =>
    have zero : uint8beTo64 block = 0 := by simpa using small
    rw [zero, encodeBlockLoop_zero]
    rfl
  | succ n => simpa using encodeBlockLoop_replicate n _ [] small

theorem mem_alphabet_of_mem_encodeBlock {block : List UInt8} (short : block.length ≤ fullBlockSize)
    {letter : UInt8} (member : letter ∈ encodeBlock block) : letter ∈ alphabet := by
  rw [encodeBlock_eq block short] at member
  exact mem_alphabet_of_mem_map (fun d mem => lt_of_mem_toDigitsBE (by decide) mem) member

@[simp] theorem length_encodeBlock (block : List UInt8) (short : block.length ≤ fullBlockSize) :
    (encodeBlock block).length = encodedBlockSizes.getD block.length 0 := by
  simp [encodeBlock_eq block short]

/-! ### Blocks -/

/-- A block of one to eight bytes is read back from its letters. -/
theorem decodeBlock_encodeBlock (block : List UInt8) (nonempty : block ≠ [])
    (short : block.length ≤ fullBlockSize) : decodeBlock (encodeBlock block) = some block := by
  have small : uint8beTo64 block < alphabetSize ^ encodedBlockSizes.getD block.length 0 :=
    lt_of_lt_of_le (uint8beTo64_lt block) (pow_le_pow_encodedBlockSizes _ short)
  have digits := encodeBlock_eq block short
  have sized : decodedBlockSizes (encodeBlock block).length = block.length := by
    rw [length_encodeBlock block short]
    exact decodedBlockSizes_getD _ short
  have valid : ∀ letter ∈ encodeBlock block, letter ∈ alphabet :=
    fun _ member => mem_alphabet_of_mem_encodeBlock short member
  have value : blockValue (encodeBlock block) = uint8beTo64 block := by
    rw [digits, blockValue_map_getD (fun d mem => lt_of_mem_toDigitsBE (by decide) mem),
      ofDigitsBE_toDigitsBE, Nat.mod_eq_of_lt small]
  have pos : 0 < decodedBlockSizes (encodeBlock block).length := by
    rw [sized]
    exact_mod_cast List.length_pos_iff.mpr nonempty
  rw [decodeBlock_eq _ pos, sized, Int.toNat_natCast, value,
    if_pos ⟨valid, uint8beTo64_lt block⟩, uint64To8be_uint8beTo64]

theorem decodedBlockSizes_pos_of_decodeBlock {block bytes : List UInt8} (decoded : decodeBlock block = some bytes) :
    0 < decodedBlockSizes block.length := by
  by_contra refused
  simp [decodeBlock, not_lt.mp refused] at decoded

/-- A block that `decode_block` accepts is the letters `encode_block` writes for its bytes. -/
theorem encodeBlock_of_decodeBlock {block bytes : List UInt8} (decoded : decodeBlock block = some bytes) :
    bytes.length = (decodedBlockSizes block.length).toNat ∧ encodeBlock bytes = block := by
  have sized := decodedBlockSizes_pos_of_decodeBlock decoded
  obtain ⟨length_eq, -, le_full⟩ := encodedBlockSizes_of_pos sized
  rw [decodeBlock_eq block sized] at decoded
  split_ifs at decoded with accepted
  obtain ⟨valid, fits⟩ := accepted
  cases decoded
  refine ⟨length_uint64To8be _ _, ?_⟩
  have letters := toDigitsBE_ofDigitsBE (fun d mem => (List.mem_map.mp mem).elim fun l ⟨_, eq⟩ => eq ▸ letterDigit_lt l :
    ∀ d ∈ block.map letterDigit, d < alphabetSize)
  rw [List.length_map] at letters
  rw [encodeBlock_eq _ (by rw [length_uint64To8be]; exact le_full), length_uint64To8be, length_eq,
    uint8beTo64_uint64To8be fits, blockValue, letters, map_getD_letterDigit valid]

theorem length_encodeBlock_full (block : List UInt8) (full : block.length = fullBlockSize) :
    (encodeBlock block).length = fullEncodedBlockSize := by
  rw [length_encodeBlock block full.le, full]
  rfl

theorem length_decodeBlock_full {block bytes : List UInt8} (decoded : decodeBlock block = some bytes)
    (full : block.length = fullEncodedBlockSize) : bytes.length = fullBlockSize := by
  rw [(encodeBlock_of_decodeBlock decoded).1, full]
  rfl

/-! ### Full blocks -/

/-- The full blocks of a string are read back from their letters, whatever follows them. -/
theorem decodeFullBlocks_encodeFullBlocks (n : Nat) (data rest : List UInt8)
    (long : n * fullBlockSize ≤ data.length) :
    decodeFullBlocks n (encodeFullBlocks n data ++ rest) = some (data.take (n * fullBlockSize)) := by
  induction n generalizing data with
  | zero => simp [decodeFullBlocks]
  | succ n ih =>
    have succ_mul : (n + 1) * fullBlockSize = fullBlockSize + n * fullBlockSize := by ring
    rw [succ_mul] at long ⊢
    have full : (data.take fullBlockSize).length = fullBlockSize := by simp; omega
    have letters := length_encodeBlock_full _ full
    have nonempty : data.take fullBlockSize ≠ [] := List.ne_nil_of_length_pos (by rw [full]; decide)
    rw [encodeFullBlocks, decodeFullBlocks, List.append_assoc, List.take_left' letters,
      List.drop_left' letters, decodeBlock_encodeBlock _ nonempty full.le]
    dsimp only
    rw [ih _ (by simp; omega), Option.map_some, List.take_add]

/-- Full blocks that `decode` accepts are the letters `encode` writes for their bytes. -/
theorem encodeFullBlocks_of_decodeFullBlocks {n : Nat} {enc blocks : List UInt8}
    (decoded : decodeFullBlocks n enc = some blocks) (long : n * fullEncodedBlockSize ≤ enc.length) :
    blocks.length = n * fullBlockSize ∧
      ∀ rest, encodeFullBlocks n (blocks ++ rest) = enc.take (n * fullEncodedBlockSize) := by
  induction n generalizing enc blocks with
  | zero =>
    cases decoded
    exact ⟨rfl, fun _ => rfl⟩
  | succ n ih =>
    have succ_mul : (n + 1) * fullEncodedBlockSize = fullEncodedBlockSize + n * fullEncodedBlockSize := by ring
    rw [succ_mul] at long ⊢
    rw [decodeFullBlocks] at decoded
    split at decoded
    next => cases decoded
    next block first =>
      obtain ⟨bs, others, rfl⟩ := Option.map_eq_some_iff.mp decoded
      have full : (enc.take fullEncodedBlockSize).length = fullEncodedBlockSize := by simp; omega
      have bytes := length_decodeBlock_full first full
      have rebuilt := (encodeBlock_of_decodeBlock first).2
      obtain ⟨length_bs, rest_bs⟩ := ih others (by simp; omega)
      refine ⟨by rw [List.length_append, bytes, length_bs]; ring, fun rest => ?_⟩
      rw [encodeFullBlocks, List.append_assoc, List.take_left' bytes, List.drop_left' bytes, rebuilt,
        rest_bs, List.take_add]

theorem mem_alphabet_of_mem_encodeFullBlocks {n : Nat} {data : List UInt8} {letter : UInt8}
    (member : letter ∈ encodeFullBlocks n data) : letter ∈ alphabet := by
  induction n generalizing data with
  | zero => simp [encodeFullBlocks] at member
  | succ n ih =>
    rw [encodeFullBlocks, List.mem_append] at member
    rcases member with first | others
    · exact mem_alphabet_of_mem_encodeBlock (by simp) first
    · exact ih others

/-! ### Strings -/

theorem length_encodeFullBlocks (n : Nat) (data : List UInt8) (long : n * fullBlockSize ≤ data.length) :
    (encodeFullBlocks n data).length = n * fullEncodedBlockSize := by
  induction n generalizing data with
  | zero => rfl
  | succ n ih =>
    have succ_mul : (n + 1) * fullBlockSize = fullBlockSize + n * fullBlockSize := by ring
    rw [succ_mul] at long
    rw [encodeFullBlocks, List.length_append, length_encodeBlock_full _ (by simp; omega),
      ih _ (by simp; omega)]
    ring

/-- The sizes `decode` derives from the length of a string of `q` full blocks and a last block of
`k < 8` bytes, which has `11 q + encoded_block_sizes[k]` letters. -/
theorem encoded_length_div_mod (q k : Nat) (short : k < fullBlockSize) :
    (q * fullEncodedBlockSize + encodedBlockSizes.getD k 0) / fullEncodedBlockSize = q ∧
      (q * fullEncodedBlockSize + encodedBlockSizes.getD k 0) % fullEncodedBlockSize =
        encodedBlockSizes.getD k 0 := by
  have letters := getD_encodedBlockSizes_lt k short
  simp only [fullEncodedBlockSize] at letters ⊢
  omega

theorem le_getD_encodedBlockSizes : ∀ k ≤ fullBlockSize, k ≤ encodedBlockSizes.getD k 0 := by
  decide

/-- `decode` reads back every byte string that `encode` writes. -/
theorem decode_encode (data : List UInt8) : decode (encode data) = some data := by
  by_cases empty : data = []
  · subst empty
    rfl
  · have short : data.length % fullBlockSize < fullBlockSize := Nat.mod_lt _ (by decide)
    have long : data.length / fullBlockSize * fullBlockSize ≤ data.length := Nat.div_mul_le_self _ _
    set q := data.length / fullBlockSize
    set k := data.length % fullBlockSize
    have split_length : data.length = q * fullBlockSize + k := (Nat.div_add_mod' _ _).symm
    -- the letters of the last block, if there is one
    set last := if 0 < k then encodeBlock (data.drop (q * fullBlockSize)) else []
    have length_drop : (data.drop (q * fullBlockSize)).length = k := by simp; omega
    have length_last : last.length = encodedBlockSizes.getD k 0 := by
      by_cases pos : 0 < k
      · simp only [last, if_pos pos]
        rw [length_encodeBlock _ (by omega), length_drop]
      · simp only [last, if_neg pos]
        rw [show k = 0 by omega]
        rfl
    have unfolded : encode data = encodeFullBlocks q data ++ last := by
      simp [encode, empty, q, k, last]
    have length_enc : (encode data).length = q * fullEncodedBlockSize + encodedBlockSizes.getD k 0 := by
      rw [unfolded, List.length_append, length_encodeFullBlocks q data long, length_last]
    obtain ⟨div_eq, mod_eq⟩ := encoded_length_div_mod q k short
    have nonempty : ¬ (encode data).isEmpty := by
      have letters := le_getD_encodedBlockSizes k short.le
      have bytes := List.length_pos_iff.mpr empty
      rw [List.isEmpty_iff, ← List.length_eq_zero_iff, length_enc]
      simp only [fullEncodedBlockSize, fullBlockSize] at *
      omega
    have sized : decodedBlockSizes (encodedBlockSizes.getD k 0) = k := decodedBlockSizes_getD k short.le
    simp only [decode, if_neg nonempty, length_enc, div_eq, mod_eq, sized]
    rw [if_neg (by omega), unfolded, decodeFullBlocks_encodeFullBlocks q data last long]
    dsimp only
    by_cases pos : 0 < k
    · have letters : 0 < encodedBlockSizes.getD k 0 := lt_of_lt_of_le pos (le_getD_encodedBlockSizes k short.le)
      have nonempty_drop : data.drop (q * fullBlockSize) ≠ [] := List.ne_nil_of_length_pos (by omega)
      rw [if_pos letters, List.drop_left' (length_encodeFullBlocks q data long)]
      simp only [last, if_pos pos]
      rw [decodeBlock_encodeBlock _ nonempty_drop (by omega), Option.map_some, List.take_append_drop]
    · have zero : k = 0 := by omega
      rw [zero, if_neg (by decide), List.take_of_length_le (by omega)]

theorem encode_injective : Function.Injective encode := fun a b same =>
  Option.some.inj (by rw [← decode_encode a, same, decode_encode])

/-- `encode` of `q` full blocks of bytes and a last block of `k < 8` bytes. -/
theorem encode_append {blocks last : List UInt8} {q : Nat} (full : blocks.length = q * fullBlockSize)
    (short : last.length < fullBlockSize) (nonempty : blocks ++ last ≠ []) :
    encode (blocks ++ last) =
      encodeFullBlocks q (blocks ++ last) ++ if 0 < last.length then encodeBlock last else [] := by
  have bytes : (blocks ++ last).length = q * fullBlockSize + last.length := by
    rw [List.length_append, full]
  have div_eq : (q * fullBlockSize + last.length) / fullBlockSize = q := by
    simp only [fullBlockSize] at short ⊢
    omega
  have mod_eq : (q * fullBlockSize + last.length) % fullBlockSize = last.length := by
    simp only [fullBlockSize] at short ⊢
    omega
  simp only [encode, List.isEmpty_iff, nonempty, if_false, bytes, div_eq, mod_eq]
  rw [← full, List.drop_left' rfl]

/-- What `decode` has read when it accepts a nonempty string: a last block size in the table, the
full blocks, and the last block when there is one. -/
theorem decode_eq_some {enc data : List UInt8} (nonempty : enc ≠ []) (decoded : decode enc = some data) :
    0 ≤ decodedBlockSizes (enc.length % fullEncodedBlockSize) ∧
      ∃ blocks, decodeFullBlocks (enc.length / fullEncodedBlockSize) enc = some blocks ∧
        if 0 < enc.length % fullEncodedBlockSize then
          ∃ last, decodeBlock (enc.drop (enc.length / fullEncodedBlockSize * fullEncodedBlockSize)) = some last ∧
            data = blocks ++ last
        else data = blocks := by
  simp only [decode, List.isEmpty_iff, nonempty, if_false] at decoded
  by_cases invalid : decodedBlockSizes (enc.length % fullEncodedBlockSize) < 0
  · rw [if_pos invalid] at decoded
    cases decoded
  rw [if_neg invalid] at decoded
  refine ⟨not_lt.mp invalid, ?_⟩
  split at decoded
  next => cases decoded
  next blocks full =>
    refine ⟨blocks, full, ?_⟩
    split_ifs at decoded ⊢
    · obtain ⟨last, decoded_last, rfl⟩ := Option.map_eq_some_iff.mp decoded
      exact ⟨last, decoded_last, rfl⟩
    · exact (Option.some.inj decoded).symm

/-- A string that `decode` accepts is the string `encode` writes for the bytes it returns. -/
theorem encode_of_decode {enc data : List UInt8} (decoded : decode enc = some data) : encode data = enc := by
  by_cases empty : enc = []
  · subst empty
    cases decoded
    rfl
  · obtain ⟨valid, blocks, full_blocks, last_read⟩ := decode_eq_some empty decoded
    set q := enc.length / fullEncodedBlockSize
    set m := enc.length % fullEncodedBlockSize
    have split_length : enc.length = q * fullEncodedBlockSize + m := (Nat.div_add_mod' _ _).symm
    have short : m < fullEncodedBlockSize := Nat.mod_lt _ (by decide)
    obtain ⟨length_blocks, rebuild⟩ := encodeFullBlocks_of_decodeFullBlocks full_blocks (by omega)
    obtain ⟨table_eq, k_le⟩ := encodedBlockSizes_of_nonneg valid
    -- a last block of eight bytes would have eleven letters
    have k_short : (decodedBlockSizes m).toNat < fullBlockSize := by
      refine lt_of_le_of_ne k_le fun eight => ?_
      have eleven : encodedBlockSizes.getD fullBlockSize 0 = fullEncodedBlockSize := rfl
      rw [eight, eleven] at table_eq
      omega
    split_ifs at last_read with last_pos
    · obtain ⟨last, last_decoded, rfl⟩ := last_read
      obtain ⟨length_last, rebuilt⟩ := encodeBlock_of_decodeBlock last_decoded
      have length_drop : (enc.drop (q * fullEncodedBlockSize)).length = m := by simp; omega
      have pos := decodedBlockSizes_pos_of_decodeBlock last_decoded
      rw [length_drop] at length_last pos
      have bytes_pos : 0 < last.length := by omega
      rw [encode_append length_blocks (by omega) (List.append_ne_nil_of_right_ne_nil _
          (List.ne_nil_of_length_pos bytes_pos)), rebuild, if_pos bytes_pos, rebuilt,
        List.take_append_drop]
    · subst last_read
      have nonempty_blocks : data ++ [] ≠ [] := by
        rw [List.append_nil]
        refine List.ne_nil_of_length_pos ?_
        rw [length_blocks]
        have letters := List.length_pos_iff.mpr empty
        simp only [fullEncodedBlockSize, fullBlockSize] at *
        omega
      have encoded := encode_append length_blocks (by decide) nonempty_blocks
      have rebuilt := rebuild []
      rw [List.append_nil] at encoded rebuilt
      rw [encoded, rebuilt, List.length_nil, if_neg (lt_irrefl 0), List.append_nil,
        List.take_of_length_le (by omega)]

/-! ### Refusals -/

theorem mem_alphabet_of_mem_encode {data : List UInt8} {letter : UInt8} (member : letter ∈ encode data) :
    letter ∈ alphabet := by
  unfold encode at member
  split at member
  · simp at member
  · rw [List.mem_append] at member
    rcases member with full | last
    · exact mem_alphabet_of_mem_encodeFullBlocks full
    · split at last
      · have short : data.length % fullBlockSize < fullBlockSize := Nat.mod_lt _ (by decide)
        have split_length := Nat.div_add_mod' data.length fullBlockSize
        exact mem_alphabet_of_mem_encodeBlock (by simp; omega) last
      · simp at last

/-- The full blocks of a string as `decode` cuts them. -/
def fullBlocks : Nat → List UInt8 → List (List UInt8)
  | 0, _ => []
  | n + 1, enc => enc.take fullEncodedBlockSize :: fullBlocks n (enc.drop fullEncodedBlockSize)

/-- The blocks of letters that `decode` reads in a string: its full blocks, then the letters left
when there are any. -/
def encodedBlocks (enc : List UInt8) : List (List UInt8) :=
  let fullBlockCount := enc.length / fullEncodedBlockSize
  fullBlocks fullBlockCount enc ++
    if 0 < enc.length % fullEncodedBlockSize then [enc.drop (fullBlockCount * fullEncodedBlockSize)] else []

theorem decodeBlock_isSome_of_decodeFullBlocks {n : Nat} {enc blocks : List UInt8}
    (decoded : decodeFullBlocks n enc = some blocks) : ∀ block ∈ fullBlocks n enc, (decodeBlock block).isSome := by
  induction n generalizing enc blocks with
  | zero => simp [fullBlocks]
  | succ n ih =>
    rw [decodeFullBlocks] at decoded
    split at decoded
    next => cases decoded
    next block first =>
      obtain ⟨bs, others, rfl⟩ := Option.map_eq_some_iff.mp decoded
      intro b member
      rw [fullBlocks, List.mem_cons] at member
      rcases member with rfl | member
      · rw [first]
        rfl
      · exact ih others b member

/-- Every block of a string that `decode` accepts is accepted by `decode_block`. -/
theorem decodeBlock_isSome_of_decode {enc data : List UInt8} (decoded : decode enc = some data) :
    ∀ block ∈ encodedBlocks enc, (decodeBlock block).isSome := by
  by_cases empty : enc = []
  · subst empty
    simp [encodedBlocks, fullBlocks]
  obtain ⟨-, blocks, full, last_read⟩ := decode_eq_some empty decoded
  intro block member
  simp only [encodedBlocks, List.mem_append] at member
  rcases member with member | member
  · exact decodeBlock_isSome_of_decodeFullBlocks full block member
  · split_ifs at member last_read
    · obtain ⟨last, decoded_last, -⟩ := last_read
      rw [List.mem_singleton] at member
      rw [member, decoded_last]
      rfl
    · simp at member

theorem decodeBlock_of_not_fits {block : List UInt8}
    (big : 256 ^ (decodedBlockSizes block.length).toNat ≤ blockValue block) : decodeBlock block = none := by
  by_cases sized : 0 < decodedBlockSizes block.length
  · rw [decodeBlock_eq block sized, if_neg fun accepted => absurd accepted.2 (not_lt.mpr big)]
  · simp [decodeBlock, not_lt.mp sized]

theorem decode_of_invalid_length {enc : List UInt8}
    (invalid : decodedBlockSizes (enc.length % fullEncodedBlockSize) < 0) : decode enc = none := by
  cases decoded : decode enc with
  | none => rfl
  | some data =>
    have nonempty : enc ≠ [] := by
      rintro rfl
      exact absurd invalid (by decide)
    exact absurd (decode_eq_some nonempty decoded).1 (not_le.mpr invalid)

theorem decode_of_not_mem_alphabet {enc : List UInt8} {letter : UInt8} (member : letter ∈ enc)
    (outside : letter ∉ alphabet) : decode enc = none := by
  cases decoded : decode enc with
  | none => rfl
  | some data =>
    rw [← encode_of_decode decoded] at member
    exact absurd (mem_alphabet_of_mem_encode member) outside

theorem decode_of_not_fits {enc block : List UInt8} (member : block ∈ encodedBlocks enc)
    (big : 256 ^ (decodedBlockSizes block.length).toNat ≤ blockValue block) : decode enc = none := by
  cases decoded : decode enc with
  | none => rfl
  | some data =>
    have accepted := decodeBlock_isSome_of_decode decoded block member
    rw [decodeBlock_of_not_fits big] at accepted
    cases accepted

/-! ### The bijection -/

/-- `encode` and `decode` are inverse bijections between byte strings and the strings `decode`
accepts, and `decode` refuses a length whose last block has no size, a letter outside the
alphabet, and a block whose number does not fit its bytes. -/
theorem encode_decode_bijection :
    (∀ data, decode (encode data) = some data) ∧
      (∀ enc data, decode enc = some data → encode data = enc) ∧
      (∀ enc, decodedBlockSizes (enc.length % fullEncodedBlockSize) < 0 → decode enc = none) ∧
      (∀ enc, ∀ letter ∈ enc, letter ∉ alphabet → decode enc = none) ∧
      (∀ enc, ∀ block ∈ encodedBlocks enc,
        256 ^ (decodedBlockSizes block.length).toNat ≤ blockValue block → decode enc = none) :=
  ⟨decode_encode, fun _ _ => encode_of_decode, fun _ => decode_of_invalid_length,
    fun _ _ member outside => decode_of_not_mem_alphabet member outside,
    fun _ _ member big => decode_of_not_fits member big⟩

end Sumokoin.Tools.Base58
