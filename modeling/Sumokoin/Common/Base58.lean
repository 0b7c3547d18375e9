import Mathlib
import Sumokoin.Common.Varint
import Sumokoin.ProofKit.Digits

/-! `tools::base58` of `common/base58.cpp`: byte strings in blocks of 8 bytes, each read as a
big-endian number and written with 11 letters of a 58-letter alphabet, and a last block of `k`
bytes written with `encoded_block_sizes[k]` letters. Strings of bytes stand for `std::string`s on
both sides. `decode` refuses a length whose last block has no size in the table, a letter outside
the alphabet, and a block whose number does not fit its bytes; with these refusals the two
functions are inverse bijections between byte strings and the strings that `decode` accepts.
`encode_addr` and `decode_addr` end the module: a varint tag, the data and a checksum of four bytes
of `cn_fast_hash`, which is a parameter here. -/

namespace Sumokoin.Tools.Base58

open Sumokoin.ProofKit

/-- `alphabet`, as the bytes of its letters. -/
def alphabet : List UInt8 :=
  "123456789ABCDEFGHJKLMNPQRSTUVWXYZabcdefghijkmnopqrstuvwxyz".toList.map fun c => c.toNat.toUInt8

/-- `alphabet_size`. -/
def alphabetSize : Nat := 58

/-- `encoded_block_sizes`: the letters of a block of `k` bytes, for `k` up to `full_block_size`. -/
def encodedBlockSizes : List Nat := [0, 2, 3, 5, 6, 7, 9, 10, 11]

/-- `full_block_size`. -/
def fullBlockSize : Nat := 8

/-- `full_encoded_block_size`. -/
def fullEncodedBlockSize : Nat := 11

/-- `reverse_alphabet`: the digit of a letter of the alphabet and `-1` for any other byte. The
constructor's table is indexed by `letter - alphabet[0]`; bytes outside its range read `-1` too. -/
def reverseAlphabet (letter : UInt8) : Int :=
  match alphabet.idxOf? letter with
  | some i => i
  | none => -1

/-- `decoded_block_sizes`: the bytes of a block of `encodedBlockSize` letters, `-1` for a size
that is not in `encoded_block_sizes`. -/
def decodedBlockSizes (encodedBlockSize : Nat) : Int :=
  match encodedBlockSizes.idxOf? encodedBlockSize with
  | some i => i
  | none => -1

/-- `uint_8be_to_64`: the bytes as a big-endian number. -/
def uint8beTo64 (data : List UInt8) : Nat := ofDigitsBE 256 (data.map UInt8.toNat)

/-- `uint_64_to_8be(num, size)`: the last `size` bytes of the big-endian form of `num`. -/
def uint64To8be (num size : Nat) : List UInt8 := (toDigitsBE 256 size num).map Nat.toUInt8

/-- The loop of `encode_block`: while `num` is not zero, the letter of its last base 58 digit is
written at `i`, and `i` moves one place left. -/
def encodeBlockLoop (res : List UInt8) (num i : Nat) : List UInt8 :=
  if 0 < num then
    encodeBlockLoop (res.set i (alphabet.getD (num % alphabetSize) 0)) (num / alphabetSize) (i - 1)
  else res
termination_by num
decreasing_by exact Nat.div_lt_self (by omega) (by decide)

/-- `encode_block(block, size, res)`, with `res` the block's letters as `encode` fills them,
`alphabet[0]` each. -/
def encodeBlock (block : List UInt8) : List UInt8 :=
  let n := encodedBlockSizes.getD block.length 0
  encodeBlockLoop (List.replicate n (alphabet.getD 0 0)) (uint8beTo64 block) (n - 1)

/-- The loop of `decode_block` over the letters from the last one back, with `res_num` and
`order`: a letter outside the alphabet, a product with a high word in `mul128`, or a sum that
wraps refuses the block. `order` grows 58 times each letter, modulo `2^64`. -/
def decodeBlockLoop : List UInt8 → Nat → Nat → Option Nat
  | [], resNum, _ => some resNum
  | letter :: rest, resNum, order =>
    let digit := reverseAlphabet letter
    if digit < 0 then none
    else
      let product := order * digit.toNat
      let tmp := (resNum + product % 2 ^ 64) % 2 ^ 64
      if tmp < resNum ∨ product / 2 ^ 64 ≠ 0 then none
      else decodeBlockLoop rest tmp (order * alphabetSize % 2 ^ 64)

/-- `decode_block(block, size, res)`: the bytes of the block, or `none` for a block size that has
no decoded size, a refused letter, or a number that does not fit in the decoded size. -/
def decodeBlock (block : List UInt8) : Option (List UInt8) :=
  let resSize := decodedBlockSizes block.length
  if resSize ≤ 0 then none
  else
    match decodeBlockLoop block.reverse 0 1 with
    | none => none
    | some resNum =>
      if resSize.toNat < fullBlockSize ∧ 2 ^ (8 * resSize.toNat) ≤ resNum then none
      else some (uint64To8be resNum resSize.toNat)

/-- The loop of `encode` over the full blocks: `encode_block` of each 8 bytes in turn. -/
def encodeFullBlocks : Nat → List UInt8 → List UInt8
  | 0, _ => []
  | n + 1, data => encodeBlock (data.take fullBlockSize) ++ encodeFullBlocks n (data.drop fullBlockSize)

/-- `encode(data)`: the full blocks, then the last block when there is one. -/
def encode (data : List UInt8) : List UInt8 :=
  if data.isEmpty then []
  else
    let fullBlockCount := data.length / fullBlockSize
    let lastBlockSize := data.length % fullBlockSize
    encodeFullBlocks fullBlockCount data ++
      if 0 < lastBlockSize then encodeBlock (data.drop (fullBlockCount * fullBlockSize)) else []

/-- The loop of `decode` over the full blocks: `decode_block` of each 11 letters in turn; the
first that fails makes `decode` fail. -/
def decodeFullBlocks : Nat → List UInt8 → Option (List UInt8)
  | 0, _ => some []
  | n + 1, enc =>
    match decodeBlock (enc.take fullEncodedBlockSize) with
    | none => none
    | some block => (decodeFullBlocks n (enc.drop fullEncodedBlockSize)).map (block ++ ·)

/-- `decode(enc, data)`: the bytes, or `none` when `decode` returns `false`. A length whose last
block has no decoded size is refused before any block is read. -/
def decode (enc : List UInt8) : Option (List UInt8) :=
  if enc.isEmpty then some []
  else
    let fullBlockCount := enc.length / fullEncodedBlockSize
    let lastBlockSize := enc.length % fullEncodedBlockSize
    if decodedBlockSizes lastBlockSize < 0 then none
    else
      match decodeFullBlocks fullBlockCount enc with
      | none => none
      | some blocks =>
        if 0 < lastBlockSize then
          (decodeBlock (enc.drop (fullBlockCount * fullEncodedBlockSize))).map (blocks ++ ·)
        else some blocks

/-- `addr_checksum_size`. -/
def addrChecksumSize : Nat := 4

/-- `encode_addr(tag, data)`, with `cn_fast_hash` a function `hash` to the 32 bytes of a
`crypto::hash`: the varint of the tag and the data, then the first `addr_checksum_size` bytes of
their hash, in base58. -/
def encodeAddr (hash : List UInt8 → Vector UInt8 32) (tag : Nat) (data : List UInt8) : List UInt8 :=
  let buf := getVarintData tag ++ data
  encode (buf ++ (hash buf).toList.take addrChecksumSize)

/-- `decode_addr(addr, tag, data)`: the tag and the data, or `none` when it returns `false`. The
bytes must decode, be longer than the checksum and end in the checksum of the rest; the tag is the
varint that `read_varint` reads at their start into a `uint64_t`, and a count that is not positive
refuses the address. -/
def decodeAddr (hash : List UInt8 → Vector UInt8 32) (addr : List UInt8) : Option (Nat × List UInt8) :=
  match decode addr with
  | none => none
  | some addrData =>
    if addrData.length ≤ addrChecksumSize then none
    else
      let checksum := addrData.drop (addrData.length - addrChecksumSize)
      let addrData := addrData.take (addrData.length - addrChecksumSize)
      let expectedChecksum := (hash addrData).toList.take addrChecksumSize
      if expectedChecksum ≠ checksum then none
      else
        let (read, tag) := readVarint 64 addrData
        if read ≤ 0 then none
        else some (tag, addrData.drop read.toNat)

end Sumokoin.Tools.Base58
