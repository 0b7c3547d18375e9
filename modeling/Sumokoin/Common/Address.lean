import Sumokoin.Common.Base58Spec

/-! `decode_addr` against `encode_addr`. Both put the varint of the tag and the data between
base58 and a checksum of four bytes of `cn_fast_hash`, here any function to 32 bytes; once the
base58 and the checksum are undone, `decode_addr` reads the tag with `read_varint`. That reader
returns the count of the bytes it has read also when they end in the middle of a varint, so bytes
that all carry the varint's high bit decode to a tag and no data, while `encode_addr` writes that
tag with a last byte below `0x80`, in another address. -/

namespace Sumokoin.Tools.Base58

theorem length_checksum (hash : List UInt8 → Vector UInt8 32) (buf : List UInt8) :
    ((hash buf).toList.take addrChecksumSize).length = addrChecksumSize := by
  simp [addrChecksumSize]

/-- `decode_addr` of the base58 of bytes followed by their checksum: the tag `read_varint` reads
at their start, and the bytes after it as the data. -/
theorem decodeAddr_encode (hash : List UInt8 → Vector UInt8 32) {buf : List UInt8} (nonempty : buf ≠ []) :
    decodeAddr hash (encode (buf ++ (hash buf).toList.take addrChecksumSize)) =
      if (readVarint 64 buf).1 ≤ 0 then none
      else some ((readVarint 64 buf).2, buf.drop (readVarint 64 buf).1.toNat) := by
  have checksum := length_checksum hash buf
  have longer : ¬ (buf ++ (hash buf).toList.take addrChecksumSize).length ≤ addrChecksumSize := by
    rw [List.length_append, checksum]
    have := List.length_pos_iff.mpr nonempty
    omega
  have cut : (buf ++ (hash buf).toList.take addrChecksumSize).length - addrChecksumSize = buf.length := by
    rw [List.length_append, checksum, Nat.add_sub_cancel]
  simp only [decodeAddr, decode_encode, if_neg longer, cut, List.take_left' rfl, List.drop_left' rfl,
    ne_eq, not_true_eq_false, if_false]

/-- `decode_addr` reads back the tag and the data of every address that `encode_addr` writes for
a `uint64_t` tag. -/
theorem decodeAddr_encodeAddr (hash : List UInt8 → Vector UInt8 32) {tag : Nat} (fits : tag < 2 ^ 64)
    (data : List UInt8) : decodeAddr hash (encodeAddr hash tag data) = some (tag, data) := by
  have nonempty : getVarintData tag ++ data ≠ [] :=
    List.append_ne_nil_of_left_ne_nil (writeVarint_ne_nil tag) _
  have counted : 0 < (writeVarint tag).length := List.length_pos_iff.mpr (writeVarint_ne_nil tag)
  simp only [encodeAddr]
  rw [decodeAddr_encode hash nonempty, getVarintData, readVarint_writeVarint fits,
    if_neg (by omega), Int.toNat_natCast, List.drop_left' rfl]

/-- Bytes before the checksum that all carry the varint's high bit, few enough that their bits
fit in 64: `decode_addr` takes them for a whole tag and returns it with no data, and the address
`encode_addr` writes for that tag and no data is another one, which decodes to the same pair. -/
theorem decodeAddr_truncatedTag (hash : List UInt8 → Vector UInt8 32) {bytes : List UInt8}
    (nonempty : bytes ≠ []) (continued : ∀ b ∈ bytes, 0x80 ≤ b.toNat) (room : 7 * bytes.length < 64) :
    decodeAddr hash (encode (bytes ++ (hash bytes).toList.take addrChecksumSize)) =
        some (septetsValue bytes, []) ∧
      decodeAddr hash (encodeAddr hash (septetsValue bytes) []) = some (septetsValue bytes, []) ∧
      encodeAddr hash (septetsValue bytes) [] ≠ encode (bytes ++ (hash bytes).toList.take addrChecksumSize) := by
  have fits : septetsValue bytes < 2 ^ 64 :=
    lt_of_lt_of_le (septetsValue_lt bytes) (Nat.pow_le_pow_right (by decide) room.le)
  refine ⟨?_, decodeAddr_encodeAddr hash fits [], ?_⟩
  · have counted := List.length_pos_iff.mpr nonempty
    rw [decodeAddr_encode hash nonempty, readVarint_of_continuation nonempty continued room,
      if_neg (by omega), Int.toNat_natCast, List.drop_length]
  · -- equal addresses would be equal bytes, and the varint's last byte is below `0x80`
    intro same
    have bytes_eq := encode_injective same
    simp only [getVarintData, List.append_nil] at bytes_eq
    obtain ⟨written, -⟩ := List.append_inj' bytes_eq (by rw [length_checksum, length_checksum])
    obtain ⟨b, member, low⟩ := exists_mem_writeVarint_lt (septetsValue bytes)
    rw [written] at member
    exact absurd (continued b member) (by omega)

/-- The address of the bytes `0x80` and a zero checksum decodes to the tag `0` and no data, as the
address `encode_addr` writes for them does. -/
theorem decodeAddr_truncatedTag_zeroHash :
    decodeAddr (fun _ => Vector.replicate 32 0) (encode [0x80, 0, 0, 0, 0]) = some (0, []) ∧
      decodeAddr (fun _ => Vector.replicate 32 0) (encodeAddr (fun _ => Vector.replicate 32 0) 0 []) =
        some (0, []) ∧
      encodeAddr (fun _ => Vector.replicate 32 0) 0 [] ≠ encode [0x80, 0, 0, 0, 0] :=
  @decodeAddr_truncatedTag (fun _ => Vector.replicate 32 0) [0x80] (by decide) (by simp) (by decide)

end Sumokoin.Tools.Base58
