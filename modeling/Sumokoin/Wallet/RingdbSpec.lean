import Sumokoin.Wallet.Ringdb

/-! What the ring database returns. `decompress_ring` reads back what `compress_ring` wrote, and
decryption undoes encryption for a `chacha20` that undoes itself under the same key and IV, so
`get_ring` after `set_ring` of absolute offsets gives them back sorted. -/

namespace Sumokoin.Wallet

open Sumokoin.Tools Sumokoin.Basic

section Decompress

theorem decompressRingLoop_nil (tag : Nat) (ring : List Nat) :
    decompressRingLoop tag ring [] = .ok ring := by
  rw [decompressRingLoop, dif_pos rfl]

/-- One turn of the loop reads one `uint64_t` varint and moves past its bytes. -/
theorem decompressRingLoop_writeVarint (tag : Nat) (ring : List Nat) {v : Nat}
    (word : v < uint64Modulus) (rest : List UInt8) :
    decompressRingLoop tag ring (writeVarint v ++ rest) =
      if tag ≠ 0 then (if tag ≠ v then .ok [] else decompressRingLoop 0 ring rest)
      else decompressRingLoop tag (ring ++ [v]) rest := by
  have read := @readVarint_writeVarint 64 v word rest
  have short := length_writeVarint_le (k := 10) (by decide) v
    (lt_of_lt_of_le word (Nat.pow_le_pow_right (by decide) (by decide)))
  have long := List.length_pos_of_ne_nil (writeVarint_ne_nil v)
  have bytes : (writeVarint v ++ rest).drop (writeVarint v).length = rest := List.drop_left
  rw [decompressRingLoop, dif_neg (List.append_ne_nil_of_left_ne_nil (writeVarint_ne_nil v) rest)]
  simp only [read, Int.toNat_natCast, bytes]
  rw [dif_neg (by omega)]

/-- The varints of `uint64_t` offsets, read without a tag, add the offsets to the ring. -/
theorem decompressRingLoop_flatMap (ring : List Nat) :
    ∀ r : List Nat, (∀ x ∈ r, x < uint64Modulus) →
      decompressRingLoop 0 ring (r.flatMap getVarintData) = .ok (ring ++ r) := by
  intro r
  induction r generalizing ring with
  | nil => intro _; rw [List.flatMap_nil, decompressRingLoop_nil, List.append_nil]
  | cons x r ih =>
    intro word
    rw [List.flatMap_cons, getVarintData,
      decompressRingLoop_writeVarint 0 ring (word x List.mem_cons_self), if_neg (by decide),
      ih (ring ++ [x]) (fun y mem => word y (List.mem_cons_of_mem _ mem)), List.append_assoc,
      List.singleton_append]

theorem decompressRing_compressRing {r : List Nat} (word : ∀ x ∈ r, x < uint64Modulus) :
    decompressRing (compressRing r v1tag) v1tag = .ok r := by
  rw [decompressRing, compressRing, getVarintData,
    decompressRingLoop_writeVarint v1tag [] (by decide), if_pos (by decide), if_neg (by decide),
    decompressRingLoop_flatMap [] r word, List.nil_append]

end Decompress

section Crypto

variable {cipher : Cipher}

theorem length_encrypt (plaintext : List UInt8) (keyImage key : Vector UInt8 32) (field : UInt8) :
    (encrypt cipher plaintext keyImage key field).length = chachaIvSize + plaintext.length := by
  rw [encrypt, List.length_append, Vector.length_toList, cipher.length_chacha20]

/-- Decryption undoes encryption under the same key image, key and field. -/
theorem decrypt_encrypt
    (involution : ∀ data key iv, cipher.chacha20 (cipher.chacha20 data key iv) key iv = data)
    (plaintext : List UInt8) (keyImage key : Vector UInt8 32) (field : UInt8) :
    decrypt cipher (encrypt cipher plaintext keyImage key field) keyImage key field =
      .ok plaintext := by
  have ivBytes : (makeIv cipher keyImage key field).toList.length = chachaIvSize :=
    Vector.length_toList
  rw [decrypt, if_neg (by rw [length_encrypt]; omega), encrypt, List.drop_left' ivBytes, involution]

end Crypto

section Rings

variable {cipher : Cipher}

/-- The record `store_relative_ring` puts at a key image. -/
theorem storeRelativeRing_rings (db : RingDb) (keyImage : Vector UInt8 32) (relativeRing : List Nat)
    (chachaKey : Vector UInt8 32) :
    (storeRelativeRing cipher db keyImage relativeRing chachaKey).rings
        (encrypt cipher keyImage.toList keyImage chachaKey 0) =
      some (encrypt cipher (compressRing relativeRing v1tag) keyImage chachaKey 1) := by
  rw [storeRelativeRing]
  exact Function.update_self _ _ _

/-- `get_ring` of a record of a nonempty ring of `uint64_t` relative offsets, which the tag
reads. -/
theorem getRing_storeRelativeRing
    (involution : ∀ data key iv, cipher.chacha20 (cipher.chacha20 data key iv) key iv = data)
    (db : RingDb) (chachaKey keyImage : Vector UInt8 32) {relativeRing : List Nat}
    (nonempty : relativeRing ≠ []) (word : ∀ x ∈ relativeRing, x < uint64Modulus) :
    getRing cipher (storeRelativeRing cipher db keyImage relativeRing chachaKey) chachaKey keyImage =
      .ok (some (relativeOutputOffsetsToAbsolute relativeRing)) := by
  have sized : ¬(encrypt cipher (compressRing relativeRing v1tag) keyImage chachaKey 1).length ≤ 0 := by
    rw [length_encrypt]
    simp [chachaIvSize]
  have notEmpty : relativeRing.isEmpty = false := List.isEmpty_eq_false_iff.mpr nonempty
  rw [getRing]
  simp only
  rw [storeRelativeRing_rings]
  simp only
  rw [if_neg sized, decrypt_encrypt involution]
  simp only [bind, Except.bind, decompressRing_compressRing word, notEmpty]
  rfl

/-- `get_ring` after `set_ring` of nonempty absolute offsets: the offsets, sorted. -/
theorem getRing_setRing
    (involution : ∀ data key iv, cipher.chacha20 (cipher.chacha20 data key iv) key iv = data)
    (db : RingDb) (chachaKey keyImage : Vector UInt8 32) {outs : List Nat} (nonempty : outs ≠ [])
    (word : ∀ x ∈ outs, x < uint64Modulus) :
    getRing cipher (setRing cipher db chachaKey keyImage outs false) chachaKey keyImage =
      .ok (some (sortOffsets outs)) := by
  have relativeNonempty : absoluteOutputOffsetsToRelative outs ≠ [] :=
    List.ne_nil_of_length_pos (by
      rw [length_absoluteOutputOffsetsToRelative]
      exact List.length_pos_of_ne_nil nonempty)
  rw [setRing, if_neg Bool.false_ne_true,
    getRing_storeRelativeRing involution db chachaKey keyImage relativeNonempty
      (absoluteOutputOffsetsToRelative_lt word),
    relativeOutputOffsetsToAbsolute_toRelative outs word]

end Rings

/-- Ring offsets convert both ways without loss, and the ring database gives back the ring it
stored: the relative offsets of `uint64_t` indices sum back to the indices sorted, the gaps of
running sums that do not wrap are the summands, `decompress_ring` reads what `compress_ring` wrote
with the tag `V1TAG`, and `get_ring` after `set_ring` of absolute offsets gives them sorted, for a
`chacha20` that undoes itself under the same key and IV. -/
theorem ring_roundTrip :
    (∀ a : List Nat, (∀ x ∈ a, x < uint64Modulus) →
      relativeOutputOffsetsToAbsolute (absoluteOutputOffsetsToRelative a) = sortOffsets a) ∧
    (∀ r : List Nat, r.sum < uint64Modulus →
      absoluteOutputOffsetsToRelative (relativeOutputOffsetsToAbsolute r) = r) ∧
    (∀ r : List Nat, (∀ x ∈ r, x < uint64Modulus) →
      decompressRing (compressRing r v1tag) v1tag = .ok r) ∧
    (∀ cipher : Cipher,
      (∀ data key iv, cipher.chacha20 (cipher.chacha20 data key iv) key iv = data) →
      ∀ (db : RingDb) (chachaKey keyImage : Vector UInt8 32) (outs : List Nat), outs ≠ [] →
        (∀ x ∈ outs, x < uint64Modulus) →
        getRing cipher (setRing cipher db chachaKey keyImage outs false) chachaKey keyImage =
          .ok (some (sortOffsets outs))) :=
  ⟨relativeOutputOffsetsToAbsolute_toRelative, absoluteOutputOffsetsToRelative_toAbsolute,
    fun _ word => decompressRing_compressRing word,
    fun _ involution db chachaKey keyImage _ nonempty word =>
      getRing_setRing involution db chachaKey keyImage nonempty word⟩

/-- A cipher whose `chacha20` leaves the data as it is, with a constant hash. -/
def plainCipher : Cipher where
  cnFastHash _ := Vector.replicate 32 0
  chacha20 data _ _ := data
  length_chacha20 _ _ _ := rfl

theorem ring_roundTrip_storedRing :
    getRing plainCipher
        (setRing plainCipher ⟨fun _ => none⟩ (Vector.replicate 32 7) (Vector.replicate 32 1)
          [3, 5, 300] false)
        (Vector.replicate 32 7) (Vector.replicate 32 1) =
      .ok (some [3, 5, 300]) := by
  have stored := ring_roundTrip.2.2.2 plainCipher (fun _ _ _ => rfl) ⟨fun _ => none⟩
    (Vector.replicate 32 7) (Vector.replicate 32 1) [3, 5, 300] (by decide) (by decide)
  rwa [sortOffsets_of_pairwise (by decide)] at stored

end Sumokoin.Wallet
