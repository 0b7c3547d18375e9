import Sumokoin.Serialization.BinaryArchive

/-! What the reading archive takes back from the bytes the writing archive puts: a byte, a blob,
a key, a varint of a `size_t`, a string and a vector of keys, whatever follows them. -/

namespace Sumokoin.Serialization

open Sumokoin.Tools

namespace InputArchive

@[simp] theorem serializeUint8_cons (byte : UInt8) (rest : List UInt8) (good : Bool) :
    (⟨byte :: rest, good⟩ : InputArchive).serializeUint8 = (⟨rest, good⟩, byte) := rfl

theorem serializeBlob_append (blob rest : List UInt8) (good : Bool) :
    (⟨blob ++ rest, good⟩ : InputArchive).serializeBlob blob.length = (⟨rest, good⟩, blob) := by
  simp [serializeBlob]

theorem serializeKey_append (key : Vector UInt8 32) (rest : List UInt8) (good : Bool) :
    (⟨key.toList ++ rest, good⟩ : InputArchive).serializeKey = (⟨rest, good⟩, key) := by
  have blob := serializeBlob_append key.toList rest good
  rw [Vector.length_toList] at blob
  rw [serializeKey, blob]
  simp only [Prod.mk.injEq, true_and]
  ext j hj
  simp [List.getD_eq_getElem?_getD, Vector.getElem_toList]

/-- A varint of a `size_t` comes back, whatever follows it. -/
theorem serializeVarint_writeVarint {v : Nat} (word : v < 2 ^ 64) (rest : List UInt8) (good : Bool) :
    (⟨writeVarint v ++ rest, good⟩ : InputArchive).serializeVarint = (⟨rest, good⟩, v) := by
  have read := readVarint_writeVarint word rest
  simp only [serializeVarint, read, Int.natCast_nonneg, if_true, Int.toNat_natCast,
    List.drop_left]

theorem readString_writeString {str : List UInt8} (word : str.length < 2 ^ 64) (rest : List UInt8) :
    (⟨writeVarint str.length ++ str ++ rest, true⟩ : InputArchive).readString =
      (⟨rest, true⟩, some str) := by
  rw [readString, List.append_assoc, serializeVarint_writeVarint word]
  simp only [remainingBytes, if_true, List.length_append]
  rw [if_neg (by omega), serializeBlob_append]

theorem readKeys_append (keys : List (Vector UInt8 32)) (rest : List UInt8) :
    (readKeys keys.length ⟨keys.flatMap Vector.toList ++ rest, true⟩) = (⟨rest, true⟩, some keys) := by
  induction keys with
  | nil => rfl
  | cons key keys ih =>
    rw [List.length_cons, readKeys, List.flatMap_cons, List.append_assoc, serializeKey_append]
    simp only [Bool.not_true, Bool.false_eq_true, if_false]
    rw [ih]

theorem readKeyVector_append {keys : List (Vector UInt8 32)} (word : keys.length < 2 ^ 64)
    (rest : List UInt8) :
    (⟨writeVarint keys.length ++ keys.flatMap Vector.toList ++ rest, true⟩ : InputArchive).readKeyVector =
      (⟨rest, true⟩, some keys) := by
  -- each key takes 32 bytes, so the bytes left cover the count
  have cover : keys.length ≤ (keys.flatMap Vector.toList).length := by
    rw [List.length_flatMap]
    simp only [Vector.length_toList, List.map_const', List.sum_replicate_nat]
    omega
  rw [readKeyVector, List.append_assoc, serializeVarint_writeVarint word]
  simp only [Bool.not_true, Bool.false_eq_true, if_false, remainingBytes, if_true,
    List.length_append]
  rw [if_neg (by omega), readKeys_append]

/-! ### What a read that succeeds gives -/

theorem serializeVarint_eq (ar : InputArchive) :
    ar.serializeVarint =
      if 0 ≤ (readVarint 64 ar.bytes).1 then
        ({ ar with bytes := ar.bytes.drop (readVarint 64 ar.bytes).1.toNat }, (readVarint 64 ar.bytes).2)
      else
        ({ bytes := ar.bytes.drop (readVarintAdvance 64 ar.bytes 0), good := false },
          (readVarint 64 ar.bytes).2) := rfl

theorem readString_eq (ar : InputArchive) :
    ar.readString =
      if ar.serializeVarint.1.remainingBytes < ar.serializeVarint.2 then
        (ar.serializeVarint.1.setFail, none)
      else
        ((ar.serializeVarint.1.serializeBlob ar.serializeVarint.2).1,
          some (ar.serializeVarint.1.serializeBlob ar.serializeVarint.2).2) := rfl

/-- A varint that leaves the archive good is a `size_t`. -/
theorem serializeVarint_lt (ar : InputArchive) (good : ar.serializeVarint.1.good = true) :
    ar.serializeVarint.2 < 2 ^ 64 := by
  rw [serializeVarint_eq] at good ⊢
  -- a negative count clears the flag
  split_ifs at good ⊢ with ok
  exact readVarintLoop_lt 64 ar.bytes 0 0 0 (by decide) (by decide) ok

/-- A string read with the archive left good has a `size_t` size. -/
theorem length_readString_lt {ar : InputArchive} {str : List UInt8}
    (read : ar.readString.2 = some str) (good : ar.readString.1.good = true) :
    str.length < 2 ^ 64 := by
  rw [readString_eq] at read good
  split_ifs at read good with short
  dsimp only [serializeBlob] at read good
  rw [Bool.and_eq_true] at good
  rw [← Option.some.inj read, List.length_take]
  exact lt_of_le_of_lt (Nat.min_le_left _ _) (serializeVarint_lt ar good.1)

theorem readKeys_succ (count : Nat) (ar : InputArchive) :
    readKeys (count + 1) ar =
      if !ar.serializeKey.1.good then (ar.serializeKey.1, none)
      else
        ((readKeys count ar.serializeKey.1).1,
          (readKeys count ar.serializeKey.1).2.map (ar.serializeKey.2 :: ·)) := by
  rw [readKeys]
  rcases key : ar.serializeKey with ⟨next, first⟩
  dsimp only
  rcases rest : readKeys count next with ⟨after, _ | keys⟩ <;> simp

theorem length_readKeys : ∀ (count : Nat) (ar : InputArchive) {keys : List (Vector UInt8 32)},
    (readKeys count ar).2 = some keys → keys.length = count
  | 0, _, _, read => by simp [readKeys] at read; simp [← read]
  | count + 1, ar, keys, read => by
    rw [readKeys_succ] at read
    split_ifs at read
    -- the keys after the first
    obtain ⟨rest, restRead, rfl⟩ := Option.map_eq_some_iff.mp read
    rw [List.length_cons, length_readKeys count _ restRead]

theorem readKeyVector_eq (ar : InputArchive) :
    ar.readKeyVector =
      if !ar.serializeVarint.1.good then (ar.serializeVarint.1, none)
      else if ar.serializeVarint.1.remainingBytes < ar.serializeVarint.2 then
        (ar.serializeVarint.1.setFail, none)
      else readKeys ar.serializeVarint.2 ar.serializeVarint.1 := rfl

/-- A vector of keys read has a `size_t` count. -/
theorem length_readKeyVector_lt {ar : InputArchive} {keys : List (Vector UInt8 32)}
    (read : ar.readKeyVector.2 = some keys) : keys.length < 2 ^ 64 := by
  rw [readKeyVector_eq] at read
  split_ifs at read with bad short
  rw [length_readKeys _ _ read]
  exact serializeVarint_lt ar (by simpa using bad)

/-- A size written as one raw byte of 128 or more is read as a varint that goes on into the
string: the number it spells is at least that byte, more than the bytes left after it, so the
string fails to load. The string must be long enough that the varint cannot run to its end. -/
theorem readString_of_rawSize {size : UInt8} {str : List UInt8} (high : 128 ≤ size.toNat)
    (long : 9 ≤ str.length) (short : str.length ≤ size.toNat) :
    (⟨size :: str, true⟩ : InputArchive).readString.2 = none ∨
      (⟨size :: str, true⟩ : InputArchive).readString.1.good = false := by
  have first := readVarint_cons_of_high (by decide : 7 < 64) high str
  have spelled : size.toNat = size.toNat % 128 + 2 ^ 7 := by
    have := size.toNat_lt
    simp only [Nat.reducePow]
    omega
  rw [readString_eq, serializeVarint_eq]
  simp only [first]
  by_cases ok : 0 ≤ (readVarintLoop 64 str 7 1 (size.toNat % 128)).1
  · -- the number read takes at least two bytes and spells at least the first byte
    have count := readVarintLoop_count 64 str 7 1 (size.toNat % 128)
      (List.ne_nil_of_length_pos (by omega)) ok
    have large : size.toNat ≤ (readVarintLoop 64 str 7 1 (size.toNat % 128)).2 := by
      by_contra small
      have room := readVarintLoop_room_of_lt 64 str 7 1 (size.toNat % 128) (by omega) (by decide)
        (by decide) ok (by omega)
      omega
    left
    rw [if_pos ok]
    simp only [remainingBytes, if_true, List.length_drop, List.length_cons]
    rw [if_pos (by omega)]
  · -- a negative count clears the flag, and the blob keeps it clear
    right
    rw [if_neg ok]
    split_ifs <;> rfl

end InputArchive

namespace OutputArchive

@[simp] theorem put_good (out bytes : List UInt8) :
    (⟨out, true⟩ : OutputArchive).put bytes = ⟨out ++ bytes, true⟩ := rfl

theorem writeString_good (out str : List UInt8) :
    (⟨out, true⟩ : OutputArchive).writeString str = ⟨out ++ writeVarint str.length ++ str, true⟩ := rfl

theorem writeKeyVector_good (out : List UInt8) (keys : List (Vector UInt8 32)) :
    (⟨out, true⟩ : OutputArchive).writeKeyVector keys =
      (⟨out ++ writeVarint keys.length ++ keys.flatMap Vector.toList, true⟩, true) := by
  -- the fold over the keys from a good stream stays good
  have fold : ∀ (keys : List (Vector UInt8 32)) (out : List UInt8),
      keys.foldl (fun (acc : OutputArchive × Bool) key =>
        if !acc.2 then (acc.1, false)
        else if !acc.1.good then (acc.1, false)
        else (acc.1.serializeBlob key.toList, (acc.1.serializeBlob key.toList).good))
        (⟨out, true⟩, true) = (⟨out ++ keys.flatMap Vector.toList, true⟩, true) := by
    intro keys
    induction keys with
    | nil => intro out; simp
    | cons key keys ih =>
      intro out
      rw [List.foldl_cons]
      simp only [Bool.not_true, Bool.false_eq_true, if_false]
      rw [show (⟨out, true⟩ : OutputArchive).serializeBlob key.toList = ⟨out ++ key.toList, true⟩
        from rfl]
      simp only
      rw [ih, List.flatMap_cons, List.append_assoc]
  exact fold keys _

end OutputArchive

end Sumokoin.Serialization
