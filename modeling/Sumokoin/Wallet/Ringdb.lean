import Sumokoin.Common.Varint
import Sumokoin.Basic.OutputOffsets

/-! The ring database of `wallet/ringdb.cpp`. For each key image it keeps the ring of its spend as
relative offsets, compressed to a tag and the varints of the offsets, and encrypted with chacha20
under an IV made from the key image, the wallet's key and a field number. The table `dbi_rings` of
LMDB is a map from the encrypted key image to the encrypted ring; `cn_fast_hash` and `chacha20`
are parameters. A record of the first version has no tag: `get_ring` reads the record as one when
the ring read with the tag is empty or does not decompress. -/

namespace Sumokoin.Wallet

open Sumokoin.Tools Sumokoin.Basic

/-- `V1TAG`. -/
def v1tag : Nat := 798237759845202

/-- `CHACHA_IV_SIZE`. -/
def chachaIvSize : Nat := 8

/-- `config::HASH_KEY_RINGDB`, with its terminating zero. -/
def hashKeyRingdb : List UInt8 := "ringdsb".toUTF8.toList ++ [0]

/-- The primitives the database is encrypted with. `chacha20(data, length, key, iv, cipher)` writes
`length` bytes. -/
structure Cipher where
  cnFastHash : List UInt8 → Vector UInt8 32
  chacha20 : List UInt8 → Vector UInt8 32 → Vector UInt8 chachaIvSize → List UInt8
  length_chacha20 : ∀ data key iv, (chacha20 data key iv).length = data.length

/-- `compress_ring(ring, tag)`: the varint of the tag, then those of the offsets. -/
def compressRing (ring : List Nat) (tag : Nat) : List UInt8 :=
  getVarintData tag ++ ring.flatMap getVarintData

set_option linter.unusedVariables false in
/-- The loop of `decompress_ring(s, tag)` over the bytes `s` left, with the ring read so far. Each
turn reads a varint from a copy of the rest and moves past the bytes it read; while there is a
tag, the number read must be the tag, or the ring is empty. -/
def decompressRingLoop (tag : Nat) (ring : List Nat) (s : List UInt8) : Except String (List Nat) :=
  if empty : s = [] then .ok ring
  else
    let read := (readVarint 64 s).1
    let out := (readVarint 64 s).2
    if bad : read ≤ 0 ∨ read > 256 then .error "Internal error decompressing ring"
    else if tag ≠ 0 then
      if tag ≠ out then .ok []
      else decompressRingLoop 0 ring (s.drop read.toNat)
    else decompressRingLoop tag (ring ++ [out]) (s.drop read.toNat)
termination_by s.length
decreasing_by
  all_goals
    have nonempty := List.length_pos_of_ne_nil empty
    rw [List.length_drop]
    omega

/-- `decompress_ring(s, tag)`. -/
def decompressRing (s : List UInt8) (tag : Nat) : Except String (List Nat) :=
  decompressRingLoop tag [] s

section Crypto

variable (cipher : Cipher)

/-- `make_iv(key_image, key, field)`: the first `CHACHA_IV_SIZE` bytes of the hash of the key
image, the key, `HASH_KEY_RINGDB` and the field, where the field `0` is left out of the hash. -/
def makeIv (keyImage key : Vector UInt8 32) (field : UInt8) : Vector UInt8 chachaIvSize :=
  let buffer := keyImage.toList ++ key.toList ++ hashKeyRingdb ++ [field]
  let hash := cipher.cnFastHash (buffer.take (buffer.length - if field = 0 then 1 else 0))
  Vector.ofFn fun j => hash.get ⟨j, by have := j.isLt; simp only [chachaIvSize] at this; omega⟩

/-- `encrypt(plaintext, key_image, key, field)`: the IV, then the plaintext under chacha20. -/
def encrypt (plaintext : List UInt8) (keyImage key : Vector UInt8 32) (field : UInt8) :
    List UInt8 :=
  let iv := makeIv cipher keyImage key field
  iv.toList ++ cipher.chacha20 plaintext key iv

/-- `decrypt(ciphertext, key_image, key, field)`: chacha20 of what follows the IV, under the IV
made again. -/
def decrypt (ciphertext : List UInt8) (keyImage key : Vector UInt8 32) (field : UInt8) :
    Except String (List UInt8) :=
  let iv := makeIv cipher keyImage key field
  if ciphertext.length < chachaIvSize then .error "Bad ciphertext text"
  else .ok (cipher.chacha20 (ciphertext.drop chachaIvSize) key iv)

end Crypto

/-- The table `dbi_rings`. -/
structure RingDb where
  rings : List UInt8 → Option (List UInt8)

section Rings

variable (cipher : Cipher)

/-- `store_relative_ring(txn, dbi, key_image, relative_ring, chacha_key)`: `mdb_put` of the
encrypted ring at the encrypted key image, over what was there. -/
def storeRelativeRing (db : RingDb) (keyImage : Vector UInt8 32) (relativeRing : List Nat)
    (chachaKey : Vector UInt8 32) : RingDb :=
  let keyCiphertext := encrypt cipher keyImage.toList keyImage chachaKey 0
  let compressedRing := compressRing relativeRing v1tag
  let dataCiphertext := encrypt cipher compressedRing keyImage chachaKey 1
  { rings := Function.update db.rings keyCiphertext (some dataCiphertext) }

/-- `ringdb::set_ring(chacha_key, key_image, outs, relative)`. -/
def setRing (db : RingDb) (chachaKey keyImage : Vector UInt8 32) (outs : List Nat)
    (relative : Bool) : RingDb :=
  storeRelativeRing cipher db keyImage
    (if relative then outs else absoluteOutputOffsetsToRelative outs) chachaKey

/-- The record read as one of the first version: decrypted with the field `0`, without a tag. -/
def readRingV0 (data : List UInt8) (chachaKey keyImage : Vector UInt8 32) :
    Except String (List Nat) := do
  let dataPlaintext ← decrypt cipher data keyImage chachaKey 0
  decompressRing dataPlaintext 0

/-- `ringdb::get_ring(chacha_key, key_image, outs)`: `none` when it returns `false`, for a key image
without a ring; else the absolute offsets of the ring. -/
def getRing (db : RingDb) (chachaKey keyImage : Vector UInt8 32) :
    Except String (Option (List Nat)) :=
  let keyCiphertext := encrypt cipher keyImage.toList keyImage chachaKey 0
  match db.rings keyCiphertext with
  | none => .ok none
  | some data =>
    if data.length ≤ 0 then .error "Invalid ring data size"
    else do
      let dataPlaintext ← decrypt cipher data keyImage chachaKey 1
      let outs ← match decompressRing dataPlaintext v1tag with
        | .ok outs => if outs.isEmpty then readRingV0 cipher data chachaKey keyImage else .ok outs
        | .error _ => readRingV0 cipher data chachaKey keyImage
      pure (some (relativeOutputOffsetsToAbsolute outs))

end Rings

end Sumokoin.Wallet
