import Sumokoin.Common.Varint

/-! `binary_archive` of `serialization/binary_archive.h`, with the serializers of
`serialization/string.h` and `serialization/container.h` that the extra fields use. The reading
archive is the span of the bytes left and the flag `good_`, which a failed read clears for good;
`remaining_bytes()` is `0` once it is clear. The writing archive is the `std::ostringstream` it
writes to: what was written, and its state; a stream whose fail bit is set writes nothing more.
Sizes are `size_t`, a 64-bit word. -/

namespace Sumokoin.Serialization

open Sumokoin.Tools

/-- `binary_archive<false>`. -/
structure InputArchive where
  bytes : List UInt8
  good : Bool
  deriving DecidableEq, Repr

namespace InputArchive

/-- The archive over a whole buffer. -/
def ofBytes (bytes : List UInt8) : InputArchive := ⟨bytes, true⟩

def eof (ar : InputArchive) : Bool := ar.bytes.isEmpty

def remainingBytes (ar : InputArchive) : Nat := if ar.good then ar.bytes.length else 0

def setFail (ar : InputArchive) : InputArchive := { ar with good := false }

/-- `serialize_int` of a `uint8_t`: `remove_prefix(1)`, and `0` when no byte is left. -/
def serializeUint8 (ar : InputArchive) : InputArchive × UInt8 :=
  match ar.bytes with
  | [] => (ar.setFail, 0)
  | byte :: rest => ({ ar with bytes := rest }, byte)

/-- `serialize_blob(buf, len)`: the first `len` bytes, as many as there are. -/
def serializeBlob (ar : InputArchive) (len : Nat) : InputArchive × List UInt8 :=
  ({ bytes := ar.bytes.drop len, good := ar.good && decide (len ≤ ar.bytes.length) },
    ar.bytes.take len)

/-- A `BLOB_SERIALIZER` type of 32 bytes, `crypto::public_key` or `crypto::hash`: `serialize_blob`,
with the bytes past the end of the input left `0`. -/
def serializeKey (ar : InputArchive) : InputArchive × Vector UInt8 32 :=
  let (next, blob) := ar.serializeBlob 32
  (next, Vector.ofFn fun j => blob.getD j 0)

/-- `serialize_varint` of a `size_t`: `read_varint` from the start of the span, which moves past
what it read; a negative count clears `good_`. -/
def serializeVarint (ar : InputArchive) : InputArchive × Nat :=
  let read := readVarint 64 ar.bytes
  if 0 ≤ read.1 then ({ ar with bytes := ar.bytes.drop read.1.toNat }, read.2)
  else ({ bytes := ar.bytes.drop (readVarintAdvance 64 ar.bytes 0), good := false }, read.2)

/-- `do_serialize(ar, std::string&)`: the size, then as many bytes, which must be left. -/
def readString (ar : InputArchive) : InputArchive × Option (List UInt8) :=
  let (ar, size) := ar.serializeVarint
  if ar.remainingBytes < size then (ar.setFail, none)
  else
    let (ar, buf) := ar.serializeBlob size
    (ar, some buf)

/-- The loop of `do_serialize_container` over the elements of a vector of keys. -/
def readKeys : Nat → InputArchive → InputArchive × Option (List (Vector UInt8 32))
  | 0, ar => (ar, some [])
  | count + 1, ar =>
    let (ar, key) := ar.serializeKey
    if !ar.good then (ar, none)
    else
      match readKeys count ar with
      | (ar, some keys) => (ar, some (key :: keys))
      | (ar, none) => (ar, none)

/-- `do_serialize_container` of a `std::vector<crypto::public_key>`: the count, which the bytes
left must cover, then the keys. -/
def readKeyVector (ar : InputArchive) : InputArchive × Option (List (Vector UInt8 32)) :=
  let (ar, cnt) := ar.serializeVarint
  if !ar.good then (ar, none)
  else if ar.remainingBytes < cnt then (ar.setFail, none)
  else readKeys cnt ar

end InputArchive

/-- `binary_archive<true>` over a `std::ostringstream`. -/
structure OutputArchive where
  out : List UInt8
  good : Bool
  deriving DecidableEq, Repr

namespace OutputArchive

/-- A fresh stream. -/
def empty : OutputArchive := ⟨[], true⟩

/-- Writing to the stream: nothing once its fail bit is set. -/
def put (ar : OutputArchive) (bytes : List UInt8) : OutputArchive :=
  if ar.good then { ar with out := ar.out ++ bytes } else ar

def setFail (ar : OutputArchive) : OutputArchive := { ar with good := false }

def serializeUint8 (ar : OutputArchive) (v : UInt8) : OutputArchive := ar.put [v]

def serializeBlob (ar : OutputArchive) (buf : List UInt8) : OutputArchive := ar.put buf

/-- `serialize_varint`: `write_varint` to the stream. -/
def serializeVarint (ar : OutputArchive) (v : Nat) : OutputArchive := ar.put (writeVarint v)

/-- `do_serialize(ar, std::string&)`, which returns `true`. -/
def writeString (ar : OutputArchive) (str : List UInt8) : OutputArchive :=
  (ar.serializeVarint str.length).serializeBlob str

/-- `do_serialize_container` of a `std::vector<crypto::public_key>`: the count, then the keys,
failing on a stream that failed. -/
def writeKeyVector (ar : OutputArchive) (v : List (Vector UInt8 32)) : OutputArchive × Bool :=
  let ar := ar.serializeVarint v.length
  v.foldl (fun (ar, ok) key =>
    if !ok then (ar, false)
    else if !ar.good then (ar, false)
    else
      let ar := ar.serializeBlob key.toList
      (ar, ar.good)) (ar, true)

end OutputArchive

end Sumokoin.Serialization
