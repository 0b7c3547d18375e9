import Sumokoin.Serialization.BinaryArchive
import Sumokoin.Config

/-! The extra field of a transaction, `cryptonote_basic/tx_extra.h`, and its parser and writers of
`cryptonote_basic/cryptonote_format_utils.cpp`. A field is a one-byte variant tag and the field's
serialization: a padding is zeros up to the end, a public key 32 bytes, a nonce and the mysterious
minergate field a string, a merge mining tag a string that holds the varint depth and the 32-byte
merkle root, the additional public keys a vector of keys. Public keys and hashes are their 32
bytes. -/

namespace Sumokoin.Basic

open Sumokoin.Serialization Sumokoin.Tools

/-- `TX_EXTRA_PADDING_MAX_COUNT`. -/
def txExtraPaddingMaxCount : Nat := 255

/-- `TX_EXTRA_TAG_PADDING`. -/
def txExtraTagPadding : UInt8 := 0x00

/-- `TX_EXTRA_TAG_PUBKEY`. -/
def txExtraTagPubkey : UInt8 := 0x01

/-- `TX_EXTRA_NONCE`. -/
def txExtraNonce : UInt8 := 0x02

/-- `TX_EXTRA_MERGE_MINING_TAG`. -/
def txExtraMergeMiningTag : UInt8 := 0x03

/-- `TX_EXTRA_TAG_ADDITIONAL_PUBKEYS`. -/
def txExtraTagAdditionalPubkeys : UInt8 := 0x04

/-- `TX_EXTRA_MYSTERIOUS_MINERGATE_TAG`. -/
def txExtraMysteriousMinergateTag : UInt8 := 0xDE

/-- `tx_extra_field`, the variant of the six fields. -/
inductive TxExtraField where
  | padding (size : Nat)
  | pubKey (pubKey : Vector UInt8 32)
  | nonce (nonce : List UInt8)
  | mergeMiningTag (depth : Nat) (merkleRoot : Vector UInt8 32)
  | additionalPubKeys (data : List (Vector UInt8 32))
  | mysteriousMinergate (data : List UInt8)
  deriving DecidableEq, Repr

/-- The `VARIANT_TAG` of each field. -/
def TxExtraField.tag : TxExtraField → UInt8
  | .padding _ => txExtraTagPadding
  | .pubKey _ => txExtraTagPubkey
  | .nonce _ => txExtraNonce
  | .mergeMiningTag _ _ => txExtraMergeMiningTag
  | .additionalPubKeys _ => txExtraTagAdditionalPubkeys
  | .mysteriousMinergate _ => txExtraMysteriousMinergateTag

/-! ### Reading -/

/-- The loop `for (size = 1; size <= TX_EXTRA_PADDING_MAX_COUNT; ++size)` of
`tx_extra_padding::do_serialize` from `size` on, with `left` turns left: zeros up to the end. -/
def readPaddingFrom : Nat → Nat → InputArchive → InputArchive × Option Nat
  | 0, size, ar => (ar, if size ≤ txExtraPaddingMaxCount then some size else none)
  | left + 1, size, ar =>
    if ar.eof then (ar, if size ≤ txExtraPaddingMaxCount then some size else none)
    else
      let (ar, zero) := ar.serializeUint8
      if 0 ≠ zero then (ar, none) else readPaddingFrom left (size + 1) ar

/-- `tx_extra_padding::do_serialize` when loading: the size counts the variant tag. -/
def readPadding (ar : InputArchive) : InputArchive × Option Nat :=
  readPaddingFrom txExtraPaddingMaxCount 1 ar

/-- `tx_extra_pub_key::do_serialize`: `FIELD(pub_key)`. -/
def readPubKey (ar : InputArchive) : InputArchive × Option (Vector UInt8 32) :=
  let (ar, pubKey) := ar.serializeKey
  (ar, if ar.good then some pubKey else none)

/-- `tx_extra_nonce::do_serialize`: `FIELD(nonce)`, then at most `TX_EXTRA_NONCE_MAX_COUNT` bytes. -/
def readNonce (ar : InputArchive) : InputArchive × Option (List UInt8) :=
  match ar.readString with
  | (ar, some nonce) =>
    if !ar.good then (ar, none)
    else if txExtraNonceMaxCount < nonce.length then (ar, none)
    else (ar, some nonce)
  | (ar, none) => (ar, none)

/-- `tx_extra_merge_mining_tag::do_serialize` when loading: a string, read on its own archive as
`VARINT_FIELD_N("depth", ...)` and `FIELD_N("merkle_root", ...)` to its end. -/
def readMergeMiningTag (ar : InputArchive) : InputArchive × Option (Nat × Vector UInt8 32) :=
  match ar.readString with
  | (ar, none) => (ar, none)
  | (ar, some field) =>
    let (iar, depth) := (InputArchive.ofBytes field).serializeVarint
    if !iar.good then (ar, none)
    else
      let (iar, merkleRoot) := iar.serializeKey
      if !iar.good then (ar, none)
      else (ar, if iar.good && iar.eof then some (depth, merkleRoot) else none)

/-- `tx_extra_additional_pub_keys::do_serialize`: `FIELD(data)`. -/
def readAdditionalPubKeys (ar : InputArchive) : InputArchive × Option (List (Vector UInt8 32)) :=
  match ar.readKeyVector with
  | (ar, some data) => (ar, if ar.good then some data else none)
  | (ar, none) => (ar, none)

/-- `tx_extra_mysterious_minergate::do_serialize`: `FIELD(data)`. -/
def readMysteriousMinergate (ar : InputArchive) : InputArchive × Option (List UInt8) :=
  match ar.readString with
  | (ar, some data) => (ar, if ar.good then some data else none)
  | (ar, none) => (ar, none)

/-- One case of `variant_reader::read`: a field that fails to load fails the archive. -/
def readCase {α : Type} (read : InputArchive → InputArchive × Option α) (field : α → TxExtraField)
    (ar : InputArchive) : InputArchive × Option TxExtraField :=
  match read ar with
  | (ar, some x) => (ar, some (field x))
  | (ar, none) => (ar.setFail, none)

/-- `do_serialize(ar, tx_extra_field&)`: the tag, then the field of that tag; another tag fails. -/
def readTxExtraField (ar : InputArchive) : InputArchive × Option TxExtraField :=
  let (ar, t) := ar.serializeUint8
  if t = txExtraTagPadding then readCase readPadding .padding ar
  else if t = txExtraTagPubkey then readCase readPubKey .pubKey ar
  else if t = txExtraNonce then readCase readNonce .nonce ar
  else if t = txExtraMergeMiningTag then
    readCase readMergeMiningTag (fun tag => .mergeMiningTag tag.1 tag.2) ar
  else if t = txExtraTagAdditionalPubkeys then readCase readAdditionalPubKeys .additionalPubKeys ar
  else if t = txExtraMysteriousMinergateTag then
    readCase readMysteriousMinergate .mysteriousMinergate ar
  else (ar.setFail, none)

/-- The loop `do { ... } while (!ar.eof())` of `parse_tx_extra` with the fields read so far; each
turn reads at least the tag, so the size of the extra bounds the turns. At the end
`check_stream_state` wants `good_`. -/
def parseTxExtraLoop : Nat → InputArchive → List TxExtraField → Option (List TxExtraField)
  | 0, _, _ => none
  | fuel + 1, ar, fields =>
    match readTxExtraField ar with
    | (_, none) => none
    | (ar, some field) =>
      if !ar.eof then parseTxExtraLoop fuel ar (fields ++ [field])
      else if ar.good then some (fields ++ [field])
      else none

/-- `parse_tx_extra(tx_extra, tx_extra_fields)`: the fields, or `none` when it returns `false`. -/
def parseTxExtra (txExtra : List UInt8) : Option (List TxExtraField) :=
  if txExtra.isEmpty then some []
  else parseTxExtraLoop txExtra.length (InputArchive.ofBytes txExtra) []

/-! ### Writing -/

/-- `tx_extra_padding::do_serialize` when storing: the zeros after the tag. -/
def writePadding (ar : OutputArchive) (size : Nat) : OutputArchive × Bool :=
  if txExtraPaddingMaxCount < size then (ar, false)
  else ((List.range' 1 (size - 1)).foldl (fun ar _ => ar.serializeUint8 0) ar, true)

/-- `tx_extra_pub_key::do_serialize`: `FIELD(pub_key)`. -/
def writePubKey (ar : OutputArchive) (pubKey : Vector UInt8 32) : OutputArchive × Bool :=
  let ar := ar.serializeBlob pubKey.toList
  (ar, ar.good)

/-- `tx_extra_nonce::do_serialize`: `FIELD(nonce)`, then at most `TX_EXTRA_NONCE_MAX_COUNT` bytes. -/
def writeNonce (ar : OutputArchive) (nonce : List UInt8) : OutputArchive × Bool :=
  let ar := ar.writeString nonce
  if !ar.good then (ar, false)
  else if txExtraNonceMaxCount < nonce.length then (ar, false)
  else (ar, ar.good)

/-- `tx_extra_merge_mining_tag::do_serialize` when storing: the depth and the merkle root on a
stream of their own, then what it holds as a string. -/
def writeMergeMiningTag (ar : OutputArchive) (depth : Nat) (merkleRoot : Vector UInt8 32) :
    OutputArchive × Bool :=
  let oar := OutputArchive.empty.serializeVarint depth
  if !oar.good then (ar, false)
  else
    let oar := oar.serializeBlob merkleRoot.toList
    if !oar.good then (ar, false)
    else
      let ar := ar.writeString oar.out
      (ar, ar.good)

/-- `tx_extra_additional_pub_keys::do_serialize`: `FIELD(data)`. -/
def writeAdditionalPubKeys (ar : OutputArchive) (data : List (Vector UInt8 32)) :
    OutputArchive × Bool :=
  let (ar, ok) := ar.writeKeyVector data
  (ar, ok && ar.good)

/-- `tx_extra_mysterious_minergate::do_serialize`: `FIELD(data)`. -/
def writeMysteriousMinergate (ar : OutputArchive) (data : List UInt8) : OutputArchive × Bool :=
  let ar := ar.writeString data
  (ar, ar.good)

/-- The field itself, after its tag: `do_serialize` of the field's type. -/
def writeFieldBody (ar : OutputArchive) : TxExtraField → OutputArchive × Bool
  | .padding size => writePadding ar size
  | .pubKey pubKey => writePubKey ar pubKey
  | .nonce nonce => writeNonce ar nonce
  | .mergeMiningTag depth merkleRoot => writeMergeMiningTag ar depth merkleRoot
  | .additionalPubKeys data => writeAdditionalPubKeys ar data
  | .mysteriousMinergate data => writeMysteriousMinergate ar data

/-- `do_serialize(ar, tx_extra_field&)` when storing: the tag, then the field; a field that fails
fails the stream. -/
def writeTxExtraField (ar : OutputArchive) (field : TxExtraField) : OutputArchive × Bool :=
  match writeFieldBody (ar.serializeUint8 field.tag) field with
  | (ar, true) => (ar, true)
  | (ar, false) => (ar.setFail, false)

/-- `add_tx_pub_key_to_extra(tx_extra, tx_pub_key)`: the tag and the key, after the extra. -/
def addTxPubKeyToExtra (txExtra : List UInt8) (txPubKey : Vector UInt8 32) : List UInt8 :=
  txExtra ++ txExtraTagPubkey :: txPubKey.toList

/-- `add_additional_tx_pub_keys_to_extra(tx_extra, additional_pub_keys)`: the field serialized on
its own stream, after the extra; `none` when it returns `false`, which leaves the extra as it is. -/
def addAdditionalTxPubKeysToExtra (txExtra : List UInt8)
    (additionalPubKeys : List (Vector UInt8 32)) : Option (List UInt8) :=
  let (ar, r) := writeTxExtraField OutputArchive.empty (.additionalPubKeys additionalPubKeys)
  if !r then none else some (txExtra ++ ar.out)

/-- `add_extra_nonce_to_tx_extra(tx_extra, extra_nonce)`: the tag, the size as one byte, and the
nonce, after the extra; `none` for a nonce longer than `TX_EXTRA_NONCE_MAX_COUNT`. -/
def addExtraNonceToTxExtra (txExtra : List UInt8) (extraNonce : List UInt8) : Option (List UInt8) :=
  if ¬extraNonce.length ≤ txExtraNonceMaxCount then none
  else some (txExtra ++ txExtraNonce :: extraNonce.length.toUInt8 :: extraNonce)

/-! ### Sorting and removing fields -/

/-- The type of a field, which `field.type() == typeid(T)` compares. -/
inductive TxExtraFieldType where
  | padding
  | pubKey
  | nonce
  | mergeMiningTag
  | additionalPubKeys
  | mysteriousMinergate
  deriving DecidableEq, Repr

def TxExtraField.type : TxExtraField → TxExtraFieldType
  | .padding _ => .padding
  | .pubKey _ => .pubKey
  | .nonce _ => .nonce
  | .mergeMiningTag _ _ => .mergeMiningTag
  | .additionalPubKeys _ => .additionalPubKeys
  | .mysteriousMinergate _ => .mysteriousMinergate

/-- The loop `do { ... } while (!ar.eof())` of `sort_tx_extra`: the fields read, the position
`processed` after the last one read, the archive, and whether every read succeeded; a read that
fails breaks the loop. -/
def sortTxExtraLoop (size : Nat) : Nat → InputArchive → List TxExtraField → Nat →
    List TxExtraField × Nat × InputArchive × Bool
  | 0, ar, fields, processed => (fields, processed, ar, false)
  | fuel + 1, ar, fields, processed =>
    match readTxExtraField ar with
    | (ar, none) => (fields, processed, ar, false)
    | (ar, some field) =>
      if !ar.eof then sortTxExtraLoop size fuel ar (fields ++ [field]) (size - ar.bytes.length)
      else (fields ++ [field], size - ar.bytes.length, ar, true)

/-- `pick<T>(ar, fields, tag)`: while a field of type `type` is left, the tag, which
`do_serialize` of a `uint8_t` writes and reports written, then the field, and the field erased;
`none` when the field fails to write. Each turn erases one field, so the fields bound the turns. -/
def pickLoop (type : TxExtraFieldType) (tag : UInt8) :
    Nat → OutputArchive → List TxExtraField → Option (OutputArchive × List TxExtraField)
  | 0, ar, fields => some (ar, fields)
  | fuel + 1, ar, fields =>
    match fields.find? (·.type == type) with
    | none => some (ar, fields)
    | some field =>
      match writeFieldBody (ar.serializeUint8 tag) field with
      | (_, false) => none
      | (ar, true) => pickLoop type tag fuel ar (fields.eraseP (·.type == type))

/-- `pick<T>(ar, fields, tag)` on all the fields. -/
def pick (type : TxExtraFieldType) (tag : UInt8) (ar : OutputArchive) (fields : List TxExtraField) :
    Option (OutputArchive × List TxExtraField) :=
  pickLoop type tag fields.length ar fields

/-- The order in which `sort_tx_extra` picks the fields, with the tag of each. -/
def sortTxExtraOrder : List (TxExtraFieldType × UInt8) :=
  [(.pubKey, txExtraTagPubkey), (.additionalPubKeys, txExtraTagAdditionalPubkeys),
    (.nonce, txExtraNonce), (.mergeMiningTag, txExtraMergeMiningTag),
    (.mysteriousMinergate, txExtraMysteriousMinergateTag), (.padding, txExtraTagPadding)]

/-- `sort_tx_extra(tx_extra, sorted_tx_extra, allow_partial)`: the sorted extra, or `none` when it
returns `false`. A field that fails to read, or a stream left failed, fails unless partial input
is allowed, and then the bytes after the last field read are appended as they are. -/
def sortTxExtra (txExtra : List UInt8) (allowPartial : Bool) : Option (List UInt8) :=
  if txExtra.isEmpty then some []
  else
    let (fields, processed, ar, read) :=
      sortTxExtraLoop txExtra.length txExtra.length (InputArchive.ofBytes txExtra) [] 0
    if !read && !allowPartial then none
    else if !(ar.good && ar.eof) && !allowPartial then none
    else
      match sortTxExtraOrder.foldlM (fun (acc : OutputArchive × List TxExtraField) p =>
          pick p.1 p.2 acc.1 acc.2) (OutputArchive.empty, fields) with
      | none => none
      | some (nar, fields) =>
        -- a field of a type that no pick takes
        if !fields.isEmpty then none
        else
          some (nar.out ++
            if allowPartial && processed < txExtra.length then txExtra.drop processed else [])

/-- The loop of `remove_field_from_tx_extra`: each field read that is not of the type is written
to the new stream, whether the write succeeds or not. -/
def removeFieldLoop (type : TxExtraFieldType) :
    Nat → InputArchive → OutputArchive → Option (InputArchive × OutputArchive)
  | 0, _, _ => none
  | fuel + 1, ar, newar =>
    match readTxExtraField ar with
    | (_, none) => none
    | (ar, some field) =>
      let newar := if field.type ≠ type then (writeTxExtraField newar field).1 else newar
      if !ar.eof then removeFieldLoop type fuel ar newar else some (ar, newar)

/-- `remove_field_from_tx_extra(tx_extra, type)`: what it returns and the extra it leaves, which
is the one given when it returns `false`. -/
def removeFieldFromTxExtra (txExtra : List UInt8) (type : TxExtraFieldType) : Bool × List UInt8 :=
  if txExtra.isEmpty then (true, txExtra)
  else
    match removeFieldLoop type txExtra.length (InputArchive.ofBytes txExtra) OutputArchive.empty with
    | none => (false, txExtra)
    | some (ar, newar) => if !(ar.good && ar.eof) then (false, txExtra) else (true, newar.out)

end Sumokoin.Basic
