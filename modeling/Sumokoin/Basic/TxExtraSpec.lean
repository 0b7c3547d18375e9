import Sumokoin.Basic.TxExtra
import Sumokoin.Serialization.BinaryArchiveSpec

/-! The writers of the extra field against its parser. A field that the variant writes is read
back whatever follows it, and a list of fields with a padding at most at its end is parsed back
from its serialization; so is such an extra with a public key or additional public keys appended.
`add_extra_nonce_to_tx_extra` writes the size of the nonce as one raw byte, which the parser reads
as a varint: with a nonce of 128 bytes or more the extra no longer parses. And the parser accepts
a size that the end of the extra cuts off, after which no field appended is read. -/

namespace Sumokoin.Basic

open Sumokoin.Serialization Sumokoin.Tools

/-- What `do_serialize` writes of a field after its tag. -/
def TxExtraField.body : TxExtraField → List UInt8
  | .padding size => List.replicate (size - 1) 0
  | .pubKey key => key.toList
  | .nonce extraNonce => writeVarint extraNonce.length ++ extraNonce
  | .mergeMiningTag depth merkleRoot =>
    writeVarint (writeVarint depth ++ merkleRoot.toList).length ++
      (writeVarint depth ++ merkleRoot.toList)
  | .additionalPubKeys data => writeVarint data.length ++ data.flatMap Vector.toList
  | .mysteriousMinergate data => writeVarint data.length ++ data

/-- A field as the variant writes it: its tag, then its body. -/
def TxExtraField.bytes (field : TxExtraField) : List UInt8 := field.tag :: field.body

/-- The bounds within which a field is written and read back: a padding of one to
`TX_EXTRA_PADDING_MAX_COUNT` bytes with its tag, a nonce of at most `TX_EXTRA_NONCE_MAX_COUNT`
bytes, and every size and the depth a `size_t`. -/
def TxExtraField.WithinLimits : TxExtraField → Prop
  | .padding size => 1 ≤ size ∧ size ≤ txExtraPaddingMaxCount
  | .pubKey _ => True
  | .nonce extraNonce => extraNonce.length ≤ txExtraNonceMaxCount
  | .mergeMiningTag depth _ => depth < 2 ^ 64
  | .additionalPubKeys data => data.length < 2 ^ 64
  | .mysteriousMinergate data => data.length < 2 ^ 64

instance (field : TxExtraField) : Decidable field.WithinLimits := by
  cases field <;> unfold TxExtraField.WithinLimits <;> infer_instance

def TxExtraField.isPadding : TxExtraField → Bool
  | .padding _ => true
  | _ => false

/-- A list of fields that the parser reads back: each within its bounds, and a padding, which runs
to the end of the extra, only last. -/
def WellFormedFields (fields : List TxExtraField) : Prop :=
  (∀ field ∈ fields, field.WithinLimits) ∧ ∀ field ∈ fields.dropLast, field.isPadding = false

instance (fields : List TxExtraField) : Decidable (WellFormedFields fields) := by
  unfold WellFormedFields
  infer_instance

/-- The binary serialization of a list of fields: `do_serialize` of each as a `tx_extra_field`, in
turn on one stream. -/
def serializeTxExtraFields (fields : List TxExtraField) : OutputArchive × Bool :=
  fields.foldl (fun (acc : OutputArchive × Bool) field =>
    ((writeTxExtraField acc.1 field).1, acc.2 && (writeTxExtraField acc.1 field).2))
    (OutputArchive.empty, true)

/-! ### Writing -/

/-- The zeros of a padding, one per turn of the loop. -/
theorem foldl_serializeUint8_zero (out : List UInt8) (start count : Nat) :
    (List.range' start count).foldl (fun ar _ => ar.serializeUint8 0) (⟨out, true⟩ : OutputArchive) =
      ⟨out ++ List.replicate count 0, true⟩ := by
  induction count generalizing start out with
  | zero => simp
  | succ count ih =>
    rw [List.range'_succ, List.foldl_cons,
      show (⟨out, true⟩ : OutputArchive).serializeUint8 0 = ⟨out ++ [0], true⟩ from rfl, ih,
      List.append_assoc, List.replicate_succ]
    rfl

/-- A field within its bounds is written whole to a good stream, which stays good. -/
theorem writeFieldBody_good (out : List UInt8) {field : TxExtraField}
    (limits : field.WithinLimits) :
    writeFieldBody ⟨out, true⟩ field = (⟨out ++ field.body, true⟩, true) := by
  cases field with
  | padding size =>
    have fits : ¬txExtraPaddingMaxCount < size := Nat.not_lt.mpr limits.2
    rw [writeFieldBody, writePadding, if_neg fits, foldl_serializeUint8_zero]
    rfl
  | pubKey key => rfl
  | nonce extraNonce =>
    have fits : ¬txExtraNonceMaxCount < extraNonce.length := Nat.not_lt.mpr limits
    simp only [writeFieldBody, writeNonce, OutputArchive.writeString_good, Bool.not_true,
      Bool.false_eq_true, if_false, if_neg fits, TxExtraField.body, List.append_assoc]
  | mergeMiningTag depth merkleRoot =>
    simp only [writeFieldBody, writeMergeMiningTag, OutputArchive.empty,
      OutputArchive.serializeVarint, OutputArchive.put_good, OutputArchive.serializeBlob,
      List.nil_append, Bool.not_true, Bool.false_eq_true, if_false,
      OutputArchive.writeString_good, TxExtraField.body, List.append_assoc]
  | additionalPubKeys data =>
    simp only [writeFieldBody, writeAdditionalPubKeys, OutputArchive.writeKeyVector_good,
      Bool.and_self, TxExtraField.body, List.append_assoc]
  | mysteriousMinergate data =>
    simp only [writeFieldBody, writeMysteriousMinergate, OutputArchive.writeString_good,
      TxExtraField.body, List.append_assoc]

theorem writeTxExtraField_good (out : List UInt8) {field : TxExtraField}
    (limits : field.WithinLimits) :
    writeTxExtraField ⟨out, true⟩ field = (⟨out ++ field.bytes, true⟩, true) := by
  rw [writeTxExtraField, show (⟨out, true⟩ : OutputArchive).serializeUint8 field.tag =
    ⟨out ++ [field.tag], true⟩ from rfl, writeFieldBody_good _ limits]
  simp [TxExtraField.bytes]

/-- Fields within their bounds are serialized to their bytes, one after the other. -/
theorem serializeTxExtraFields_eq {fields : List TxExtraField}
    (limits : ∀ field ∈ fields, field.WithinLimits) :
    serializeTxExtraFields fields = (⟨fields.flatMap TxExtraField.bytes, true⟩, true) := by
  -- the fold from any good stream appends the bytes of the fields
  have fold : ∀ (fields : List TxExtraField) (out : List UInt8),
      (∀ field ∈ fields, field.WithinLimits) →
      fields.foldl (fun (acc : OutputArchive × Bool) field =>
        ((writeTxExtraField acc.1 field).1, acc.2 && (writeTxExtraField acc.1 field).2))
        (⟨out, true⟩, true) = (⟨out ++ fields.flatMap TxExtraField.bytes, true⟩, true) := by
    intro fields
    induction fields with
    | nil => intro out _; simp
    | cons field fields ih =>
      intro out limits
      rw [List.foldl_cons, writeTxExtraField_good out (limits field List.mem_cons_self)]
      simp only [Bool.and_self]
      rw [ih _ (fun f mem => limits f (List.mem_cons_of_mem _ mem)), List.flatMap_cons,
        List.append_assoc]
  exact fold fields [] limits

/-! ### Reading what was written -/

/-- Zeros up to the end, from the turn at `size` with at least as many turns left. -/
theorem readPaddingFrom_zeros (count : Nat) :
    ∀ left size, count ≤ left → size + count ≤ txExtraPaddingMaxCount →
      readPaddingFrom left size ⟨List.replicate count 0, true⟩ = (⟨[], true⟩, some (size + count)) := by
  induction count with
  | zero =>
    intro left size _ fits
    rw [Nat.add_zero] at fits ⊢
    cases left <;> simp [readPaddingFrom, InputArchive.eof, fits]
  | succ count ih =>
    intro left size room fits
    obtain ⟨left, rfl⟩ : ∃ turns, left = turns + 1 := ⟨left - 1, by omega⟩
    rw [readPaddingFrom, List.replicate_succ]
    simp only [InputArchive.eof, List.isEmpty_cons, Bool.false_eq_true, if_false,
      InputArchive.serializeUint8_cons, ne_eq, not_true_eq_false]
    rw [ih left (size + 1) (by omega) (by omega), Nat.add_right_comm, Nat.add_assoc]

theorem readPubKey_append (key : Vector UInt8 32) (rest : List UInt8) :
    readPubKey ⟨key.toList ++ rest, true⟩ = (⟨rest, true⟩, some key) := by
  simp [readPubKey, InputArchive.serializeKey_append]

theorem readNonce_append {extraNonce : List UInt8} (limits : extraNonce.length ≤ txExtraNonceMaxCount)
    (rest : List UInt8) :
    readNonce ⟨writeVarint extraNonce.length ++ (extraNonce ++ rest), true⟩ =
      (⟨rest, true⟩, some extraNonce) := by
  have word : extraNonce.length < 2 ^ 64 := lt_of_le_of_lt limits (by decide)
  rw [← List.append_assoc, readNonce, InputArchive.readString_writeString word]
  simp only [Bool.not_true, Bool.false_eq_true, if_false, if_neg (Nat.not_lt.mpr limits)]

/-- The string of a merge mining tag holds the varint depth and the merkle root, to its end. -/
theorem readMergeMiningTag_append {depth : Nat} (word : depth < 2 ^ 64) (merkleRoot : Vector UInt8 32)
    (rest : List UInt8) :
    readMergeMiningTag ⟨(TxExtraField.mergeMiningTag depth merkleRoot).body ++ rest, true⟩ =
      (⟨rest, true⟩, some (depth, merkleRoot)) := by
  have short : (writeVarint depth ++ merkleRoot.toList).length < 2 ^ 64 := by
    have := length_writeVarint_le (k := 10) (by decide) depth
      (lt_of_lt_of_le word (Nat.pow_le_pow_right (by norm_num) (by norm_num)))
    simp only [List.length_append, Vector.length_toList]
    omega
  have inner := InputArchive.serializeVarint_writeVarint word merkleRoot.toList true
  have root := InputArchive.serializeKey_append merkleRoot [] true
  rw [List.append_nil] at root
  rw [TxExtraField.body, readMergeMiningTag, InputArchive.readString_writeString short]
  simp only [InputArchive.ofBytes, inner, root, Bool.not_true, Bool.false_eq_true, if_false,
    InputArchive.eof, List.isEmpty_nil, Bool.and_self, if_true]

theorem readAdditionalPubKeys_append {data : List (Vector UInt8 32)} (word : data.length < 2 ^ 64)
    (rest : List UInt8) :
    readAdditionalPubKeys ⟨writeVarint data.length ++ (data.flatMap Vector.toList ++ rest), true⟩ =
      (⟨rest, true⟩, some data) := by
  rw [← List.append_assoc, readAdditionalPubKeys, InputArchive.readKeyVector_append word]
  simp

theorem readMysteriousMinergate_append {data : List UInt8} (word : data.length < 2 ^ 64)
    (rest : List UInt8) :
    readMysteriousMinergate ⟨writeVarint data.length ++ (data ++ rest), true⟩ =
      (⟨rest, true⟩, some data) := by
  rw [← List.append_assoc, readMysteriousMinergate, InputArchive.readString_writeString word]
  simp

/-- A field other than a padding, within its bounds, is read back whatever follows it. -/
theorem readTxExtraField_bytes {field : TxExtraField} (limits : field.WithinLimits)
    (notPadding : field.isPadding = false) (rest : List UInt8) :
    readTxExtraField ⟨field.bytes ++ rest, true⟩ = (⟨rest, true⟩, some field) := by
  cases field with
  | padding size => simp [TxExtraField.isPadding] at notPadding
  | pubKey key =>
    simp [readTxExtraField, TxExtraField.bytes, TxExtraField.tag, TxExtraField.body, readCase,
      readPubKey_append, txExtraTagPubkey, txExtraTagPadding]
  | nonce extraNonce =>
    simp [readTxExtraField, TxExtraField.bytes, TxExtraField.tag, TxExtraField.body, readCase,
      readNonce_append limits, txExtraNonce, txExtraTagPubkey, txExtraTagPadding]
  | mergeMiningTag depth merkleRoot =>
    simp [readTxExtraField, TxExtraField.bytes, TxExtraField.tag, readCase,
      readMergeMiningTag_append limits, txExtraMergeMiningTag, txExtraNonce, txExtraTagPubkey,
      txExtraTagPadding]
  | additionalPubKeys data =>
    simp [readTxExtraField, TxExtraField.bytes, TxExtraField.tag, TxExtraField.body, readCase,
      readAdditionalPubKeys_append limits, txExtraTagAdditionalPubkeys, txExtraMergeMiningTag,
      txExtraNonce, txExtraTagPubkey, txExtraTagPadding]
  | mysteriousMinergate data =>
    simp [readTxExtraField, TxExtraField.bytes, TxExtraField.tag, TxExtraField.body, readCase,
      readMysteriousMinergate_append limits, txExtraMysteriousMinergateTag,
      txExtraTagAdditionalPubkeys, txExtraMergeMiningTag, txExtraNonce, txExtraTagPubkey,
      txExtraTagPadding]

/-- A padding within its bounds is read back when nothing follows it. -/
theorem readTxExtraField_padding {size : Nat} (limits : (TxExtraField.padding size).WithinLimits) :
    readTxExtraField ⟨(TxExtraField.padding size).bytes, true⟩ =
      (⟨[], true⟩, some (.padding size)) := by
  obtain ⟨least, most⟩ := limits
  have zeros := readPaddingFrom_zeros (size - 1) txExtraPaddingMaxCount 1
    (by unfold txExtraPaddingMaxCount at most ⊢; omega) (by omega)
  rw [show 1 + (size - 1) = size by omega] at zeros
  simp [readTxExtraField, TxExtraField.bytes, TxExtraField.tag, TxExtraField.body, readCase,
    readPadding, zeros, txExtraTagPadding]

/-- A string whose size fails to load, or leaves the archive failed, fails the nonce. -/
theorem readNonce_of_bad {ar : InputArchive}
    (bad : ar.readString.2 = none ∨ ar.readString.1.good = false) : (readNonce ar).2 = none := by
  unfold readNonce
  rcases read : ar.readString with ⟨next, _ | str⟩
  · rfl
  · rw [read] at bad
    simp only [reduceCtorEq, false_or] at bad
    simp [bad]

/-- A nonce whose size is one raw byte of 128 or more fails to load, unless the nonce is too short
for the varint the size starts to run to its end. -/
theorem readTxExtraField_rawSize {size : UInt8} {str : List UInt8} (high : 128 ≤ size.toNat)
    (long : 9 ≤ str.length) (short : str.length ≤ size.toNat) :
    (readTxExtraField ⟨txExtraNonce :: size :: str, true⟩).2 = none := by
  have fails := readNonce_of_bad (InputArchive.readString_of_rawSize high long short)
  revert fails
  simp only [readTxExtraField, InputArchive.serializeUint8_cons, txExtraNonce, txExtraTagPubkey,
    txExtraTagPadding]
  simp only [readCase]
  rcases readNonce ⟨size :: str, true⟩ with ⟨next, _ | nonce⟩ <;> simp

/-! ### Parsing what was written -/

theorem TxExtraField.bytes_ne_nil (field : TxExtraField) : field.bytes ≠ [] := List.cons_ne_nil _ _

theorem length_le_length_flatMap_bytes (fields : List TxExtraField) :
    fields.length ≤ (fields.flatMap TxExtraField.bytes).length := by
  induction fields with
  | nil => simp
  | cons field fields ih =>
    simp only [List.flatMap_cons, List.length_append, List.length_cons, TxExtraField.bytes]
    omega

/-- A field that fails to load ends the parse. -/
theorem parseTxExtraLoop_of_none {ar : InputArchive} (fails : (readTxExtraField ar).2 = none)
    (fuel : Nat) (fields : List TxExtraField) : parseTxExtraLoop (fuel + 1) ar fields = none := by
  rw [parseTxExtraLoop]
  rcases read : readTxExtraField ar with ⟨next, _ | field⟩
  · rfl
  · rw [read] at fails
    exact absurd fails (by simp)

/-- The parse reads the fields other than a padding one by one, whatever follows them. -/
theorem parseTxExtraLoop_append {fields : List TxExtraField}
    (plain : ∀ field ∈ fields, field.WithinLimits ∧ field.isPadding = false) {rest : List UInt8}
    (nonempty : rest ≠ []) :
    ∀ fuel parsed, fields.length ≤ fuel →
      parseTxExtraLoop fuel ⟨fields.flatMap TxExtraField.bytes ++ rest, true⟩ parsed =
        parseTxExtraLoop (fuel - fields.length) ⟨rest, true⟩ (parsed ++ fields) := by
  induction fields with
  | nil => intro fuel parsed _; simp
  | cons field fields ih =>
    intro fuel parsed room
    obtain ⟨fuel, rfl⟩ : ∃ turns, fuel = turns + 1 := ⟨fuel - 1, by simp at room; omega⟩
    have first := plain field List.mem_cons_self
    rw [List.flatMap_cons, List.append_assoc, parseTxExtraLoop,
      readTxExtraField_bytes first.1 first.2]
    -- more bytes follow the field, so the loop goes on
    have more : (fields.flatMap TxExtraField.bytes ++ rest).isEmpty = false := by
      simp [nonempty]
    simp only [InputArchive.eof, more, Bool.not_false, if_true]
    rw [ih (fun f mem => plain f (List.mem_cons_of_mem _ mem)) fuel _ (by simp at room; omega)]
    simp

/-- The last field, a padding or not, ends the parse. -/
theorem parseTxExtraLoop_last {field : TxExtraField} (limits : field.WithinLimits) (fuel : Nat)
    (parsed : List TxExtraField) :
    parseTxExtraLoop (fuel + 1) ⟨field.bytes, true⟩ parsed = some (parsed ++ [field]) := by
  have read : readTxExtraField ⟨field.bytes, true⟩ = (⟨[], true⟩, some field) := by
    cases padding : field.isPadding
    · simpa using readTxExtraField_bytes limits padding []
    · cases field <;> simp [TxExtraField.isPadding] at padding
      exact readTxExtraField_padding limits
  rw [parseTxExtraLoop, read]
  rfl

/-- A list of fields with a padding at most at its end is parsed back from its bytes. -/
theorem parseTxExtra_flatMap_bytes {fields : List TxExtraField} (wellFormed : WellFormedFields fields) :
    parseTxExtra (fields.flatMap TxExtraField.bytes) = some fields := by
  rcases List.eq_nil_or_concat fields with rfl | ⟨init, last, rfl⟩
  · rfl
  · rw [List.concat_eq_append] at wellFormed ⊢
    obtain ⟨limits, notPadding⟩ := wellFormed
    rw [List.dropLast_concat] at notPadding
    have plain : ∀ field ∈ init, field.WithinLimits ∧ field.isPadding = false := fun field mem =>
      ⟨limits field (List.mem_append_left _ mem), notPadding field mem⟩
    have room := length_le_length_flatMap_bytes init
    have total : (init.flatMap TxExtraField.bytes ++ last.bytes).length =
        (init.flatMap TxExtraField.bytes).length + last.body.length + 1 := by
      simp [TxExtraField.bytes]
      omega
    rw [List.flatMap_append, List.flatMap_singleton, parseTxExtra,
      if_neg (by simp [TxExtraField.bytes]), InputArchive.ofBytes, parseTxExtraLoop_append plain (TxExtraField.bytes_ne_nil last) _ [] (by omega),
      total, show (init.flatMap TxExtraField.bytes).length + last.body.length + 1 - init.length =
        (init.flatMap TxExtraField.bytes).length - init.length + last.body.length + 1 by omega,
      parseTxExtraLoop_last (limits last (List.mem_append_right _ List.mem_cons_self))]
    simp

/-! ### What the parser accepts -/

/-- A padding read from the turn at `size`, with the turns left up to `TX_EXTRA_PADDING_MAX_COUNT`,
is at least `size` and at most that count, and runs to the end. -/
theorem readPaddingFrom_some : ∀ (left size : Nat) (ar : InputArchive) {padding : Nat},
    size + left = txExtraPaddingMaxCount + 1 → (readPaddingFrom left size ar).2 = some padding →
      size ≤ padding ∧ padding ≤ txExtraPaddingMaxCount ∧ (readPaddingFrom left size ar).1.eof = true
  | 0, size, ar, padding, turns, read => by
    -- the loop ran out of turns past the count
    unfold txExtraPaddingMaxCount at turns
    simp [readPaddingFrom, txExtraPaddingMaxCount, show ¬size ≤ 255 by omega] at read
  | left + 1, size, ar, padding, turns, read => by
    unfold readPaddingFrom at read ⊢
    by_cases atEnd : ar.eof = true
    · rw [if_pos atEnd] at read ⊢
      simp only [Option.ite_none_right_eq_some, Option.some.injEq] at read
      exact ⟨by omega, by omega, atEnd⟩
    · rw [if_neg atEnd] at read ⊢
      rcases byte : ar.serializeUint8 with ⟨after, zero⟩
      simp only [byte] at read ⊢
      -- a byte that is not zero fails the padding
      split_ifs at read ⊢ with nonzero
      exact (readPaddingFrom_some left (size + 1) after (by omega) read).imp_left (by omega)

theorem readCase_eq_some {α : Type} {read : InputArchive → InputArchive × Option α}
    {field : α → TxExtraField} {ar next : InputArchive} {result : TxExtraField}
    (case : readCase read field ar = (next, some result)) :
    ∃ x, read ar = (next, some x) ∧ result = field x := by
  unfold readCase at case
  rcases h : read ar with ⟨after, _ | x⟩ <;> rw [h] at case
  · simp at case
  · simp only [Prod.mk.injEq, Option.some.injEq] at case
    exact ⟨x, by rw [case.1], case.2.symm⟩

theorem readNonce_limits {ar next : InputArchive} {extraNonce : List UInt8}
    (read : readNonce ar = (next, some extraNonce)) : extraNonce.length ≤ txExtraNonceMaxCount := by
  unfold readNonce at read
  rcases h : ar.readString with ⟨after, _ | str⟩ <;> simp only [h] at read
  · simp at read
  · -- past the checks of the flag and of the size
    split_ifs at read with bad long
    · simp at read
    · simp at read
    · rw [← (Option.some.inj (Prod.mk.inj read).2)]
      exact Nat.not_lt.mp long

theorem readMergeMiningTag_limits {ar next : InputArchive} {tag : Nat × Vector UInt8 32}
    (read : readMergeMiningTag ar = (next, some tag)) : tag.1 < 2 ^ 64 := by
  unfold readMergeMiningTag at read
  rcases h : ar.readString with ⟨after, _ | field⟩ <;> simp only [h] at read
  · simp at read
  · -- the depth was read with the inner archive left good
    rcases depth : (InputArchive.ofBytes field).serializeVarint with ⟨inner, d⟩
    have bound := InputArchive.serializeVarint_lt (InputArchive.ofBytes field)
    rw [depth] at bound
    simp only [depth] at read
    split_ifs at read with bad badRoot finished
    · simp at read
    · simp at read
    · simp only [Bool.not_eq_true', Bool.not_eq_false] at bad
      simp only [Prod.mk.injEq, Option.some.injEq] at read
      rw [← read.2]
      exact bound bad
    · simp at read

theorem readAdditionalPubKeys_limits {ar next : InputArchive} {data : List (Vector UInt8 32)}
    (read : readAdditionalPubKeys ar = (next, some data)) : data.length < 2 ^ 64 := by
  unfold readAdditionalPubKeys at read
  rcases h : ar.readKeyVector with ⟨after, _ | keys⟩ <;> simp only [h] at read
  · simp at read
  · simp only [Prod.mk.injEq, Option.ite_none_right_eq_some, Option.some.injEq] at read
    rw [← read.2.2]
    exact InputArchive.length_readKeyVector_lt (by rw [h])

theorem readMysteriousMinergate_limits {ar next : InputArchive} {data : List UInt8}
    (read : readMysteriousMinergate ar = (next, some data)) : data.length < 2 ^ 64 := by
  unfold readMysteriousMinergate at read
  rcases h : ar.readString with ⟨after, _ | str⟩ <;> simp only [h] at read
  · simp at read
  · simp only [Prod.mk.injEq, Option.ite_none_right_eq_some, Option.some.injEq] at read
    rw [← read.2.2]
    exact InputArchive.length_readString_lt (by rw [h]) (by rw [h]; exact read.2.1)

/-- Every field the parser reads is within its bounds, and a padding runs to the end. -/
theorem readTxExtraField_some {ar next : InputArchive} {field : TxExtraField}
    (read : readTxExtraField ar = (next, some field)) :
    field.WithinLimits ∧ (field.isPadding = true → next.eof = true) := by
  unfold readTxExtraField at read
  rcases tag : ar.serializeUint8 with ⟨after, t⟩
  simp only [tag] at read
  split_ifs at read
  · obtain ⟨padding, padded, rfl⟩ := readCase_eq_some read
    have zeros : readPaddingFrom txExtraPaddingMaxCount 1 after = (next, some padding) := padded
    have bounds := readPaddingFrom_some txExtraPaddingMaxCount 1 after rfl (by rw [zeros])
    rw [zeros] at bounds
    exact ⟨⟨bounds.1, bounds.2.1⟩, fun _ => bounds.2.2⟩
  · obtain ⟨key, -, rfl⟩ := readCase_eq_some read
    exact ⟨trivial, by simp [TxExtraField.isPadding]⟩
  · obtain ⟨extraNonce, nonceRead, rfl⟩ := readCase_eq_some read
    exact ⟨readNonce_limits nonceRead, by simp [TxExtraField.isPadding]⟩
  · obtain ⟨mergeMiningTag, tagRead, rfl⟩ := readCase_eq_some read
    exact ⟨readMergeMiningTag_limits tagRead, by simp [TxExtraField.isPadding]⟩
  · obtain ⟨data, keysRead, rfl⟩ := readCase_eq_some read
    exact ⟨readAdditionalPubKeys_limits keysRead, by simp [TxExtraField.isPadding]⟩
  · obtain ⟨data, dataRead, rfl⟩ := readCase_eq_some read
    exact ⟨readMysteriousMinergate_limits dataRead, by simp [TxExtraField.isPadding]⟩
  · simp at read

/-- What the loop parses is well formed: a padding ends it. -/
theorem parseTxExtraLoop_wellFormed : ∀ (fuel : Nat) (ar : InputArchive) (parsed : List TxExtraField)
    {fields : List TxExtraField}, (∀ field ∈ parsed, field.WithinLimits ∧ field.isPadding = false) →
      parseTxExtraLoop fuel ar parsed = some fields → WellFormedFields fields
  | 0, _, _, _, _, parse => by simp [parseTxExtraLoop] at parse
  | fuel + 1, ar, parsed, fields, plain, parse => by
    unfold parseTxExtraLoop at parse
    rcases read : readTxExtraField ar with ⟨next, _ | field⟩ <;> rw [read] at parse
    · simp at parse
    · obtain ⟨limits, ends⟩ := readTxExtraField_some read
      simp only at parse
      split_ifs at parse with more good
      · -- not at the end, so not a padding
        have notPadding : field.isPadding = false := by
          cases padding : field.isPadding
          · rfl
          · simp [ends padding] at more
        refine parseTxExtraLoop_wellFormed fuel next _ (fun f mem => ?_) parse
        rcases List.mem_append.mp mem with old | new
        · exact plain f old
        · rw [List.mem_singleton.mp new]; exact ⟨limits, notPadding⟩
      · rw [← Option.some.inj parse]
        refine ⟨fun f mem => ?_, fun f mem => ?_⟩
        · rcases List.mem_append.mp mem with old | new
          · exact (plain f old).1
          · rw [List.mem_singleton.mp new]; exact limits
        · rw [List.dropLast_concat] at mem
          exact (plain f mem).2

theorem parseTxExtra_wellFormed {txExtra : List UInt8} {fields : List TxExtraField}
    (parse : parseTxExtra txExtra = some fields) : WellFormedFields fields := by
  unfold parseTxExtra at parse
  split_ifs at parse
  · rw [← Option.some.inj parse]
    exact ⟨by simp, by simp⟩
  · exact parseTxExtraLoop_wellFormed _ _ [] (by simp) parse

/-- The fields parsed before do not change what the loop reads. -/
theorem parseTxExtraLoop_parsed : ∀ (fuel : Nat) (ar : InputArchive) (parsed : List TxExtraField),
    parseTxExtraLoop fuel ar parsed = (parseTxExtraLoop fuel ar []).map (parsed ++ ·)
  | 0, _, _ => rfl
  | fuel + 1, ar, parsed => by
    unfold parseTxExtraLoop
    rcases readTxExtraField ar with ⟨next, _ | field⟩
    · rfl
    · simp only
      split_ifs
      · rw [parseTxExtraLoop_parsed fuel next (parsed ++ [field]),
          parseTxExtraLoop_parsed fuel next ([] ++ [field]), Option.map_map]
        congr 1
        funext rest
        simp
      · simp
      · rfl

/-! ### The writers that append a field -/

theorem addTxPubKeyToExtra_eq (txExtra : List UInt8) (txPubKey : Vector UInt8 32) :
    addTxPubKeyToExtra txExtra txPubKey = txExtra ++ (TxExtraField.pubKey txPubKey).bytes := rfl

theorem addAdditionalTxPubKeysToExtra_eq (txExtra : List UInt8)
    {additionalPubKeys : List (Vector UInt8 32)} (word : additionalPubKeys.length < 2 ^ 64) :
    addAdditionalTxPubKeysToExtra txExtra additionalPubKeys =
      some (txExtra ++ (TxExtraField.additionalPubKeys additionalPubKeys).bytes) := by
  have written := @writeTxExtraField_good [] (.additionalPubKeys additionalPubKeys) word
  simp only [addAdditionalTxPubKeysToExtra, OutputArchive.empty, written]
  rfl

/-- A nonce below 128 bytes: its size as one byte is its size as a varint. -/
theorem addExtraNonceToTxExtra_of_lt (txExtra : List UInt8) {extraNonce : List UInt8}
    (short : extraNonce.length < 128) :
    addExtraNonceToTxExtra txExtra extraNonce =
      some (txExtra ++ (TxExtraField.nonce extraNonce).bytes) := by
  have limits : extraNonce.length ≤ txExtraNonceMaxCount := by
    unfold txExtraNonceMaxCount
    omega
  rw [addExtraNonceToTxExtra, if_neg (not_not.mpr limits), TxExtraField.bytes, TxExtraField.body,
    writeVarint_of_lt short]
  rfl

/-- The extra of some fields, with a nonce of 128 bytes or more appended, does not parse. -/
theorem parseTxExtra_rawNonce {fields : List TxExtraField}
    (plain : ∀ field ∈ fields, field.WithinLimits ∧ field.isPadding = false)
    {extraNonce : List UInt8} (long : 128 ≤ extraNonce.length)
    (limits : extraNonce.length ≤ txExtraNonceMaxCount) :
    parseTxExtra (fields.flatMap TxExtraField.bytes ++
      txExtraNonce :: extraNonce.length.toUInt8 :: extraNonce) = none := by
  have size : extraNonce.length.toUInt8.toNat = extraNonce.length := by
    unfold txExtraNonceMaxCount at limits
    rw [Nat.toUInt8, UInt8.toNat_ofNat']
    omega
  have room := length_le_length_flatMap_bytes fields
  rw [parseTxExtra, if_neg (by simp), InputArchive.ofBytes,
    parseTxExtraLoop_append plain (List.cons_ne_nil _ _) _ [] (by simp only [List.length_append]; omega),
    show (fields.flatMap TxExtraField.bytes ++ txExtraNonce :: extraNonce.length.toUInt8 ::
      extraNonce).length - fields.length =
        (fields.flatMap TxExtraField.bytes).length - fields.length + extraNonce.length + 1 + 1 by
      simp only [List.length_append, List.length_cons]; omega]
  exact parseTxExtraLoop_of_none (readTxExtraField_rawSize (by omega) (by omega) (by omega)) _ _

/-- The writers of the extra field against its parser. The serialization of a list of fields with
a padding at most at its end parses back to the list. To the extra of fields without a padding,
`add_tx_pub_key_to_extra` and `add_additional_tx_pub_keys_to_extra` append a field that the parser
reads after them, and so does `add_extra_nonce_to_tx_extra` for a nonce below 128 bytes; a nonce
of 128 to `TX_EXTRA_NONCE_MAX_COUNT` bytes, which it accepts, makes the extra fail to parse. The
parser accepts the extra of a nonce whose size the end cuts off, and no public key appended to it
is read. -/
theorem txExtra_writers_parse :
    (∀ fields, WellFormedFields fields →
      serializeTxExtraFields fields = (⟨fields.flatMap TxExtraField.bytes, true⟩, true) ∧
        parseTxExtra (serializeTxExtraFields fields).1.out = some fields) ∧
    (∀ fields : List TxExtraField, (∀ field ∈ fields, field.WithinLimits ∧ field.isPadding = false) →
      (∀ txPubKey, parseTxExtra (addTxPubKeyToExtra (fields.flatMap TxExtraField.bytes) txPubKey) =
        some (fields ++ [.pubKey txPubKey])) ∧
      (∀ additionalPubKeys : List (Vector UInt8 32), additionalPubKeys.length < 2 ^ 64 →
        ∃ txExtra, addAdditionalTxPubKeysToExtra (fields.flatMap TxExtraField.bytes)
            additionalPubKeys = some txExtra ∧
          parseTxExtra txExtra = some (fields ++ [.additionalPubKeys additionalPubKeys])) ∧
      (∀ extraNonce : List UInt8, extraNonce.length ≤ txExtraNonceMaxCount →
        ∃ txExtra, addExtraNonceToTxExtra (fields.flatMap TxExtraField.bytes) extraNonce =
            some txExtra ∧
          (extraNonce.length < 128 → parseTxExtra txExtra = some (fields ++ [.nonce extraNonce])) ∧
          (128 ≤ extraNonce.length → parseTxExtra txExtra = none))) ∧
    parseTxExtra [txExtraNonce, 0x80] = some [.nonce []] ∧
    ∀ txPubKey, parseTxExtra (addTxPubKeyToExtra [txExtraNonce, 0x80] txPubKey) = none := by
  refine ⟨fun fields wellFormed => ?serialized, fun fields plain => ?appended, rfl, ?cutOff⟩
  case serialized =>
    have written := serializeTxExtraFields_eq wellFormed.1
    exact ⟨written, by rw [written]; exact parseTxExtra_flatMap_bytes wellFormed⟩
  case appended =>
    -- each writer appends one more field within its bounds, and no padding
    have appended : ∀ field : TxExtraField, field.WithinLimits → field.isPadding = false →
        parseTxExtra (fields.flatMap TxExtraField.bytes ++ field.bytes) = some (fields ++ [field]) := by
      intro field limits notPadding
      have wellFormed : WellFormedFields (fields ++ [field]) := by
        refine ⟨fun f mem => ?_, fun f mem => ?_⟩
        · rcases List.mem_append.mp mem with old | new
          · exact (plain f old).1
          · rw [List.mem_singleton.mp new]; exact limits
        · rw [List.dropLast_concat] at mem
          exact (plain f mem).2
      simpa [List.flatMap_append] using parseTxExtra_flatMap_bytes wellFormed
    refine ⟨fun txPubKey => ?_, fun additionalPubKeys word => ?_, fun extraNonce limits => ?_⟩
    · rw [addTxPubKeyToExtra_eq]
      exact appended _ trivial rfl
    · exact ⟨_, addAdditionalTxPubKeysToExtra_eq _ word, appended _ word rfl⟩
    · refine ⟨_, by rw [addExtraNonceToTxExtra, if_neg (not_not.mpr limits)], fun short => ?_,
        fun long => parseTxExtra_rawNonce plain long limits⟩
      have added := addExtraNonceToTxExtra_of_lt (fields.flatMap TxExtraField.bytes) short
      rw [addExtraNonceToTxExtra, if_neg (not_not.mpr limits), Option.some.injEq] at added
      rw [added]
      exact appended _ limits rfl
  case cutOff =>
    -- the size 0x80 runs on into the tag and the key: 128 bytes that the 33 left do not cover
    intro txPubKey
    rw [parseTxExtra, if_neg (by simp [addTxPubKeyToExtra]), InputArchive.ofBytes]
    exact parseTxExtraLoop_of_none
      (@readTxExtraField_rawSize 0x80 (txExtraTagPubkey :: txPubKey.toList) (by decide)
        (by simp) (by simp)) _ _

/-- The empty extra with a nonce of 128 bytes appended, which `add_extra_nonce_to_tx_extra`
accepts, does not parse. -/
theorem txExtra_writers_parse_longNonce :
    ∃ txExtra, addExtraNonceToTxExtra [] (List.replicate 128 7) = some txExtra ∧
      parseTxExtra txExtra = none := by
  obtain ⟨txExtra, added, -, long⟩ :=
    (txExtra_writers_parse.2.1 [] (by simp)).2.2 (List.replicate 128 7)
      (by simp [txExtraNonceMaxCount])
  exact ⟨txExtra, added, long (by simp)⟩

end Sumokoin.Basic
