import Sumokoin.Basic.TxExtraSpec

/-! `sort_tx_extra` and `remove_field_from_tx_extra` on the fields they parse. Both read the extra
with the loop of `parse_tx_extra` and fail where it fails; on an extra it accepts, `sort_tx_extra`
writes its fields back by class, each class in the order of the extra, and
`remove_field_from_tx_extra` writes back those not of the type removed. The fields the parser
reads are within their bounds and have a padding only last, so what the two write parses back. -/

namespace Sumokoin.Basic

open Sumokoin.Serialization

/-- The classes of fields in the order `sort_tx_extra` is meant to put them. -/
def txExtraClassOrder : List TxExtraFieldType :=
  [.pubKey, .additionalPubKeys, .nonce, .mergeMiningTag, .mysteriousMinergate, .padding]

/-- The stable reordering of fields by class: the fields of each class in their own order, the
classes in `txExtraClassOrder`. -/
def reorderByClass (fields : List TxExtraField) : List TxExtraField :=
  txExtraClassOrder.flatMap fun type => fields.filter (·.type == type)

theorem mem_txExtraClassOrder (type : TxExtraFieldType) : type ∈ txExtraClassOrder := by
  cases type <;> decide

theorem nodup_txExtraClassOrder : txExtraClassOrder.Nodup := by decide

theorem isPadding_eq_type (field : TxExtraField) :
    field.isPadding = (field.type == .padding) := by
  cases field <;> rfl

/-- The tag the variant writes for a field is the one its pick writes. -/
theorem tag_of_mem_sortTxExtraOrder {pick : TxExtraFieldType × UInt8} (mem : pick ∈ sortTxExtraOrder)
    (field : TxExtraField) (typed : field.type = pick.1) : field.tag = pick.2 := by
  simp only [sortTxExtraOrder, List.mem_cons, List.not_mem_nil, or_false] at mem
  rcases mem with rfl | rfl | rfl | rfl | rfl | rfl <;> cases field <;> simp_all [TxExtraField.type] <;> rfl

/-! ### The loop of `sort_tx_extra` -/

/-- The loop of `sort_tx_extra` reads as the loop of `parse_tx_extra`: it gives the same fields,
and it ends with every read done and the archive good at its end exactly when the parse
succeeds. -/
theorem parseTxExtraLoop_eq_sort (size : Nat) : ∀ (fuel : Nat) (ar : InputArchive)
    (fields : List TxExtraField) (processed : Nat),
    parseTxExtraLoop fuel ar fields =
      if (sortTxExtraLoop size fuel ar fields processed).2.2.2 &&
          ((sortTxExtraLoop size fuel ar fields processed).2.2.1.good &&
            (sortTxExtraLoop size fuel ar fields processed).2.2.1.eof) then
        some (sortTxExtraLoop size fuel ar fields processed).1
      else none
  | 0, _, _, _ => rfl
  | fuel + 1, ar, fields, processed => by
    unfold parseTxExtraLoop sortTxExtraLoop
    rcases readTxExtraField ar with ⟨next, _ | field⟩
    · rfl
    · simp only
      by_cases more : next.eof = true
      · simp [more]
      · simp only [more, Bool.not_false, if_true]
        exact parseTxExtraLoop_eq_sort size fuel next _ _

/-! ### Picking the fields of one type -/

/-- `pick` writes the fields of its type in their order, each with its tag, and leaves the
others. -/
theorem pickLoop_good (type : TxExtraFieldType) (tag : UInt8) :
    ∀ (fuel : Nat) (out : List UInt8) (fields : List TxExtraField), fields.length ≤ fuel →
      (∀ field ∈ fields, field.WithinLimits) → (∀ field ∈ fields, field.type = type → field.tag = tag) →
      pickLoop type tag fuel ⟨out, true⟩ fields =
        some (⟨out ++ (fields.filter (·.type == type)).flatMap TxExtraField.bytes, true⟩,
          fields.filter fun field => !(field.type == type))
  | 0, out, fields, room, _, _ => by
    rw [List.eq_nil_of_length_eq_zero (Nat.le_zero.mp room)]
    simp [pickLoop]
  | fuel + 1, out, fields, room, limits, tags => by
    unfold pickLoop
    rcases found : fields.find? (·.type == type) with _ | field
    · -- no field of the type is left
      have none := List.find?_eq_none.mp found
      rw [found, List.filter_eq_nil_iff.mpr none, List.filter_eq_self.mpr (by simpa using none)]
      simp
    · -- the first field of the type, after fields of other types
      obtain ⟨typed, before, after, rfl, others⟩ := List.find?_eq_some_iff_append.mp found
      have mem : field ∈ before ++ field :: after := List.mem_append_right _ List.mem_cons_self
      have written : writeFieldBody ((⟨out, true⟩ : OutputArchive).serializeUint8 tag) field =
          (⟨out ++ [tag] ++ field.body, true⟩, true) :=
        writeFieldBody_good _ (limits field mem)
      have erased : (before ++ field :: after).eraseP (·.type == type) = before ++ after := by
        rw [List.eraseP_append_right _ (fun b mem => by simpa using others b mem),
          List.eraseP_cons_of_pos (p := fun x : TxExtraField => x.type == type) typed]
      have noneBefore : before.filter (·.type == type) = [] :=
        List.filter_eq_nil_iff.mpr fun b mem => by simpa using others b mem
      have rest := pickLoop_good type tag fuel (out ++ [tag] ++ field.body) (before ++ after)
        (by simp at room ⊢; omega)
        (fun f mem => limits f (by simp at mem ⊢; tauto))
        (fun f mem => tags f (by simp at mem ⊢; tauto))
      have tagged : field.tag = tag := tags field mem (by simpa using typed)
      simp only [found, written, erased, rest]
      simp [List.filter_append, typed, noneBefore, TxExtraField.bytes, tagged]

/-- The picks, one type after the other, write the fields of each type in turn and leave the
fields of the types no pick takes. -/
theorem foldlM_pick (picks : List (TxExtraFieldType × UInt8))
    (tags : ∀ p ∈ picks, ∀ field : TxExtraField, field.type = p.1 → field.tag = p.2)
    (distinct : (picks.map Prod.fst).Nodup) :
    ∀ (out : List UInt8) (fields : List TxExtraField), (∀ field ∈ fields, field.WithinLimits) →
      picks.foldlM (fun (acc : OutputArchive × List TxExtraField) p => pick p.1 p.2 acc.1 acc.2)
          (⟨out, true⟩, fields) =
        some (⟨out ++ (picks.flatMap fun p => fields.filter (·.type == p.1)).flatMap
            TxExtraField.bytes, true⟩,
          fields.filter fun field => !((picks.map Prod.fst).contains field.type)) := by
  induction picks with
  | nil => intro out fields _; simp
  | cons p rest ih =>
    intro out fields limits
    obtain ⟨fresh, distinctRest⟩ := List.nodup_cons.mp distinct
    have picked := pickLoop_good p.1 p.2 fields.length out fields le_rfl limits
      (fun field _ typed => tags p List.mem_cons_self field typed)
    -- the fields left after this pick, those of other types
    have after := ih (fun q mem => tags q (List.mem_cons_of_mem _ mem)) distinctRest
      (out ++ (fields.filter (·.type == p.1)).flatMap TxExtraField.bytes)
      (fields.filter fun field => !(field.type == p.1))
      (fun field mem => limits field (List.mem_filter.mp mem).1)
    have sameFilters : (rest.flatMap fun q =>
          (fields.filter fun field => !(field.type == p.1)).filter (·.type == q.1)) =
        rest.flatMap fun q => fields.filter (·.type == q.1) := by
      refine List.flatMap_congr fun q mem => ?_
      have other : q.1 ≠ p.1 := fun same => fresh (same ▸ List.mem_map_of_mem mem)
      rw [List.filter_filter]
      refine List.filter_congr fun field _ => ?_
      by_cases typed : field.type = q.1 <;> simp [typed, other]
    rw [List.foldlM_cons, pick, picked]
    simp only [Option.bind_eq_bind, Option.bind_some]
    rw [after, sameFilters, List.filter_filter]
    simp only [List.flatMap_cons, List.flatMap_append, List.append_assoc, List.map_cons,
      List.contains_cons, Bool.not_or]
    congr 3
    funext field
    exact Bool.and_comm _ _

/-! ### `sort_tx_extra` -/

theorem map_fst_sortTxExtraOrder : sortTxExtraOrder.map Prod.fst = txExtraClassOrder := rfl

/-- An extra that parses is sorted into the bytes of its fields reordered by class. -/
theorem sortTxExtra_of_parse {txExtra : List UInt8} {fields : List TxExtraField}
    (parse : parseTxExtra txExtra = some fields) :
    sortTxExtra txExtra false = some ((reorderByClass fields).flatMap TxExtraField.bytes) := by
  have limits := (parseTxExtra_wellFormed parse).1
  unfold parseTxExtra at parse
  unfold sortTxExtra
  split_ifs at parse ⊢ with empty
  · rw [← Option.some.inj parse]
    rfl
  · rw [parseTxExtraLoop_eq_sort txExtra.length _ _ _ 0] at parse
    rcases loop : sortTxExtraLoop txExtra.length txExtra.length (InputArchive.ofBytes txExtra) [] 0
      with ⟨read, processed, ar, ok⟩
    rw [loop] at parse
    simp only at parse ⊢
    split_ifs at parse with finished
    obtain ⟨okRead, good, atEnd⟩ : ok = true ∧ ar.good = true ∧ ar.eof = true := by
      simpa using finished
    obtain rfl : read = fields := Option.some.inj parse
    -- every field is of a type some pick takes
    have picks := foldlM_pick sortTxExtraOrder (fun p mem => tag_of_mem_sortTxExtraOrder mem)
      (by rw [map_fst_sortTxExtraOrder]; exact nodup_txExtraClassOrder) [] read limits
    rw [map_fst_sortTxExtraOrder] at picks
    simp only [mem_txExtraClassOrder, List.elem_eq_mem, decide_true, Bool.not_true,
      List.filter_false, List.nil_append] at picks
    simp only [okRead, good, atEnd, Bool.not_true, Bool.and_self, Bool.false_and,
      Bool.false_eq_true, if_false, OutputArchive.empty, picks, List.isEmpty_nil, Bool.not_true]
    simp [reorderByClass, sortTxExtraOrder, txExtraClassOrder]

/-- An extra that does not parse is not sorted. -/
theorem sortTxExtra_of_parse_none {txExtra : List UInt8} (parse : parseTxExtra txExtra = none) :
    sortTxExtra txExtra false = none := by
  unfold parseTxExtra at parse
  unfold sortTxExtra
  split_ifs at parse ⊢ with empty
  rw [parseTxExtraLoop_eq_sort txExtra.length _ _ _ 0] at parse
  rcases loop : sortTxExtraLoop txExtra.length txExtra.length (InputArchive.ofBytes txExtra) [] 0
    with ⟨read, processed, ar, ok⟩
  rw [loop] at parse
  simp only at parse ⊢
  split_ifs at parse with finished
  -- a read failed, or the archive is not good at its end
  cases ok <;> simp_all

/-! ### The order by class -/

section ClassFilters

variable {order : List TxExtraFieldType} (fields : List TxExtraField)

theorem filter_flatMap_filter_of_not_mem {type : TxExtraFieldType} (notMem : type ∉ order) :
    (order.flatMap fun other => fields.filter (·.type == other)).filter (·.type == type) = [] := by
  rw [List.filter_flatMap, List.flatMap_eq_nil_iff]
  intro other mem
  rw [List.filter_filter, List.filter_eq_nil_iff]
  intro field _ both
  simp only [Bool.and_eq_true, beq_iff_eq] at both
  exact notMem (both.1 ▸ both.2 ▸ mem)

/-- Taking the fields of one type from the fields arranged by types, each once, gives those of the
type. -/
theorem filter_flatMap_filter (nodup : order.Nodup) {type : TxExtraFieldType} (mem : type ∈ order) :
    (order.flatMap fun other => fields.filter (·.type == other)).filter (·.type == type) =
      fields.filter (·.type == type) := by
  induction order with
  | nil => exact absurd mem List.not_mem_nil
  | cons first rest ih =>
    obtain ⟨fresh, nodupRest⟩ := List.nodup_cons.mp nodup
    rw [List.flatMap_cons, List.filter_append, List.filter_filter]
    by_cases same : first = type
    · -- the block of the type comes first; no other block holds a field of it
      subst same
      rw [filter_flatMap_filter_of_not_mem fields fresh, List.append_nil]
      exact List.filter_congr fun field _ => by simp
    · rw [ih nodupRest ((List.mem_cons.mp mem).resolve_left (Ne.symm same))]
      have none : fields.filter (fun field => field.type == type && field.type == first) = [] :=
        List.filter_eq_nil_iff.mpr fun field _ both => by
          simp only [Bool.and_eq_true, beq_iff_eq] at both
          exact same (both.2.symm.trans both.1)
      rw [none, List.nil_append]

end ClassFilters

theorem filter_reorderByClass (fields : List TxExtraField) (type : TxExtraFieldType) :
    (reorderByClass fields).filter (·.type == type) = fields.filter (·.type == type) :=
  filter_flatMap_filter fields nodup_txExtraClassOrder (mem_txExtraClassOrder type)

/-- Reordering fields already in order by class changes nothing. -/
theorem reorderByClass_reorderByClass (fields : List TxExtraField) :
    reorderByClass (reorderByClass fields) = reorderByClass fields :=
  List.flatMap_congr fun type _ => filter_reorderByClass fields type

theorem mem_reorderByClass {fields : List TxExtraField} {field : TxExtraField}
    (mem : field ∈ reorderByClass fields) : field ∈ fields := by
  obtain ⟨_, _, filtered⟩ := List.mem_flatMap.mp mem
  exact (List.mem_filter.mp filtered).1

/-- A well-formed list has at most one padding, its last field. -/
theorem length_filter_padding_le {fields : List TxExtraField} (wellFormed : WellFormedFields fields) :
    (fields.filter (·.type == .padding)).length ≤ 1 := by
  rcases List.eq_nil_or_concat fields with rfl | ⟨init, last, rfl⟩
  · simp
  · have notPadding := wellFormed.2
    rw [List.concat_eq_append, List.dropLast_concat] at notPadding
    have none : init.filter (·.type == .padding) = [] :=
      List.filter_eq_nil_iff.mpr fun field mem => by
        rw [← isPadding_eq_type, notPadding field mem]
        decide
    rw [List.concat_eq_append, List.filter_append, none, List.nil_append]
    exact (List.length_filter_le _ _).trans (by simp)

/-- Fields reordered by class keep a well-formed list well formed: the padding goes last. -/
theorem reorderByClass_wellFormed {fields : List TxExtraField} (wellFormed : WellFormedFields fields) :
    WellFormedFields (reorderByClass fields) := by
  refine ⟨fun field mem => wellFormed.1 field (mem_reorderByClass mem), fun field mem => ?_⟩
  -- the classes before the padding, then the padding, of which there is at most one
  have split : reorderByClass fields =
      ([TxExtraFieldType.pubKey, .additionalPubKeys, .nonce, .mergeMiningTag,
        .mysteriousMinergate].flatMap fun type => fields.filter (·.type == type)) ++
        fields.filter (·.type == .padding) := by
    simp [reorderByClass, txExtraClassOrder]
  have early : ∀ f ∈ ([TxExtraFieldType.pubKey, .additionalPubKeys, .nonce, .mergeMiningTag,
      .mysteriousMinergate].flatMap fun type => fields.filter (·.type == type)),
      f.isPadding = false := by
    intro f member
    obtain ⟨type, typeMem, filtered⟩ := List.mem_flatMap.mp member
    have typed := (List.mem_filter.mp filtered).2
    simp only [List.mem_cons, List.not_mem_nil, or_false] at typeMem
    rw [isPadding_eq_type]
    rcases typeMem with rfl | rfl | rfl | rfl | rfl <;> simp_all
  have single := length_filter_padding_le wellFormed
  rw [split] at mem
  rcases padding : fields.filter (·.type == .padding) with _ | ⟨last, _ | ⟨_, _⟩⟩
  · rw [padding, List.append_nil] at mem
    exact early field (List.dropLast_subset _ mem)
  · rw [padding, List.dropLast_concat] at mem
    exact early field mem
  · rw [padding] at single
    simp at single

/-! ### `remove_field_from_tx_extra` -/

/-- The field written to the new stream, or not, as the last turn leaves it. -/
theorem removeFieldLoop_write (type : TxExtraFieldType) (out : List UInt8) {field : TxExtraField}
    (limits : field.WithinLimits) :
    (if field.type ≠ type then (writeTxExtraField ⟨out, true⟩ field).1 else ⟨out, true⟩) =
      (⟨out ++ ([field].filter (·.type ≠ type)).flatMap TxExtraField.bytes, true⟩ : OutputArchive) := by
  by_cases kept : field.type ≠ type
  · simp [kept, writeTxExtraField_good out limits]
  · simp [kept]

/-- Where the parse succeeds, the loop of `remove_field_from_tx_extra` writes the fields read that
are not of the type, and ends with the archive good at its end. -/
theorem removeFieldLoop_of_parse (type : TxExtraFieldType) :
    ∀ (fuel : Nat) (ar : InputArchive) (out : List UInt8) {fields : List TxExtraField},
      parseTxExtraLoop fuel ar [] = some fields →
        ∃ last : InputArchive, last.good = true ∧ last.eof = true ∧
          removeFieldLoop type fuel ar ⟨out, true⟩ =
            some (last, ⟨out ++ (fields.filter (·.type ≠ type)).flatMap TxExtraField.bytes, true⟩)
  | 0, _, _, _, parse => by simp [parseTxExtraLoop] at parse
  | fuel + 1, ar, out, fields, parse => by
    unfold parseTxExtraLoop at parse
    unfold removeFieldLoop
    rcases read : readTxExtraField ar with ⟨next, _ | field⟩ <;> simp only [read] at parse ⊢
    · simp at parse
    · rw [removeFieldLoop_write type out (readTxExtraField_some read).1]
      by_cases more : next.eof = true
      · -- the last field
        simp only [more, Bool.not_true, Bool.false_eq_true, if_false] at parse ⊢
        split_ifs at parse with good
        rw [← Option.some.inj parse]
        exact ⟨next, good, more, by simp⟩
      · -- the fields after this one, read from the next archive
        simp only [more, Bool.not_false, if_true] at parse ⊢
        rw [parseTxExtraLoop_parsed] at parse
        obtain ⟨rest, restParse, rfl⟩ := Option.map_eq_some_iff.mp parse
        obtain ⟨last, good, atEnd, loop⟩ := removeFieldLoop_of_parse type fuel next _ restParse
        refine ⟨last, good, atEnd, ?_⟩
        rw [loop]
        by_cases removed : field.type = type <;> simp [removed]

/-- Where the parse fails, the loop of `remove_field_from_tx_extra` fails or ends with the archive
not good at its end. -/
theorem removeFieldLoop_of_parse_none (type : TxExtraFieldType) :
    ∀ (fuel : Nat) (ar : InputArchive) (newar : OutputArchive), parseTxExtraLoop fuel ar [] = none →
      ∀ last result, removeFieldLoop type fuel ar newar = some (last, result) →
        (last.good && last.eof) = false
  | 0, _, _, _, _, _, loop => by simp [removeFieldLoop] at loop
  | fuel + 1, ar, newar, parse, last, result, loop => by
    unfold parseTxExtraLoop at parse
    unfold removeFieldLoop at loop
    rcases read : readTxExtraField ar with ⟨next, _ | field⟩ <;> simp only [read] at parse loop
    · simp at loop
    · by_cases more : next.eof = true
      · simp only [more, Bool.not_true, Bool.false_eq_true, if_false] at parse loop
        split_ifs at parse with good
        obtain ⟨rfl, -⟩ := Prod.mk.inj (Option.some.inj loop)
        simp [good]
      · simp only [more, Bool.not_false, if_true] at parse loop
        rw [parseTxExtraLoop_parsed, Option.map_eq_none_iff] at parse
        exact removeFieldLoop_of_parse_none type fuel next _ parse last result loop

/-- Fields left out of a well-formed list leave it well formed: what comes before the last field
kept came before the last field. -/
theorem wellFormed_filter {fields : List TxExtraField} (wellFormed : WellFormedFields fields)
    (keep : TxExtraField → Bool) : WellFormedFields (fields.filter keep) := by
  refine ⟨fun field mem => wellFormed.1 field (List.mem_filter.mp mem).1, fun field mem => ?_⟩
  rcases List.eq_nil_or_concat fields with rfl | ⟨init, last, rfl⟩
  · simp at mem
  · have notPadding := wellFormed.2
    rw [List.concat_eq_append, List.dropLast_concat] at notPadding
    rw [List.concat_eq_append, List.filter_append] at mem
    apply notPadding field
    by_cases kept : keep last
    · rw [List.filter_cons_of_pos kept, List.filter_nil, List.dropLast_concat] at mem
      exact (List.mem_filter.mp mem).1
    · rw [List.filter_cons_of_neg kept, List.filter_nil, List.append_nil] at mem
      exact (List.mem_filter.mp (List.dropLast_subset _ mem)).1

theorem removeFieldFromTxExtra_of_parse {txExtra : List UInt8} {fields : List TxExtraField}
    (parse : parseTxExtra txExtra = some fields) (type : TxExtraFieldType) :
    removeFieldFromTxExtra txExtra type =
      (true, (fields.filter (·.type ≠ type)).flatMap TxExtraField.bytes) := by
  unfold parseTxExtra at parse
  unfold removeFieldFromTxExtra
  split_ifs at parse ⊢ with empty
  · rw [← Option.some.inj parse, List.isEmpty_iff.mp empty]
    rfl
  · obtain ⟨last, good, atEnd, loop⟩ := removeFieldLoop_of_parse type _ _ [] parse
    simp [OutputArchive.empty, loop, good, atEnd]

theorem removeFieldFromTxExtra_of_parse_none {txExtra : List UInt8}
    (parse : parseTxExtra txExtra = none) (type : TxExtraFieldType) :
    removeFieldFromTxExtra txExtra type = (false, txExtra) := by
  unfold parseTxExtra at parse
  unfold removeFieldFromTxExtra
  split_ifs at parse ⊢ with empty
  rcases loop : removeFieldLoop type txExtra.length (InputArchive.ofBytes txExtra)
    OutputArchive.empty with _ | ⟨last, result⟩
  · rfl
  · have bad := removeFieldLoop_of_parse_none type _ _ _ parse last result loop
    simp [bad]

/-- `sort_tx_extra` and `remove_field_from_tx_extra` act on the parsed fields. On an extra that
parses, `sort_tx_extra` without partial input succeeds with an extra that parses to the fields
reordered by class and that it sorts to itself; `remove_field_from_tx_extra` succeeds with an
extra that parses to the fields not of the type removed. On an extra that does not parse, both
fail, and `remove_field_from_tx_extra` leaves the extra as it was. -/
theorem sortTxExtra_removeField_parse :
    (∀ txExtra fields, parseTxExtra txExtra = some fields →
      (∃ sorted, sortTxExtra txExtra false = some sorted ∧
        parseTxExtra sorted = some (reorderByClass fields) ∧
        sortTxExtra sorted false = some sorted) ∧
      ∀ type, (removeFieldFromTxExtra txExtra type).1 = true ∧
        parseTxExtra (removeFieldFromTxExtra txExtra type).2 =
          some (fields.filter (·.type ≠ type))) ∧
    ∀ txExtra, parseTxExtra txExtra = none →
      sortTxExtra txExtra false = none ∧ ∀ type, removeFieldFromTxExtra txExtra type = (false, txExtra) := by
  refine ⟨fun txExtra fields parse => ⟨?sorted, fun type => ?removed⟩,
    fun txExtra parse => ⟨sortTxExtra_of_parse_none parse,
      removeFieldFromTxExtra_of_parse_none parse⟩⟩
  case sorted =>
    have wellFormed := parseTxExtra_wellFormed parse
    have reparse := parseTxExtra_flatMap_bytes (reorderByClass_wellFormed wellFormed)
    refine ⟨_, sortTxExtra_of_parse parse, reparse, ?_⟩
    -- sorting again reorders fields already in order
    rw [sortTxExtra_of_parse reparse, reorderByClass_reorderByClass]
  case removed =>
    rw [removeFieldFromTxExtra_of_parse parse type]
    exact ⟨rfl, parseTxExtra_flatMap_bytes (wellFormed_filter (parseTxExtra_wellFormed parse) _)⟩

/-- A nonce before a public key: the sorted extra has the key first, and sorts to itself. -/
theorem sortTxExtra_removeField_parse_nonceKey :
    parseTxExtra ([2, 1, 7, 1] ++ (Vector.replicate 32 5 : Vector UInt8 32).toList) =
        some [.nonce [7], .pubKey (Vector.replicate 32 5)] ∧
      ∃ sorted, sortTxExtra ([2, 1, 7, 1] ++ (Vector.replicate 32 5 : Vector UInt8 32).toList) false =
          some sorted ∧
        parseTxExtra sorted = some [.pubKey (Vector.replicate 32 5), .nonce [7]] ∧
        sortTxExtra sorted false = some sorted := by
  have parse : parseTxExtra ([2, 1, 7, 1] ++ (Vector.replicate 32 5 : Vector UInt8 32).toList) =
      some [.nonce [7], .pubKey (Vector.replicate 32 5)] := by decide +kernel
  obtain ⟨⟨sorted, sort, reparse, again⟩, -⟩ := sortTxExtra_removeField_parse.1 _ _ parse
  exact ⟨parse, sorted, sort, by rw [reparse]; rfl, again⟩

end Sumokoin.Basic
