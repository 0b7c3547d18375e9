import Mathlib

/-! `tools::write_varint` and `tools::read_varint` of `common/varint.h`: an unsigned number as
bytes of seven bits each, lowest first, every byte but the last with its high bit set. The reader
refuses a byte that would put bits past the width `bits` of the target type and a zero byte after
the first, and returns the count of bytes it read; when the input ends it returns the count read
so far, also in the middle of a number. -/

namespace Sumokoin.Tools

/-- `EVARINT_OVERFLOW`. -/
def evarintOverflow : Int := -1

/-- `EVARINT_REPRESENT`. -/
def evarintRepresent : Int := -2

/-- `write_varint(dest, i)`: while `i >= 0x80`, the byte `(char(i) & 0x7f) | 0x80` and `i >>= 7`;
then the byte `i`. -/
def writeVarint (i : Nat) : List UInt8 :=
  if 0x80 ≤ i then ((i.toUInt8 &&& 0x7f) ||| 0x80) :: writeVarint (i >>> 7) else [i.toUInt8]
termination_by i
decreasing_by
  rw [Nat.shiftRight_eq_div_pow]
  omega

/-- `get_varint_data(v)`: the bytes of `write_varint`. -/
def getVarintData (v : Nat) : List UInt8 := writeVarint v

/-- The loop of `read_varint<bits>` from `shift` on, with `read` the bytes read and `write` the
value so far. The end of the input returns `read`; a byte with bits past `bits` returns
`EVARINT_OVERFLOW` and a zero byte after the first `EVARINT_REPRESENT`; a byte without the high bit
ends the number. Each byte is counted before its checks. -/
def readVarintLoop (bits : Nat) : List UInt8 → Nat → Nat → Nat → Int × Nat
  | [], _, read, write => (read, write)
  | byte :: rest, shift, read, write =>
    if bits ≤ shift + 7 ∧ 2 ^ (bits - shift) ≤ byte.toNat then (evarintOverflow, write)
    else if byte = 0 ∧ shift ≠ 0 then (evarintRepresent, write)
    else
      let write := write ||| (byte &&& 0x7f).toNat <<< shift
      if byte &&& 0x80 = 0 then ((read + 1 : Nat), write)
      else readVarintLoop bits rest (shift + 7) (read + 1) write

/-- `read_varint<bits>(first, last, write)`: the count or the error code, and the value written. -/
def readVarint (bits : Nat) (bytes : List UInt8) : Int × Nat := readVarintLoop bits bytes 0 0 0

/-- How far the loop of `read_varint<bits>` moves `first` from `shift` on: past every byte it
reads, the one that fails a check included. -/
def readVarintAdvance (bits : Nat) : List UInt8 → Nat → Nat
  | [], _ => 0
  | byte :: rest, shift =>
    if bits ≤ shift + 7 ∧ 2 ^ (bits - shift) ≤ byte.toNat then 1
    else if byte = 0 ∧ shift ≠ 0 then 1
    else if byte &&& 0x80 = 0 then 1
    else readVarintAdvance bits rest (shift + 7) + 1

/-! ### Bytes -/

theorem toNat_and_0x7f (x : UInt8) : (x &&& 0x7f).toNat = x.toNat % 128 := by
  rw [UInt8.toNat_and]
  exact Nat.and_two_pow_sub_one_eq_mod x.toNat 7

theorem toNat_or_0x80 {x : UInt8} (h : x.toNat < 128) : (x ||| 0x80).toNat = x.toNat + 128 := by
  rw [UInt8.toNat_or, Nat.or_comm]
  have hor := Nat.shiftLeft_add_eq_or_of_lt (i := 7) h 1
  rw [Nat.shiftLeft_eq] at hor
  rw [show (0x80 : UInt8).toNat = 1 * 2 ^ 7 from rfl, ← hor]
  omega

theorem and_0x80_eq_zero_iff (x : UInt8) : x &&& 0x80 = 0 ↔ x.toNat < 128 := by
  rw [← UInt8.toNat_inj, UInt8.toNat_and, Nat.land_comm, show (0x80 : UInt8).toNat = 2 ^ 7 from rfl,
    Nat.two_pow_and, Nat.testBit_eq_decide_div_mod_eq]
  have hlt : x.toNat < 256 := x.toNat_lt
  -- the high bit is set exactly when the byte is 128 or more
  by_cases h : x.toNat / 2 ^ 7 % 2 = 1
  · rw [decide_eq_true h, Bool.toNat_true, UInt8.toNat_zero]
    simp only [Nat.reducePow] at h ⊢
    omega
  · rw [decide_eq_false h, Bool.toNat_false, UInt8.toNat_zero, Nat.mul_zero]
    simp only [Nat.reducePow] at h
    omega

/-- The first bytes of `write_varint` carry the next seven bits and the high bit. -/
theorem toNat_continuationByte (i : Nat) : ((i.toUInt8 &&& 0x7f) ||| 0x80).toNat = i % 128 + 128 := by
  have hlow : (i.toUInt8 &&& 0x7f).toNat = i % 128 := by
    rw [toNat_and_0x7f, UInt8.toNat_ofNat', Nat.mod_mod_of_dvd i (by norm_num)]
  rw [toNat_or_0x80 (by omega), hlow]

theorem or_shiftLeft_eq_add {write shift : Nat} (h : write < 2 ^ shift) (x : Nat) :
    write ||| x <<< shift = write + x * 2 ^ shift := by
  rw [Nat.or_comm, ← Nat.shiftLeft_add_eq_or_of_lt h, Nat.shiftLeft_eq, Nat.add_comm]

/-! ### Reading what was written -/

theorem writeVarint_of_lt {i : Nat} (h : i < 0x80) : writeVarint i = [i.toUInt8] := by
  rw [writeVarint, if_neg (by omega)]

theorem writeVarint_of_le {i : Nat} (h : 0x80 ≤ i) :
    writeVarint i = ((i.toUInt8 &&& 0x7f) ||| 0x80) :: writeVarint (i / 128) := by
  rw [writeVarint, if_pos h, Nat.shiftRight_eq_div_pow]

/-- From any shift whose bits the value leaves free, the reader takes back what `write_varint`
wrote and counts its bytes: the bytes of a number of more than seven bits leave room for their
high bits, and the last byte of a number written after the first is not zero. -/
theorem readVarintLoop_writeVarint (bits : Nat) (rest : List UInt8) (v : Nat) :
    ∀ shift read write, write < 2 ^ shift → v * 2 ^ shift < 2 ^ bits → (shift = 0 ∨ 0 < v) →
      readVarintLoop bits (writeVarint v ++ rest) shift read write =
        (((read + (writeVarint v).length : Nat) : Int), write + v * 2 ^ shift) := by
  induction v using Nat.strongRecOn with
  | ind v ih =>
    intro shift read write hwrite hfits hzero
    by_cases hv : 0x80 ≤ v
    · -- a continuation byte: seven bits, then the rest of the number seven bits higher
      have hbyte := toNat_continuationByte v
      have hroom : shift + 7 < bits := by
        have hlow : 2 ^ (shift + 7) ≤ v * 2 ^ shift := by
          calc 2 ^ (shift + 7) = 128 * 2 ^ shift := by rw [pow_add]; ring
            _ ≤ v * 2 ^ shift := Nat.mul_le_mul_right _ hv
        by_contra hle
        have : 2 ^ bits ≤ 2 ^ (shift + 7) := Nat.pow_le_pow_right (by norm_num) (by omega)
        omega
      have hhigh : ¬ (((v.toUInt8 &&& 0x7f) ||| 0x80) &&& 0x80 = 0) := by
        rw [and_0x80_eq_zero_iff, hbyte]
        omega
      have hlow : ((((v.toUInt8 &&& 0x7f) ||| 0x80) &&& 0x7f).toNat) = v % 128 := by
        rw [toNat_and_0x7f, hbyte]
        omega
      have hnext : write + v % 128 * 2 ^ shift < 2 ^ (shift + 7) := by
        rw [pow_add]
        have : v % 128 < 128 := Nat.mod_lt v (by norm_num)
        nlinarith
      have hfits' : v / 128 * 2 ^ (shift + 7) < 2 ^ bits := by
        calc v / 128 * 2 ^ (shift + 7) = v / 128 * 128 * 2 ^ shift := by rw [pow_add]; ring
          _ ≤ v * 2 ^ shift := Nat.mul_le_mul_right _ (Nat.div_mul_le_self v 128)
          _ < 2 ^ bits := hfits
      rw [writeVarint_of_le hv, List.cons_append, readVarintLoop, if_neg (by omega),
        if_neg (fun h => by rw [h.1] at hbyte; simp at hbyte), if_neg hhigh, hlow,
        or_shiftLeft_eq_add hwrite,
        ih (v / 128) (by omega) (shift + 7) (read + 1) _ hnext hfits' (.inr (by omega))]
      have hsplit : v = v % 128 + 128 * (v / 128) := (Nat.mod_add_div v 128).symm
      simp only [List.length_cons, Prod.mk.injEq]
      refine ⟨by push_cast; ring, ?_⟩
      conv_rhs => rw [hsplit]
      rw [pow_add]
      ring
    · -- the last byte: the number itself, below the high bit
      have hv' : v < 128 := by omega
      have hbyte : (v.toUInt8).toNat = v := by
        rw [UInt8.toNat_ofNat']
        omega
      have hnoOverflow : ¬ (bits ≤ shift + 7 ∧ 2 ^ (bits - shift) ≤ v) := by
        rintro ⟨-, hle⟩
        have hpow : 2 ^ (bits - shift) * 2 ^ shift ≥ 2 ^ bits := by
          rw [← pow_add]
          exact Nat.pow_le_pow_right (by norm_num) (by omega)
        nlinarith
      rw [writeVarint_of_lt hv', List.cons_append, readVarintLoop, hbyte, if_neg hnoOverflow,
        if_neg (fun h => by
          rw [← UInt8.toNat_inj, hbyte] at h
          rcases hzero with h0 | h0
          · exact h.2 h0
          · exact absurd h.1 (by simp; omega)),
        if_pos ((and_0x80_eq_zero_iff _).mpr (by omega)), toNat_and_0x7f, hbyte,
        Nat.mod_eq_of_lt hv', or_shiftLeft_eq_add hwrite]
      simp

theorem writeVarint_ne_nil (v : Nat) : writeVarint v ≠ [] := by
  rw [writeVarint]
  split <;> simp

/-- A number below `2 ^ (7 * k)` takes at most `k` bytes, and one at least. -/
theorem length_writeVarint_le {k : Nat} (pos : 0 < k) :
    ∀ v, v < 2 ^ (7 * k) → (writeVarint v).length ≤ k := by
  induction k with
  | zero => omega
  | succ k ih =>
    intro v small
    by_cases hv : 0x80 ≤ v
    · -- the rest of the number is seven bits shorter
      have short : v / 128 < 2 ^ (7 * k) := by
        rw [Nat.div_lt_iff_lt_mul (by decide)]
        calc v < 2 ^ (7 * (k + 1)) := small
          _ = 2 ^ (7 * k) * 128 := by rw [Nat.mul_succ, Nat.pow_add]
      have kPos : 0 < k := by
        by_contra zero
        rw [show k = 0 by omega] at small
        omega
      rw [writeVarint_of_le hv, List.length_cons]
      exact Nat.succ_le_succ (ih kPos _ short)
    · rw [writeVarint_of_lt (by omega), List.length_singleton]
      omega

/-- The last byte of `write_varint` has no high bit. -/
theorem exists_mem_writeVarint_lt (v : Nat) : ∃ b ∈ writeVarint v, b.toNat < 128 := by
  induction v using Nat.strongRecOn with
  | ind v ih =>
    by_cases hv : 0x80 ≤ v
    · obtain ⟨b, member, low⟩ := ih (v / 128) (by omega)
      exact ⟨b, by rw [writeVarint_of_le hv]; exact List.mem_cons_of_mem _ member, low⟩
    · refine ⟨v.toUInt8, by rw [writeVarint_of_lt (by omega)]; exact List.mem_singleton_self _, ?_⟩
      rw [UInt8.toNat_ofNat']
      omega

/-- `read_varint<bits>` reads back every number below `2 ^ bits` from its bytes, whatever follows
them. -/
theorem readVarint_writeVarint {bits v : Nat} (hv : v < 2 ^ bits) (rest : List UInt8) :
    readVarint bits (writeVarint v ++ rest) = (((writeVarint v).length : Int), v) := by
  have h := readVarintLoop_writeVarint bits rest v 0 0 0 (by norm_num) (by simpa using hv) (.inl rfl)
  simpa [readVarint] using h

/-! ### Reading a number that the input cuts off -/

/-- The number that bytes with seven bits each spell, lowest first. -/
def septetsValue (bytes : List UInt8) : Nat := Nat.ofDigits 128 (bytes.map fun b => b.toNat % 128)

/-- Bytes that all carry the high bit are a number cut off before its last byte: as long as their
bits fit, the reader returns their count as if it had read a whole number. -/
theorem readVarintLoop_of_continuation (bits : Nat) (bytes : List UInt8) :
    ∀ shift read write, write < 2 ^ shift → bytes ≠ [] → (∀ b ∈ bytes, 0x80 ≤ b.toNat) →
      shift + 7 * bytes.length < bits →
      readVarintLoop bits bytes shift read write =
        (((read + bytes.length : Nat) : Int), write + septetsValue bytes * 2 ^ shift) := by
  induction bytes with
  | nil => intro _ _ _ _ h; exact absurd rfl h
  | cons b rest ih =>
    intro shift read write hwrite _ hcont hroom
    have hb : 0x80 ≤ b.toNat := hcont b (by simp)
    have hhigh : ¬ (b &&& 0x80 = 0) := by
      rw [and_0x80_eq_zero_iff]
      omega
    have hne : ¬ (b = 0 ∧ shift ≠ 0) := fun h => by
      rw [h.1] at hb
      exact absurd hb (by decide)
    have hnext : write + b.toNat % 128 * 2 ^ shift < 2 ^ (shift + 7) := by
      rw [pow_add]
      have : b.toNat % 128 < 128 := Nat.mod_lt _ (by norm_num)
      nlinarith
    simp only [List.length_cons] at hroom
    rw [readVarintLoop, if_neg (by omega), if_neg hne, if_neg hhigh, toNat_and_0x7f,
      or_shiftLeft_eq_add hwrite]
    cases rest with
    | nil =>
      simp [readVarintLoop, septetsValue]
    | cons c rest' =>
      rw [ih (shift + 7) (read + 1) _ hnext (List.cons_ne_nil c rest')
        (fun x hx => hcont x (by simp [hx])) (by simp only [List.length_cons] at hroom ⊢; omega)]
      simp only [septetsValue, List.map_cons, Nat.ofDigits_cons, List.length_cons, Prod.mk.injEq]
      refine ⟨by push_cast; ring, ?_⟩
      rw [pow_add]
      simp only [septetsValue, List.map_cons] at *
      ring

theorem septetsValue_lt (bytes : List UInt8) : septetsValue bytes < 2 ^ (7 * bytes.length) := by
  have bound := Nat.ofDigits_lt_base_pow_length (b := 128) (by decide)
    (fun x (member : x ∈ bytes.map fun b => b.toNat % 128) => by
      obtain ⟨b, -, rfl⟩ := List.mem_map.mp member
      exact Nat.mod_lt _ (by decide))
  rw [List.length_map] at bound
  rw [pow_mul]
  exact bound

/-- `read_varint<bits>` of bytes that all carry the high bit and whose bits fit: the count of all
of them, and the number their seven bits spell. -/
theorem readVarint_of_continuation {bits : Nat} {bytes : List UInt8} (nonempty : bytes ≠ [])
    (continued : ∀ b ∈ bytes, 0x80 ≤ b.toNat) (room : 7 * bytes.length < bits) :
    readVarint bits bytes = ((bytes.length : Int), septetsValue bytes) := by
  have h := readVarintLoop_of_continuation bits bytes 0 0 0 (by decide) nonempty continued (by omega)
  simpa [readVarint] using h

/-! ### What a read that succeeds gives -/

/-- Seven more bits above a value of `shift` bits. -/
theorem add_septet_lt {write shift : Nat} (hwrite : write < 2 ^ shift) (byte : UInt8) :
    write + byte.toNat % 128 * 2 ^ shift < 2 ^ (shift + 7) := by
  rw [pow_add]
  have : byte.toNat % 128 < 128 := Nat.mod_lt _ (by norm_num)
  nlinarith

/-- A byte with the high bit that passes the overflow check leaves room for seven more bits. -/
theorem room_of_continuation {bits shift : Nat} {byte : UInt8} (high : ¬byte &&& 0x80 = 0)
    (fits : ¬(bits ≤ shift + 7 ∧ 2 ^ (bits - shift) ≤ byte.toNat)) : shift + 7 < bits := by
  rw [and_0x80_eq_zero_iff] at high
  by_contra full
  have : 2 ^ (bits - shift) ≤ 2 ^ 7 := Nat.pow_le_pow_right (by norm_num) (by omega)
  exact fits ⟨by omega, by omega⟩

/-- A read that succeeds yields a number of at most `bits` bits: each byte is checked against the
bits left above `shift`. -/
theorem readVarintLoop_lt (bits : Nat) (bytes : List UInt8) :
    ∀ shift read write, write < 2 ^ shift → shift ≤ bits →
      0 ≤ (readVarintLoop bits bytes shift read write).1 →
        (readVarintLoop bits bytes shift read write).2 < 2 ^ bits := by
  induction bytes with
  | nil =>
    intro shift _ write hwrite hshift _
    exact lt_of_lt_of_le hwrite (Nat.pow_le_pow_right (by norm_num) hshift)
  | cons byte rest ih =>
    intro shift read write hwrite hshift ok
    rw [readVarintLoop] at ok ⊢
    dsimp only at ok ⊢
    split_ifs at ok ⊢ with overflow represent last
    · simp [evarintOverflow] at ok
    · simp [evarintRepresent] at ok
    · -- the last byte: its bits fit below `bits`
      rw [toNat_and_0x7f, or_shiftLeft_eq_add hwrite]
      by_cases full : bits ≤ shift + 7
      · have below : byte.toNat < 2 ^ (bits - shift) := by omega
        have low : byte.toNat < 128 := (and_0x80_eq_zero_iff byte).mp last
        calc write + byte.toNat % 128 * 2 ^ shift
            < (byte.toNat + 1) * 2 ^ shift := by rw [Nat.mod_eq_of_lt low]; nlinarith
          _ ≤ 2 ^ (bits - shift) * 2 ^ shift := Nat.mul_le_mul_right _ below
          _ = 2 ^ bits := by rw [← pow_add, Nat.sub_add_cancel hshift]
      · exact lt_of_lt_of_le (add_septet_lt hwrite byte)
          (Nat.pow_le_pow_right (by norm_num) (by omega))
    · have room := room_of_continuation last overflow
      rw [toNat_and_0x7f, or_shiftLeft_eq_add hwrite] at ok ⊢
      exact ih (shift + 7) (read + 1) _ (add_septet_lt hwrite byte) (by omega) ok

/-- A read that succeeds counts at least one byte of a nonempty input, and no more than it has. -/
theorem readVarintLoop_count (bits : Nat) (bytes : List UInt8) :
    ∀ shift read write, bytes ≠ [] → 0 ≤ (readVarintLoop bits bytes shift read write).1 →
      read + 1 ≤ (readVarintLoop bits bytes shift read write).1.toNat ∧
        (readVarintLoop bits bytes shift read write).1.toNat ≤ read + bytes.length := by
  induction bytes with
  | nil => intro _ _ _ nonempty; exact absurd rfl nonempty
  | cons byte rest ih =>
    intro shift read write _ ok
    rw [readVarintLoop] at ok ⊢
    dsimp only at ok ⊢
    split_ifs at ok ⊢ with overflow represent last
    · simp [evarintOverflow] at ok
    · simp [evarintRepresent] at ok
    · simp
    · -- the rest of the number, counted after this byte
      cases rest with
      | nil => simp [readVarintLoop]
      | cons next rest =>
        have := ih (shift + 7) (read + 1) _ (List.cons_ne_nil next rest) ok
        simp only [List.length_cons] at this ⊢
        omega

/-- A read from a shift after the first byte that adds less than a bit at that shift took only
bytes with the high bit, each with room for seven bits more: every last byte after the first is
nonzero. -/
theorem readVarintLoop_room_of_lt (bits : Nat) (bytes : List UInt8) :
    ∀ shift read write, write < 2 ^ shift → shift ≠ 0 → shift ≤ bits →
      0 ≤ (readVarintLoop bits bytes shift read write).1 →
        (readVarintLoop bits bytes shift read write).2 < write + 2 ^ shift →
          shift + 7 * bytes.length ≤ bits := by
  induction bytes with
  | nil => intro shift _ _ _ _ hshift _ _; simpa using hshift
  | cons byte rest ih =>
    intro shift read write hwrite nonzero _ ok small
    rw [readVarintLoop] at ok small
    dsimp only at ok small
    split_ifs at ok small with overflow represent last
    · simp [evarintOverflow] at ok
    · simp [evarintRepresent] at ok
    · -- the number ends here, with a byte that is not zero
      exfalso
      have low : byte.toNat < 128 := (and_0x80_eq_zero_iff byte).mp last
      have positive : byte.toNat ≠ 0 := fun zero =>
        represent ⟨UInt8.toNat_inj.mp (by rw [zero]; rfl), nonzero⟩
      rw [toNat_and_0x7f, or_shiftLeft_eq_add hwrite, Nat.mod_eq_of_lt low] at small
      have : 2 ^ shift ≤ byte.toNat * 2 ^ shift := Nat.le_mul_of_pos_left _ (by omega)
      omega
    · have room := room_of_continuation last overflow
      rw [toNat_and_0x7f, or_shiftLeft_eq_add hwrite] at ok small
      have climb : write + 2 ^ shift ≤ write + byte.toNat % 128 * 2 ^ shift + 2 ^ (shift + 7) := by
        have : 2 ^ shift ≤ 2 ^ (shift + 7) := Nat.pow_le_pow_right (by norm_num) (by omega)
        omega
      have more := ih (shift + 7) (read + 1) _ (add_septet_lt hwrite byte) (by omega) (by omega) ok
        (by omega)
      rw [List.length_cons]
      omega

/-- A first byte with the high bit: its seven bits, and the rest read from the next shift. -/
theorem readVarint_cons_of_high {bits : Nat} (room : 7 < bits) {byte : UInt8}
    (high : 128 ≤ byte.toNat) (rest : List UInt8) :
    readVarint bits (byte :: rest) = readVarintLoop bits rest 7 1 (byte.toNat % 128) := by
  have continued : ¬byte &&& 0x80 = 0 := by rw [and_0x80_eq_zero_iff]; omega
  rw [readVarint, readVarintLoop, if_neg (by omega), if_neg (by simp), if_neg continued,
    toNat_and_0x7f, or_shiftLeft_eq_add (by decide)]
  simp

/-! ### What a read that succeeds took -/

/-- A byte with the high bit is the first byte `write_varint` writes for a number with its seven
low bits and more above them. -/
theorem continuationByte_eq {byte : UInt8} (high : 128 ≤ byte.toNat) (u : Nat) :
    ((byte.toNat % 128 + 128 * u).toUInt8 &&& 0x7f) ||| 0x80 = byte := by
  apply UInt8.toNat_inj.mp
  rw [toNat_continuationByte]
  have := byte.toNat_lt
  omega

/-- From any shift, a read that succeeds either ended on a byte without the high bit, having taken
the bytes `write_varint` writes for the number it added above the shift, a nonzero number after the
first byte; or it ran out of input with every byte it took carrying the high bit. -/
theorem readVarintLoop_took (bits : Nat) (bytes : List UInt8) :
    ∀ shift read write, write < 2 ^ shift → 0 ≤ (readVarintLoop bits bytes shift read write).1 →
      (∃ u, (readVarintLoop bits bytes shift read write).2 = write + u * 2 ^ shift ∧
        bytes.take ((readVarintLoop bits bytes shift read write).1.toNat - read) = writeVarint u ∧
        (shift ≠ 0 → u ≠ 0)) ∨
      ((readVarintLoop bits bytes shift read write).1.toNat = read + bytes.length ∧
        ∀ b ∈ bytes, 128 ≤ b.toNat) := by
  induction bytes with
  | nil => intro shift read write _ _; exact .inr ⟨by simp [readVarintLoop], by simp⟩
  | cons byte rest ih =>
    intro shift read write hwrite ok
    rw [readVarintLoop] at ok ⊢
    dsimp only at ok ⊢
    split_ifs at ok ⊢ with overflow represent last
    · simp [evarintOverflow] at ok
    · simp [evarintRepresent] at ok
    · -- the last byte: it is the whole number it adds
      have low : byte.toNat < 128 := (and_0x80_eq_zero_iff byte).mp last
      refine .inl ⟨byte.toNat, ?_, ?_, fun nonzero zero => represent ⟨?_, nonzero⟩⟩
      · rw [toNat_and_0x7f, or_shiftLeft_eq_add hwrite, Nat.mod_eq_of_lt low]
      · rw [writeVarint_of_lt low]
        simp
      · exact UInt8.toNat_inj.mp (by rw [zero]; rfl)
    · have high : 128 ≤ byte.toNat := by
        rw [and_0x80_eq_zero_iff] at last
        omega
      rw [toNat_and_0x7f, or_shiftLeft_eq_add hwrite] at ok ⊢
      rcases ih (shift + 7) (read + 1) _ (add_septet_lt hwrite byte) ok with
        ⟨u, value, took, nonzero⟩ | ⟨count, allHigh⟩
      · -- the number read from here on is this byte's seven bits below the rest
        have positive := nonzero (by omega)
        have more : 1 ≤ (readVarintLoop bits rest (shift + 7) (read + 1)
            (write + byte.toNat % 128 * 2 ^ shift)).1.toNat - (read + 1) := by
          by_contra none
          rw [show (readVarintLoop bits rest (shift + 7) (read + 1)
              (write + byte.toNat % 128 * 2 ^ shift)).1.toNat - (read + 1) = 0 by omega,
            List.take_zero] at took
          exact writeVarint_ne_nil u took.symm
        refine .inl ⟨byte.toNat % 128 + 128 * u, ?_, ?_, fun _ => by omega⟩
        · rw [value, pow_add]
          ring
        · rw [show (readVarintLoop bits rest (shift + 7) (read + 1)
              (write + byte.toNat % 128 * 2 ^ shift)).1.toNat - read =
              (readVarintLoop bits rest (shift + 7) (read + 1)
                (write + byte.toNat % 128 * 2 ^ shift)).1.toNat - (read + 1) + 1 by omega,
            List.take_succ_cons, took, @writeVarint_of_le (byte.toNat % 128 + 128 * u) (by omega),
            continuationByte_eq high, show (byte.toNat % 128 + 128 * u) / 128 = u by omega]
      · refine .inr ⟨?_, ?_⟩
        · rw [count, List.length_cons]
          omega
        · intro b mem
          rcases List.mem_cons.mp mem with rfl | later
          · exact high
          · exact allHigh b later

/-- `write_varint` and `read_varint<bits>` are inverse on the numbers below `2 ^ bits` and the
bytes that spell them: a number written is read back with the count of its bytes, whatever
follows; and a read that succeeds either took exactly the bytes that `write_varint` writes for the
number it returns, or ran out of input inside a number. No other spelling of a number is read, as
`EVARINT_REPRESENT` refuses a last byte of zero after the first. -/
theorem readVarint_writeVarint_bijection (bits : Nat) :
    (∀ v, v < 2 ^ bits → ∀ rest,
      readVarint bits (writeVarint v ++ rest) = (((writeVarint v).length : Int), v)) ∧
    (∀ bytes, 0 ≤ (readVarint bits bytes).1 →
      bytes.take (readVarint bits bytes).1.toNat = writeVarint (readVarint bits bytes).2 ∨
        ((readVarint bits bytes).1 = bytes.length ∧ ∀ b ∈ bytes, 128 ≤ b.toNat)) := by
  refine ⟨fun v small rest => readVarint_writeVarint small rest, fun bytes ok => ?_⟩
  rcases readVarintLoop_took bits bytes 0 0 0 (by norm_num) ok with
    ⟨u, value, took, _⟩ | ⟨count, allHigh⟩
  · left
    simp only [readVarint, Nat.sub_zero] at value took ⊢
    rw [took, value, pow_zero, Nat.mul_one, Nat.zero_add]
  · right
    refine ⟨?_, allHigh⟩
    simp only [readVarint, Nat.zero_add] at count ok ⊢
    omega

/-- The number `0` spelled in two bytes is refused. -/
example : (readVarint 64 [0x80, 0x00]).1 = evarintRepresent := by decide

end Sumokoin.Tools
