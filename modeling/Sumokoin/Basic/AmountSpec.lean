import Sumokoin.Basic.Amount
import Mathlib

/-! What `parse_amount` accepts and what it reads: after the trim, a nonempty string of digits
with at most one point, whose fraction past `default_decimal_point` digits is zeros and whose value
in atomic units fits a `uint64_t` (`AmountText`). `print_money` writes such a string for each
`uint64_t` amount, so `parse_amount` reads back what it prints. -/

namespace Sumokoin.Basic

/-- `t` is a decimal number of coins, `intPart` before an optional point and `fracPart` after it,
worth `v` atomic units below `2 ^ 64`. -/
def AmountText (t : List Char) (v : Nat) : Prop :=
  ∃ intPart fracPart : List Char,
    (t = intPart ∧ fracPart = [] ∨ t = intPart ++ '.' :: fracPart) ∧
    (∀ c ∈ intPart ++ fracPart, c.isDigit) ∧ intPart ++ fracPart ≠ [] ∧
    (∀ c ∈ fracPart.drop defaultDecimalPoint, c = '0') ∧
    v * 10 ^ fracPart.length =
      Nat.ofDigitChars 10 (intPart ++ fracPart) 0 * 10 ^ defaultDecimalPoint ∧
    v < uint64Modulus

section Digits

theorem ofDigitChars_append_zeros (l : List Char) (n : Nat) :
    Nat.ofDigitChars 10 (l ++ List.replicate n '0') 0 = Nat.ofDigitChars 10 l 0 * 10 ^ n := by
  rw [Nat.ofDigitChars_append, Nat.ofDigitChars_replicate_zero, Nat.mul_comm]

theorem ofDigitChars_zeros_append (n : Nat) (l : List Char) :
    Nat.ofDigitChars 10 (List.replicate n '0' ++ l) 0 = Nat.ofDigitChars 10 l 0 := by
  rw [Nat.ofDigitChars_append, Nat.ofDigitChars_replicate_zero, Nat.mul_zero]

/-- Digits past the `f`-th that are zeros scale the value of those before them. -/
theorem ofDigitChars_take_of_zeros (intPart fracPart : List Char) {f : Nat}
    (zeros : ∀ c ∈ fracPart.drop f, c = '0') :
    Nat.ofDigitChars 10 (intPart ++ fracPart) 0 =
      Nat.ofDigitChars 10 (intPart ++ fracPart.take f) 0 * 10 ^ (fracPart.length - f) := by
  have rest : fracPart.drop f = List.replicate (fracPart.length - f) '0' :=
    List.eq_replicate_iff.mpr ⟨List.length_drop, zeros⟩
  conv => lhs; rw [← List.take_append_drop f fracPart, rest, ← List.append_assoc]
  exact ofDigitChars_append_zeros _ _

/-- The value of a fraction cut at `f ≤ 9` digits and filled up with zeros, in atomic units. -/
theorem atomicUnits_eq (intPart fracPart : List Char) {f : Nat} (le : f ≤ fracPart.length)
    (small : f ≤ defaultDecimalPoint) (zeros : ∀ c ∈ fracPart.drop f, c = '0') :
    Nat.ofDigitChars 10 (intPart ++ fracPart) 0 * 10 ^ defaultDecimalPoint =
      Nat.ofDigitChars 10 (intPart ++ fracPart.take f) 0 * 10 ^ (defaultDecimalPoint - f) *
        10 ^ fracPart.length := by
  rw [ofDigitChars_take_of_zeros intPart fracPart zeros, Nat.mul_assoc, Nat.mul_assoc,
    ← Nat.pow_add, ← Nat.pow_add]
  congr 2
  omega

end Digits

section Erase

theorem eraseTrailingZeros_of_le (strAmount : List Char) {n : Nat} (le : n ≤ defaultDecimalPoint) :
    eraseTrailingZeros strAmount n = (strAmount, n) := by
  cases n with
  | zero => rfl
  | succ n => rw [eraseTrailingZeros, if_neg (fun h => absurd h.1 (by omega))]

/-- Zeros past `default_decimal_point` digits of the fraction are all erased. -/
theorem eraseTrailingZeros_zeros (k : Nat) : ∀ (pre zeros : List Char), (∀ c ∈ zeros, c = '0') →
    zeros.length = k →
      eraseTrailingZeros (pre ++ zeros) (defaultDecimalPoint + k) = (pre, defaultDecimalPoint) := by
  induction k with
  | zero =>
    intro pre zeros _ empty
    rw [List.eq_nil_of_length_eq_zero empty, List.append_nil]
    exact eraseTrailingZeros_of_le pre le_rfl
  | succ k ih =>
    intro pre zeros allZero length
    have nonempty : zeros ≠ [] := List.ne_nil_of_length_pos (by omega)
    have last : (pre ++ zeros).getLast? = some '0' := by
      rw [List.getLast?_append_of_ne_nil pre nonempty, List.getLast?_eq_some_getLast nonempty,
        allZero _ (List.getLast_mem nonempty)]
    rw [show defaultDecimalPoint + (k + 1) = defaultDecimalPoint + k + 1 by omega, eraseTrailingZeros,
      if_pos ⟨by omega, last⟩, List.dropLast_append_of_ne_nil nonempty]
    exact ih pre zeros.dropLast (fun c mem => allZero c (List.dropLast_subset _ mem))
      (by rw [List.length_dropLast]; omega)

/-- What the loop leaves of a fraction: its first `f` digits, the rest zeros, and `f` is at least
`default_decimal_point` when the loop erased something. -/
theorem eraseTrailingZeros_eq (n : Nat) : ∀ (pre fraction : List Char), fraction.length = n →
    ∃ f, f ≤ n ∧ eraseTrailingZeros (pre ++ fraction) n = (pre ++ fraction.take f, f) ∧
      (∀ c ∈ fraction.drop f, c = '0') ∧ (f < n → defaultDecimalPoint ≤ f) := by
  induction n with
  | zero =>
    intro pre fraction empty
    refine ⟨0, le_rfl, ?_, ?_, fun lt => absurd lt (Nat.lt_irrefl 0)⟩
    · rw [List.eq_nil_of_length_eq_zero empty]
      rfl
    · rw [List.eq_nil_of_length_eq_zero empty]
      exact fun _ mem => absurd mem List.not_mem_nil
  | succ n ih =>
    intro pre fraction length
    have nonempty : fraction ≠ [] := List.ne_nil_of_length_pos (by omega)
    by_cases erase : defaultDecimalPoint < n + 1 ∧ (pre ++ fraction).getLast? = some '0'
    · -- the last digit is a zero: the loop goes on without it
      obtain ⟨rest, rfl⟩ : ∃ rest, fraction = rest ++ ['0'] := by
        rw [← List.getLast?_eq_some_iff, ← List.getLast?_append_of_ne_nil pre nonempty]
        exact erase.2
      rw [List.length_append, List.length_singleton] at length
      obtain ⟨f, le, loop, zeros, stop⟩ := ih pre rest (by omega)
      refine ⟨f, by omega, ?_, fun c mem => ?_, fun _ => ?_⟩
      · rw [eraseTrailingZeros, if_pos erase, List.dropLast_append_of_ne_nil nonempty,
          List.dropLast_concat, loop, List.take_append_of_le_length (by omega)]
      · rw [List.drop_append_of_le_length (by omega)] at mem
        rcases List.mem_append.mp mem with early | lastZero
        · exact zeros c early
        · exact List.mem_singleton.mp lastZero
      · rcases Nat.lt_or_ge f n with lt | ge
        · exact stop lt
        · omega
    · refine ⟨n + 1, le_rfl, ?_, fun c mem => ?_, fun lt => absurd lt (Nat.lt_irrefl _)⟩
      · rw [eraseTrailingZeros, if_neg erase, List.take_of_length_le (by omega)]
      · rw [List.drop_of_length_le (by omega)] at mem
        exact absurd mem List.not_mem_nil

/-- A fraction whose digits past `default_decimal_point` are zeros keeps at most that many. -/
theorem eraseTrailingZeros_of_zeros (pre fraction : List Char)
    (zeros : ∀ c ∈ fraction.drop defaultDecimalPoint, c = '0') :
    eraseTrailingZeros (pre ++ fraction) fraction.length =
      (pre ++ fraction.take (min defaultDecimalPoint fraction.length),
        min defaultDecimalPoint fraction.length) := by
  by_cases short : fraction.length ≤ defaultDecimalPoint
  · rw [Nat.min_eq_right short, List.take_length]
    exact eraseTrailingZeros_of_le _ short
  · rw [Nat.min_eq_left (by omega)]
    have split : pre ++ fraction = (pre ++ fraction.take defaultDecimalPoint) ++
        fraction.drop defaultDecimalPoint := by
      rw [List.append_assoc, List.take_append_drop]
    rw [split, show fraction.length = defaultDecimalPoint + (fraction.length - defaultDecimalPoint) by
      omega]
    exact eraseTrailingZeros_zeros _ _ _ zeros List.length_drop

end Erase

section Read

theorem getXtypeFromString_eq_some_iff (strId : List Char) (v : Nat) :
    getXtypeFromString strId = some v ↔
      strId ≠ [] ∧ (∀ c ∈ strId, c.isDigit) ∧ Nat.ofDigitChars 10 strId 0 = v ∧
        v < uint64Modulus := by
  unfold getXtypeFromString lexicalCastUint64
  by_cases digits : strId.all Char.isDigit
  · have allDigits : ∀ c ∈ strId, c.isDigit := List.all_eq_true.mp digits
    rw [if_pos digits]
    by_cases empty : strId = []
    · simp [empty]
    · rw [if_neg empty]
      split_ifs with fits
      · simp only [Option.some.injEq]
        constructor
        · intro value
          exact ⟨empty, allDigits, value, value ▸ fits⟩
        · exact fun ⟨_, _, value, _⟩ => value
      · simp only [false_iff]
        rintro ⟨-, -, rfl, fits'⟩
        exact fits fits'
  · rw [if_neg digits]
    simp only [reduceCtorEq, false_iff]
    rintro ⟨-, allDigits, -⟩
    exact digits (List.all_eq_true.mpr allDigits)

/-- What the end of `parse_amount` reads from the digits left with a fraction of `f` digits. -/
theorem readAtomicUnits_eq_some_iff (strAmount : List Char) {f : Nat} (le : f ≤ defaultDecimalPoint)
    (v : Nat) :
    readAtomicUnits strAmount f = some v ↔
      strAmount ≠ [] ∧ (∀ c ∈ strAmount, c.isDigit) ∧
        Nat.ofDigitChars 10 strAmount 0 * 10 ^ (defaultDecimalPoint - f) = v ∧
        v < uint64Modulus := by
  by_cases empty : strAmount = []
  · simp [readAtomicUnits, empty]
  · have filled : readAtomicUnits strAmount f =
        getXtypeFromString (strAmount ++ List.replicate (defaultDecimalPoint - f) '0') := by
      rw [readAtomicUnits, if_neg (by simpa using empty)]
      split_ifs with lt
      · rfl
      · rw [show defaultDecimalPoint - f = 0 by omega, List.replicate_zero, List.append_nil]
    have zeroDigit : ∀ c ∈ List.replicate (defaultDecimalPoint - f) '0', c.isDigit := fun c mem => by
      rw [List.eq_of_mem_replicate mem]
      rfl
    rw [filled, getXtypeFromString_eq_some_iff, ofDigitChars_append_zeros]
    constructor
    · rintro ⟨-, digits, value, fits⟩
      exact ⟨empty, fun c mem => digits c (List.mem_append_left _ mem), value, fits⟩
    · rintro ⟨-, digits, value, fits⟩
      refine ⟨fun nil => empty (List.append_eq_nil_iff.mp nil).1, fun c mem => ?_, value, fits⟩
      rcases List.mem_append.mp mem with early | zero
      · exact digits c early
      · exact zeroDigit c zero

end Read

section Point

/-- A string of digits has no point. -/
theorem point_not_mem {l : List Char} (digits : ∀ c ∈ l, c.isDigit) : '.' ∉ l := fun mem =>
  absurd (digits '.' mem) (by decide)

theorem idxOf?_point {a : List Char} (noPoint : '.' ∉ a) (b : List Char) :
    (a ++ '.' :: b).idxOf? '.' = some a.length := by
  induction a with
  | nil =>
    rw [List.nil_append, List.idxOf?_cons, if_pos (beq_self_eq_true _)]
    rfl
  | cons c a ih =>
    have other : c ≠ '.' := fun same => noPoint (same ▸ List.mem_cons_self)
    rw [List.cons_append, List.idxOf?_cons, if_neg (by simpa using other),
      ih (fun mem => noPoint (List.mem_cons_of_mem _ mem))]
    rfl

/-- A string has no point, or a first one. -/
theorem exists_first_point : ∀ t : List Char, '.' ∉ t ∨ ∃ a b, t = a ++ '.' :: b ∧ '.' ∉ a
  | [] => .inl List.not_mem_nil
  | c :: t => by
    by_cases point : c = '.'
    · exact .inr ⟨[], t, by rw [point]; rfl, List.not_mem_nil⟩
    · rcases exists_first_point t with none | ⟨a, b, rfl, noPoint⟩
      · exact .inl (fun mem => (List.mem_cons.mp mem).elim (fun same => point same.symm) none)
      · refine .inr ⟨c :: a, b, rfl, fun mem => ?_⟩
        exact (List.mem_cons.mp mem).elim (fun same => point same.symm) noPoint

theorem parseAmount_of_noPoint {strAmount : List Char} (noPoint : '.' ∉ trim strAmount) :
    parseAmount strAmount = readAtomicUnits (trim strAmount) 0 := by
  rw [parseAmount]
  simp only
  rw [List.idxOf?_eq_none_iff.mpr noPoint]

theorem parseAmount_of_point {strAmount a b : List Char} (split : trim strAmount = a ++ '.' :: b)
    (noPoint : '.' ∉ a) :
    parseAmount strAmount =
      if defaultDecimalPoint < (eraseTrailingZeros (a ++ ['.'] ++ b) b.length).2 then none
      else readAtomicUnits ((eraseTrailingZeros (a ++ ['.'] ++ b) b.length).1.eraseIdx a.length)
        (eraseTrailingZeros (a ++ ['.'] ++ b) b.length).2 := by
  have length : (a ++ '.' :: b).length - a.length - 1 = b.length := by simp
  rw [parseAmount]
  simp only
  rw [split, idxOf?_point noPoint b]
  simp only [length, ← List.append_cons]

/-- Erasing the point after the integer part. -/
theorem eraseIdx_point (a rest : List Char) : (a ++ ['.'] ++ rest).eraseIdx a.length = a ++ rest := by
  rw [List.append_assoc, List.eraseIdx_append_of_length_le le_rfl, Nat.sub_self]
  rfl

end Point

section Parse

/-- What `parse_amount` reads from a string with a point, once the loop has left `f` digits of the
fraction. -/
theorem amountText_of_point {a b : List Char} {f v : Nat} (le : f ≤ b.length)
    (small : f ≤ defaultDecimalPoint) (zeros : ∀ c ∈ b.drop f, c = '0')
    (stop : f < b.length → defaultDecimalPoint ≤ f)
    (read : readAtomicUnits (a ++ b.take f) f = some v) : AmountText (a ++ '.' :: b) v := by
  obtain ⟨nonempty, digits, value, fits⟩ := (readAtomicUnits_eq_some_iff _ small v).mp read
  refine ⟨a, b, .inr rfl, fun c mem => ?_, fun empty => ?_, fun c mem => ?_, ?_, fits⟩
  · rcases List.mem_append.mp mem with early | late
    · exact digits c (List.mem_append_left _ early)
    · rw [← List.take_append_drop f b] at late
      rcases List.mem_append.mp late with kept | erased
      · exact digits c (List.mem_append_right _ kept)
      · rw [zeros c erased]
        rfl
  · obtain ⟨rfl, rfl⟩ := List.append_eq_nil_iff.mp empty
    exact nonempty (by simp)
  · -- the zeros past the ninth digit were erased, or there are none
    rcases Nat.lt_or_ge f b.length with lt | ge
    · rw [show defaultDecimalPoint = f by have := stop lt; omega] at mem
      exact zeros c mem
    · rw [List.drop_of_length_le (by omega)] at mem
      exact absurd mem List.not_mem_nil
  · rw [atomicUnits_eq a b le small zeros, value]

/-- `parse_amount` accepts exactly the decimal numbers of coins of `AmountText`, and reads their
value in atomic units. -/
theorem parseAmount_eq_some_iff (strAmount : List Char) (v : Nat) :
    parseAmount strAmount = some v ↔ AmountText (trim strAmount) v := by
  constructor
  · intro parsed
    rcases exists_first_point (trim strAmount) with noPoint | ⟨a, b, split, noPoint⟩
    · rw [parseAmount_of_noPoint noPoint, readAtomicUnits_eq_some_iff _ (Nat.zero_le _)] at parsed
      obtain ⟨nonempty, digits, value, fits⟩ := parsed
      refine ⟨trim strAmount, [], .inl ⟨rfl, rfl⟩, by simpa using digits, by simpa using nonempty,
        fun c mem => absurd mem List.not_mem_nil, ?_, fits⟩
      rw [List.append_nil, List.length_nil, Nat.pow_zero, Nat.mul_one, ← value, Nat.sub_zero]
    · obtain ⟨f, le, erased, zeros, stop⟩ := eraseTrailingZeros_eq b.length (a ++ ['.']) b rfl
      rw [parseAmount_of_point split noPoint, erased] at parsed
      simp only at parsed
      split_ifs at parsed with big
      rw [eraseIdx_point] at parsed
      rw [split]
      exact amountText_of_point le (by omega) zeros stop parsed
  · rintro ⟨a, b, shape, digits, nonempty, zeros, equation, fits⟩
    have noPoint : '.' ∉ a := point_not_mem fun c mem => digits c (List.mem_append_left _ mem)
    rcases shape with ⟨split, rfl⟩ | split
    · rw [parseAmount_of_noPoint (split ▸ noPoint), split,
        readAtomicUnits_eq_some_iff _ (Nat.zero_le _)]
      rw [List.append_nil, List.length_nil, Nat.pow_zero, Nat.mul_one] at equation
      exact ⟨by simpa using nonempty, by simpa using digits, by rw [Nat.sub_zero]; exact equation.symm,
        fits⟩
    · -- the loop leaves the first `f` digits of the fraction, at most nine
      have small : min defaultDecimalPoint b.length ≤ defaultDecimalPoint := Nat.min_le_left _ _
      have le : min defaultDecimalPoint b.length ≤ b.length := Nat.min_le_right _ _
      have kept : ∀ c ∈ b.drop (min defaultDecimalPoint b.length), c = '0' := fun c mem => by
        rcases Nat.le_total defaultDecimalPoint b.length with long | short
        · rw [Nat.min_eq_left long] at mem
          exact zeros c mem
        · rw [Nat.min_eq_right short, List.drop_length] at mem
          exact absurd mem List.not_mem_nil
      rw [parseAmount_of_point split noPoint, eraseTrailingZeros_of_zeros _ b zeros]
      simp only
      rw [if_neg (by omega), eraseIdx_point, readAtomicUnits_eq_some_iff _ small]
      refine ⟨fun empty => ?_, fun c mem => ?_, ?_, fits⟩
      · obtain ⟨rfl, taken⟩ := List.append_eq_nil_iff.mp empty
        rcases List.take_eq_nil_iff.mp taken with none | rfl
        · -- nothing kept of a nonempty fraction would mean nine digits were kept
          have : b.length = 0 := by
            have nine : defaultDecimalPoint = 9 := rfl
            omega
          exact nonempty (by rw [List.nil_append]; exact List.eq_nil_of_length_eq_zero this)
        · exact nonempty rfl
      · rcases List.mem_append.mp mem with early | late
        · exact digits c (List.mem_append_left _ early)
        · exact digits c (List.mem_append_right _ (List.mem_of_mem_take late))
      · rw [atomicUnits_eq a b le small kept] at equation
        exact (Nat.eq_of_mul_eq_mul_right (Nat.pow_pos (by decide)) equation).symm

example : parseAmount " 0.0000000010".toList = some 1 := by decide

example : parseAmount "18446744073.709551616".toList = none := by decide

example : parseAmount "0.0.0".toList = none := by decide

end Parse

section Print

theorem isSpace_of_isDigit {c : Char} (digit : c.isDigit) : isSpace c = false := by
  simp only [Char.isDigit, Bool.and_eq_true, decide_eq_true_eq] at digit
  simp only [isSpace, Bool.or_eq_false_iff, decide_eq_false_iff_not, Bool.and_eq_false_iff]
  refine ⟨fun same => ?_, .inr fun le => ?_⟩
  · rw [same] at digit
    exact absurd digit.1 (by decide)
  · exact absurd (Char.le_trans digit.1 le) (by decide)

theorem dropWhile_isSpace_of_forall (l : List Char) (noSpace : ∀ c ∈ l, isSpace c = false) :
    l.dropWhile isSpace = l := by
  cases l with
  | nil => rfl
  | cons c l => rw [List.dropWhile_cons_of_neg (by simp [noSpace c List.mem_cons_self])]

theorem trim_of_forall {t : List Char} (noSpace : ∀ c ∈ t, isSpace c = false) : trim t = t := by
  rw [trim, dropWhile_isSpace_of_forall t.reverse (fun c mem => noSpace c (List.mem_reverse.mp mem)),
    List.reverse_reverse, dropWhile_isSpace_of_forall t noSpace]

/-- `print_money(amount)` at the default decimal point: the point before the last nine of at least
ten digits that spell the amount. -/
theorem printMoney_eq (amount : Nat) :
    ∃ digits : List Char, printMoney amount unsignedMinusOne =
        digits.take (digits.length - defaultDecimalPoint) ++
          '.' :: digits.drop (digits.length - defaultDecimalPoint) ∧
      defaultDecimalPoint < digits.length ∧ (∀ c ∈ digits, c.isDigit) ∧
      Nat.ofDigitChars 10 digits 0 = amount := by
  have written : ∀ c ∈ Nat.toDigits 10 amount, c.isDigit := fun c mem =>
    Nat.isDigit_of_mem_toDigits (by decide) (by decide) mem
  rw [printMoney, if_pos rfl, if_pos (by decide)]
  split_ifs with short
  · -- zeros before the digits, up to ten digits
    refine ⟨_, rfl, by rw [List.length_append, List.length_replicate]; omega, fun c mem => ?_, ?_⟩
    · rcases List.mem_append.mp mem with zero | digit
      · rw [List.eq_of_mem_replicate zero]
        rfl
      · exact written c digit
    · rw [ofDigitChars_zeros_append, Nat.ofDigitChars_ten_toDigits]
  · exact ⟨_, rfl, by omega, written, Nat.ofDigitChars_ten_toDigits⟩

/-- `print_money` writes a decimal number of coins worth the amount. -/
theorem amountText_printMoney {amount : Nat} (fits : amount < uint64Modulus) :
    AmountText (trim (printMoney amount unsignedMinusOne)) amount := by
  obtain ⟨digits, printed, long, allDigits, value⟩ := printMoney_eq amount
  have fraction : (digits.drop (digits.length - defaultDecimalPoint)).length = defaultDecimalPoint := by
    rw [List.length_drop]
    omega
  have whole : digits.take (digits.length - defaultDecimalPoint) ++
      digits.drop (digits.length - defaultDecimalPoint) = digits := List.take_append_drop _ _
  have noSpace : ∀ c ∈ printMoney amount unsignedMinusOne, isSpace c = false := fun c mem => by
    rw [printed, ← List.singleton_append, ← List.append_assoc] at mem
    rcases List.mem_append.mp mem with left | right
    · rcases List.mem_append.mp left with early | point
      · exact isSpace_of_isDigit (allDigits c (List.mem_of_mem_take early))
      · rw [List.mem_singleton.mp point]
        rfl
    · exact isSpace_of_isDigit (allDigits c (List.mem_of_mem_drop right))
  rw [trim_of_forall noSpace, printed]
  refine ⟨_, _, .inr rfl, by rw [whole]; exact allDigits, fun empty => ?_, fun c mem => ?_, ?_, fits⟩
  · rw [whole] at empty
    rw [empty, List.length_nil] at long
    exact Nat.not_lt_zero _ long
  · rw [List.drop_of_length_le (by rw [fraction])] at mem
    exact absurd mem List.not_mem_nil
  · rw [fraction, whole, value]

end Print

/-- At the default decimal point, `parse_amount` reads back what `print_money` writes for every
`uint64_t` amount, and it accepts a string exactly when, trimmed, it is a nonempty string of
digits with at most one point, no nonzero digit past the ninth of the fraction and a value in atomic
units below `2 ^ 64`, which it then reads. -/
theorem parseAmount_printMoney :
    (∀ amount, amount < uint64Modulus →
      parseAmount (printMoney amount unsignedMinusOne) = some amount) ∧
    ∀ strAmount v, parseAmount strAmount = some v ↔ AmountText (trim strAmount) v :=
  ⟨fun _ fits => (parseAmount_eq_some_iff _ _).mpr (amountText_printMoney fits),
    parseAmount_eq_some_iff⟩

theorem parseAmount_printMoney_maxAmount :
    parseAmount (printMoney 18446744073709551615 unsignedMinusOne) = some 18446744073709551615 :=
  parseAmount_printMoney.1 _ (by decide)

end Sumokoin.Basic
