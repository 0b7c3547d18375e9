import Sumokoin.Config

/-! `parse_amount` and `print_money` of `cryptonote_basic/cryptonote_format_utils.cpp`: an amount in
atomic units written as a decimal number of coins, with `default_decimal_point` decimals. A `char`
of a `std::string` is a `Char` here, and `std::to_string` of a number its `Nat.toDigits 10`.
`boost::lexical_cast<uint64_t>`, which `get_xtype_from_string` calls on digits only, reads a string
of digits as the number it spells and fails past `uint64_t`. -/

namespace Sumokoin.Basic

/-- `CRYPTONOTE_DISPLAY_DECIMAL_POINT`, the value of `default_decimal_point`. -/
def defaultDecimalPoint : Nat := 9

/-- `(unsigned int)-1`, the default `decimal_point` of `print_money`. -/
def unsignedMinusOne : Nat := 4294967295

/-- `std::isspace` in the C locale: space, and tab to carriage return. -/
def isSpace (c : Char) : Bool := c = ' ' || ('\t' ≤ c && c ≤ '\r')

/-- `boost::algorithm::trim`: the spaces at the end, then those at the start. -/
def trim (s : List Char) : List Char := (s.reverse.dropWhile isSpace).reverse.dropWhile isSpace

/-- `boost::lexical_cast<uint64_t>` of a string of digits. -/
def lexicalCastUint64 (s : List Char) : Option Nat :=
  if s = [] then none
  else if Nat.ofDigitChars 10 s 0 < uint64Modulus then some (Nat.ofDigitChars 10 s 0) else none

/-- `string_tools::get_xtype_from_string(val, str_id)` for `uint64_t`: every `char` must pass
`epee::misc_utils::parse::isdigit`, which holds of `'0'` to `'9'`. -/
def getXtypeFromString (strId : List Char) : Option Nat :=
  if strId.all Char.isDigit then lexicalCastUint64 strId else none

/-- The loop `while (default_decimal_point < fraction_size && '0' == str_amount.back())`, which
erases the last `char` and counts it off the fraction. -/
def eraseTrailingZeros : List Char → Nat → List Char × Nat
  | strAmount, 0 => (strAmount, 0)
  | strAmount, fractionSize + 1 =>
    if defaultDecimalPoint < fractionSize + 1 ∧ strAmount.getLast? = some '0' then
      eraseTrailingZeros strAmount.dropLast fractionSize
    else (strAmount, fractionSize + 1)

/-- The end of `parse_amount`, once the point is erased: an empty string fails, and the fraction
is filled up to `default_decimal_point` digits with zeros. -/
def readAtomicUnits (strAmount : List Char) (fractionSize : Nat) : Option Nat :=
  if strAmount.isEmpty then none
  else if fractionSize < defaultDecimalPoint then
    getXtypeFromString (strAmount ++ List.replicate (defaultDecimalPoint - fractionSize) '0')
  else getXtypeFromString strAmount

/-- `parse_amount(amount, str_amount_)`: the amount, or `none` when it returns `false`. A fraction
longer than `default_decimal_point` digits fails unless the digits past them are zeros. -/
def parseAmount (strAmount : List Char) : Option Nat :=
  let strAmount := trim strAmount
  match strAmount.idxOf? '.' with
  | some pointIndex =>
    let erased := eraseTrailingZeros strAmount (strAmount.length - pointIndex - 1)
    if defaultDecimalPoint < erased.2 then none
    else readAtomicUnits (erased.1.eraseIdx pointIndex) erased.2
  | none => readAtomicUnits strAmount 0

/-- `print_money(amount, decimal_point)`: the digits of the amount, with zeros before them up to
`decimal_point + 1` digits, and the point before the last `decimal_point`. -/
def printMoney (amount decimalPoint : Nat) : List Char :=
  let decimalPoint := if decimalPoint = unsignedMinusOne then defaultDecimalPoint else decimalPoint
  let s := Nat.toDigits 10 amount
  let s := if s.length < decimalPoint + 1 then List.replicate (decimalPoint + 1 - s.length) '0' ++ s
    else s
  if decimalPoint > 0 then s.take (s.length - decimalPoint) ++ '.' :: s.drop (s.length - decimalPoint)
  else s

end Sumokoin.Basic
