/-!
# The range of floating-point numbers

A decimal number that is not kept as it is would be read as a floating-point number of
sixty-four bits.  Some have no such number: they lie beyond the largest.  The number is
the product of two that are rounded first, the leading digits and the power of ten they
are scaled by, so the bound is on that product and not on the decimal number itself.
-/

namespace Reattach.Text

/-- A whole number rounded to fifty-three binary digits.  A tie goes to the even one. -/
def roundToFloat (value : Nat) : Nat :=
  let unit := Nat.pow 2 (value.log2 - 52)
  let rest := value % unit
  let isAbove := unit < 2 * rest || unit == 2 * rest && value / unit % 2 == 1
  value - rest + if isAbove then unit else 0

/-- The least product that is too large: it lies halfway from the largest floating-point
number to what would come next. -/
def floatLimit : Nat := Nat.pow 2 1024 - Nat.pow 2 970

/-- Digits appended to a number for as long as sixty-four bits hold it, with the digits
that are left over. -/
def appendDigits (value : Nat) : List Char → Nat × List Char
  | [] => (value, [])
  | digit :: rest =>
      let next := 10 * value + (digit.toNat - 0x30)
      if next < UInt64.size then appendDigits next rest else (value, digit :: rest)

/-- Whether a number of the given digits, before and after the mark, and exponent is in
range.  Whole digits that are left over scale the number; decimal ones are dropped. -/
def isInFloatRange (whole decimals : List Char) (exponent : Int) : Bool :=
  let (value, leftOver) := appendDigits 0 whole
  let (value, dropped) := appendDigits value decimals
  let power := exponent + leftOver.length - (decimals.length - dropped.length : Nat)
  value == 0 || power < 0 ||
    power ≤ 308 && roundToFloat value * roundToFloat (Nat.pow 10 power.toNat) < floatLimit

end Reattach.Text
