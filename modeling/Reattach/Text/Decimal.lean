/-!
# Decimal digits
-/

namespace Reattach.Text

/-- The value of a row of decimal digits. -/
def natOfDigits (digits : List Char) : Nat :=
  digits.foldl (fun value digit => 10 * value + (digit.toNat - 0x30)) 0

end Reattach.Text
