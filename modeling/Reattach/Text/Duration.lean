/-!
# Lengths of time in messages

A length of whole milliseconds is given in milliseconds below one second and in
seconds from there on, with as many decimals as it needs.
-/

namespace Reattach.Text

/-- The thousandths of a second as decimals, without trailing zeros. -/
def decimalsOfThousandths (thousandths : Nat) : String :=
  let digits := [thousandths / 100, thousandths / 10 % 10, thousandths % 10]
  let needed := (digits.reverse.dropWhile (· == 0)).reverse
  if needed.isEmpty then "" else "." ++ String.join (needed.map toString)

/-- A number of milliseconds with its unit. -/
def durationOfMillis (millis : Nat) : String :=
  if millis = 0 then "0ns"
  else if millis < 1000 then toString millis ++ "ms"
  else toString (millis / 1000) ++ decimalsOfThousandths (millis % 1000) ++ "s"

end Reattach.Text
