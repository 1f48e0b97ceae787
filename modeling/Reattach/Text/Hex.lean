/-!
# Hexadecimal digits

Bytes are written as two lower-case digits.  A pair is read in either case, and its
first place may also hold a plus sign, which leaves the second digit as the value.
-/

namespace Reattach.Text

/-- The lower-case digit of a value below sixteen. -/
def hexDigit (value : Nat) : Char :=
  Char.ofNat (if value < 10 then 0x30 + value else 0x57 + value)

/-- The value of a digit of either case. -/
def hexValue? (char : Char) : Option Nat :=
  if '0' ≤ char && char ≤ '9' then some (char.toNat - 0x30)
  else if 'a' ≤ char && char ≤ 'f' then some (char.toNat - 0x57)
  else if 'A' ≤ char && char ≤ 'F' then some (char.toNat - 0x37)
  else none

/-- A byte as two digits. -/
def hexPair (byte : UInt8) : List Char :=
  [hexDigit (byte.toNat / 16), hexDigit (byte.toNat % 16)]

/-- The byte of a pair of characters. -/
def byteOfPair? (high low : Char) : Option UInt8 :=
  if high = '+' then
    (hexValue? low).map UInt8.ofNat
  else do
    let high ← hexValue? high
    let low ← hexValue? low
    some (UInt8.ofNat (16 * high + low))

/-- Bytes as pairs of digits. -/
def hexOfBytes (bytes : List UInt8) : String := String.ofList (bytes.flatMap hexPair)

/-- The bytes of a row of pairs; none if a character is left over or no digit. -/
def bytesOfPairs? : List Char → Option (List UInt8)
  | [] => some []
  | [_] => none
  | high :: low :: rest => do
      let byte ← byteOfPair? high low
      let bytes ← bytesOfPairs? rest
      some (byte :: bytes)

theorem hexValue?_hexDigit {value : Nat} (isDigit : value < 16) :
    hexValue? (hexDigit value) = some value := by
  revert value
  decide

theorem hexDigit_ne_plus {value : Nat} (isDigit : value < 16) : hexDigit value ≠ '+' := by
  revert value
  decide

theorem byteOfPair?_hexDigits (byte : UInt8) :
    byteOfPair? (hexDigit (byte.toNat / 16)) (hexDigit (byte.toNat % 16)) = some byte := by
  have small := byte.toNat_lt
  have high : byte.toNat / 16 < 16 := by omega
  have low : byte.toNat % 16 < 16 := Nat.mod_lt _ (by decide)
  simp only [byteOfPair?, hexDigit_ne_plus high, if_false, hexValue?_hexDigit high,
    hexValue?_hexDigit low]
  change some (UInt8.ofNat (16 * (byte.toNat / 16) + byte.toNat % 16)) = some byte
  rw [Nat.div_add_mod, UInt8.ofNat_toNat]

theorem bytesOfPairs?_hexPairs (bytes : List UInt8) :
    bytesOfPairs? (bytes.flatMap hexPair) = some bytes := by
  induction bytes with
  | nil => rfl
  | cons byte rest ih =>
      simp only [List.flatMap_cons, hexPair, List.cons_append, List.nil_append, bytesOfPairs?,
        byteOfPair?_hexDigits]
      rw [ih]
      rfl

end Reattach.Text
