/-!
# Spans of code points

Properties of characters are given as spans of code points, and case mappings as
spans whose members move by one common distance.
-/

namespace Reattach.Text

/-- The code points from `first` to `last`, both included. -/
structure CodeSpan where
  first : Nat
  last : Nat
  deriving DecidableEq

/-- Whether a code point lies in the span. -/
def CodeSpan.contains (span : CodeSpan) (code : Nat) : Bool :=
  span.first ≤ code && code ≤ span.last

/-- Whether a character lies in one of the spans. -/
def inSpans (spans : List CodeSpan) (char : Char) : Bool :=
  spans.any (·.contains char.toNat)

/-- Every `step`-th code point from `first` to `last`, moved so that `first` goes to
`target`. -/
structure CaseSpan where
  first : Nat
  last : Nat
  step : Nat
  target : Nat
  deriving DecidableEq

/-- Where the span moves a code point, if it is one of its members. -/
def CaseSpan.move? (span : CaseSpan) (code : Nat) : Option Nat :=
  if span.first ≤ code && code ≤ span.last && (code - span.first) % span.step == 0 then
    some (span.target + (code - span.first))
  else
    none

end Reattach.Text
