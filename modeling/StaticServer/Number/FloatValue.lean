import StaticServer.Number.Shortest

/-!
# Floating-point values

A floating-point value is a binary64 number or one of the values that are no rational number:
the zero with a minus, the two infinities, and what is not a number. `number?` forgets the
sign of a zero.
-/

namespace StaticServer

/-- A floating-point value. -/
inductive FloatValue where
  /-- A binary64 number; its zero has no minus. -/
  | number (x : Rat)
  /-- The zero with a minus. -/
  | negativeZero
  /-- What is beyond the greatest number, or beyond the least one. -/
  | infinity (negative : Bool)
  /-- What is not a number. -/
  | notANumber
  deriving DecidableEq

namespace FloatValue

/-- The number that a value is, if it is one. -/
def number? : FloatValue → Option Rat
  | .number x => some x
  | .negativeZero => some 0
  | .infinity _ => none
  | .notANumber => none

/-- The text of a value. -/
def text : FloatValue → Text
  | .number x => Shortest.text x
  | .negativeZero => "-0.0"
  | .infinity negative => if negative then "-inf" else "inf"
  | .notANumber => "nan"

/-- The value of a rational number with a sign, rounded. -/
def ofMagnitude (negative : Bool) (x : Rat) : FloatValue :=
  match Binary64.nearest x with
  | none => .infinity negative
  | some y => if negative then (if y = 0 then .negativeZero else .number (-y)) else .number y

end FloatValue

end StaticServer
