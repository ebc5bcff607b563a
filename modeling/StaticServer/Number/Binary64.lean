/-!
# Rounding to binary64

A number with a binary exponent and 53 bits of significand, taken as the rational number it
is. `nearest` rounds any rational number to the closest of them, a tie going to the even
significand; there is none beyond the greatest. Every operation of floating-point arithmetic
is the exact one followed by `nearest`.
-/

namespace StaticServer.Binary64

/-- The integer closest to a rational number, a tie going to the even one. -/
def roundHalfEven (x : Rat) : Int :=
  let low := x.floor
  let rest := x - low
  if rest < 1 / 2 then low
  else if 1 / 2 < rest then low + 1
  else if low % 2 = 0 then low else low + 1

/-- The greatest `k` with `base ^ k ≤ x`, for a positive `x`, given one that is this or the
next greater. -/
def settleExponent (base : Rat) (x : Rat) (guess : Int) : Int :=
  if base ^ guess ≤ x then guess else guess - 1

/-- The binary exponent of a positive rational number: the greatest `k` with `2 ^ k ≤ x`. -/
def exponent (x : Rat) : Int :=
  settleExponent 2 x ((x.num.natAbs.log2 : Int) - x.den.log2)

/-- The distance between neighbours around a positive number; it does not shrink further
below the least normal number. -/
def spacing (x : Rat) : Rat :=
  2 ^ max (exponent x - 52) (-1074)

/-- The closest number to a positive one. -/
def nearestPositive (x : Rat) : Option Rat :=
  let u := spacing x
  let rounded := roundHalfEven (x / u) * u
  if rounded < Rat.pow 2 1024 then some rounded else none

/-- The closest number to a rational one, or `none` beyond the greatest. -/
def nearest (x : Rat) : Option Rat :=
  if x = 0 then some 0
  else if x < 0 then (nearestPositive (-x)).map (- ·)
  else nearestPositive x

/-- The closest number; zero stands for one that is beyond the greatest. -/
def round (x : Rat) : Rat :=
  (nearest x).getD 0

end StaticServer.Binary64
