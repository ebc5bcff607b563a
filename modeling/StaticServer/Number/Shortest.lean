import StaticServer.Number.Binary64
import StaticServer.Text.Integer

/-!
# The shortest decimal text of a binary64 number

The text has the fewest digits that read back to the same number, and among those the
closest to it; of two that are equally close, the one with an even last digit. `digits` finds
them by trying one digit, two digits and so on: on each grid only the two neighbours of the
number can be closest. `layout` then writes digits in positional form or, for great and small
numbers, with an exponent.
-/

namespace StaticServer.Shortest

/-- A number `digits · 10 ^ exponent`. -/
structure Decimal where
  /-- The digits as a number. -/
  digits : Nat
  /-- The power of ten. -/
  exponent : Int

/-- The rational number that a decimal stands for. -/
def Decimal.value (d : Decimal) : Rat :=
  d.digits * 10 ^ d.exponent

/-- The greatest `k` with `10 ^ k ≤ x`, for a positive `x`. -/
def decimalExponent (x : Rat) : Int :=
  Binary64.settleExponent 10 x
    (((Text.ofNat x.num.natAbs).length : Int) - (Text.ofNat x.den).length)

/-- Does a decimal read back as `x`? -/
def readsBack (x : Rat) (d : Decimal) : Bool :=
  Binary64.nearest d.value = some x

/-- Of a decimal below `x` and the next one above it, the closer one; when both are equally
close, the even one. -/
def closer (x : Rat) (below above : Decimal) : Decimal :=
  let down := x - below.value
  let up := above.value - x
  if down < up then below
  else if up < down then above
  else if below.digits % 2 = 0 then below else above

/-- The neighbour of `x` on the grid of `10 ^ k` that reads back as `x`, the closer one when
both do. -/
def onGrid (x : Rat) (k : Int) : Option Decimal :=
  let low : Nat := (x / 10 ^ k).floor.toNat
  let below : Decimal := ⟨low, k⟩
  let above : Decimal := ⟨low + 1, k⟩
  match readsBack x below, readsBack x above with
  | true, true => some (closer x below above)
  | true, false => some below
  | false, true => some above
  | false, false => none

/-- The decimal with the fewest digits that reads back as the positive `x`. Seventeen digits
are always enough. -/
def digits (x : Rat) : Decimal :=
  let top := decimalExponent x
  ((List.range 17).findSome? fun (n : Nat) ↦ onGrid x (top - n)).getD ⟨0, 0⟩

/-- Where the layout changes and how the exponent is written. -/
structure Layout where
  /-- The least position of the point, counted from the first digit, in positional form. -/
  least : Int
  /-- The greatest position of the point in positional form. -/
  greatest : Int
  /-- The least number of digits of an exponent. -/
  exponentWidth : Nat

/-- Positional from `0.0001` up to sixteen digits before the point; two digits of exponent. -/
def plain : Layout :=
  ⟨-3, 16, 2⟩

/-- Writes digits with the point behind the first `point` of them. -/
def positional (ds : Text) (point : Int) : Text :=
  if point ≤ 0 then "0." ++ (List.replicate (-point).toNat '0' ++ ds)
  else
    let whole := ds.take point.toNat ++ List.replicate (point.toNat - ds.length) '0'
    let rest := ds.drop point.toNat
    whole ++ '.' :: (if rest.isEmpty then ['0'] else rest)

/-- Writes digits with the point behind the first of them and an exponent. -/
def scientific (width : Nat) (ds : Text) (exponent : Int) : Text :=
  let rest := ds.drop 1
  ds.take 1 ++ (if rest.isEmpty then [] else '.' :: rest) ++
    'e' :: (if exponent < 0 then '-' else '+') :: Text.padZero width (Text.ofNat exponent.natAbs)

/-- Writes a decimal number, without the zeros that end its digits. -/
def Decimal.layout (l : Layout) (d : Decimal) : Text :=
  let all := Text.ofNat d.digits
  let point := all.length + d.exponent
  let ds := Text.trimRightBy (· == '0') all
  if l.least ≤ point ∧ point ≤ l.greatest then positional ds point
  else scientific l.exponentWidth ds (point - 1)

/-- The text of a binary64 number. -/
def text (x : Rat) : Text :=
  if x = 0 then "0.0"
  else if x < 0 then '-' :: (digits (-x)).layout plain
  else (digits x).layout plain

end StaticServer.Shortest
