import StaticServer.Text.Integer

/-!
# Whole numbers in settings

A text is read as a whole number in two steps. First it is read as it stands (`read`): a
minus perhaps, and digits of ASCII without a zero in front of others. A text that is no such
number is tidied (`tidy?`) and read once more: blanks around it, a plus, zeros in front, zeros
behind a point and single underscores are taken away. The zeros in front may have underscores
among them, and the number that they stand before may still have its minus.

Only the first step tells a number that is too long from a text that is no number.
-/

namespace StaticServer.Numeral

/-- Why a text gives no number. -/
inductive Fault where
  /-- It is no number. -/
  | malformed
  /-- It has too many digits. -/
  | tooLong
  deriving DecidableEq, Repr

/-- A digit other than zero. -/
def isNonzero (c : Char) : Bool :=
  c.isDigit && c ≠ '0'

/-- The number with these digits behind a minus or without one. -/
def ofDigits (negative : Bool) (digits : Text) : Int :=
  Text.signed negative (Nat.ofDigitChars 10 digits 0)

/-- Reads digits up to the end of the text. What follows too many digits is not looked at. -/
def readDigits (negative : Bool) (t : Text) : Except Fault Int :=
  let digits := t.takeWhile Char.isDigit
  if Text.digitLimit < digits.length then .error .tooLong
  else if digits = t then .ok (ofDigits negative digits)
  else .error .malformed

/-- Reads a number without its minus. -/
def readMagnitude (negative : Bool) (t : Text) : Except Fault Int :=
  match t with
  | [] => .error .malformed
  | c :: _ =>
    if isNonzero c then readDigits negative t
    else if t = ['0'] then .ok 0
    else .error .malformed

/-- Reads a number as it stands. -/
def read (t : Text) : Except Fault Int :=
  match t with
  | '-' :: rest => readMagnitude true rest
  | _ => readMagnitude false t

/-- What follows zeros and underscores, the last of which is given. A point keeps what stands
before it, and so does the end of the text. -/
def pastZeros? (last : Char) : Text → Option Text
  | [] => some [last]
  | c :: t =>
    if c = '0' || c = '_' then pastZeros? c t
    else if c = '.' then some (last :: c :: t)
    else if c = '-' || isNonzero c then some (c :: t)
    else none

/-- A text that starts with a digit, without the zeros in front. -/
def dropZeros? (t : Text) : Option Text :=
  match t with
  | [] => none
  | c :: rest =>
    if c = '0' then pastZeros? c rest
    else if isNonzero c then some t
    else none

/-- A text without a point and zeros at its end, if there is at least one zero. -/
def dropZeroFraction (t : Text) : Text :=
  match Text.cut '.' t with
  | (whole, some (z :: zeros)) => if (z :: zeros).all (· == '0') then whole else t
  | _ => t

/-- A text without its underscores, if each of them stands between two other characters. -/
def dropUnderscores (t : Text) : Text :=
  let parts := t.splitOn '_'
  if parts.all (!·.isEmpty) then parts.flatten else t

/-- A number without its sign, tidied. -/
def tidyMagnitude? (t : Text) : Option Text :=
  (dropZeros? t).map fun t ↦ dropUnderscores (dropZeroFraction t)

/-- A number, tidied. -/
def tidy? (t : Text) : Option Text :=
  match Text.trimSpace t with
  | '-' :: rest => (tidyMagnitude? rest).map ('-' :: ·)
  | '+' :: rest => tidyMagnitude? rest
  | rest => tidyMagnitude? rest

/-- The number that a text gives as it stands or else tidied. -/
def ofText (t : Text) : Except Fault Int :=
  match read t, (tidy? t).map read with
  | .error .malformed, some (.ok n) => .ok n
  | .error .malformed, _ => .error .malformed
  | result, _ => result

end StaticServer.Numeral
