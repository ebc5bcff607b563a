import StaticServer.Text.Fault

/-!
# Punycode

Text whose characters above ASCII are written behind it: each as a number that tells where it
goes and which it is. Numbers have digits of changing weight, so that no mark is needed between
them; what their first digits are worth depends on the numbers before (`adapt`).
-/

namespace StaticServer.Text.Punycode

/-- Why bytes are no Punycode. -/
inductive Error where
  /-- A byte is no ASCII. -/
  | malformed (m : Malformed)
  /-- A character is no digit. -/
  | notADigit (c : Char)
  /-- The last number has no end. -/
  | incomplete
  /-- A number goes beyond the last character. -/
  | tooLarge (n : Nat)
  deriving DecidableEq

/-- The message of an error. -/
def Error.message : Error → Text
  | .malformed m => m.message
  | .notADigit c => "Invalid extended code point '" ++ [c, '\x27']
  | .incomplete => "incomplete punicode string"
  | .tooLarge n => "Invalid character U+" ++ (Nat.toDigits 16 n)

/-- The value of a digit, in either letter case. -/
def digit? (c : Char) : Option Nat :=
  if c.isUpper then some (c.toNat - 0x41)
  else if c.isLower then some (c.toNat - 0x61)
  else if c.isDigit then some (c.toNat - 0x30 + 26)
  else none

/-- A digit below this is the last one of its number; `index` counts from the first digit. -/
def threshold (index bias : Nat) : Nat :=
  max 1 (min 26 (36 * (index + 1) - bias))

/-- The number that a text starts with, and what follows it; `value` is what its first `index`
digits are worth, and `weight` is the weight of the next one. -/
def takeNumber (bias value weight index : Nat) : Text → Except Error (Nat × Text)
  | [] => .error .incomplete
  | c :: t =>
    match digit? c with
    | none => .error (.notADigit c.toUpper)
    | some d =>
      let value := value + d * weight
      if d < threshold index bias then .ok (value, t)
      else takeNumber bias value (weight * (36 - threshold index bias)) (index + 1) t

/-- How often a number has to be divided by 35 to be at most 455, counted in steps of 36, and
what is left of it; no more than so many times. -/
def reduce : Nat → Nat → Nat × Nat
  | 0, n => (0, n)
  | times + 1, n =>
    if n ≤ 455 then (0, n)
    else
      let (steps, n) := reduce times (n / 35)
      (steps + 36, n)

/-- The bias for the next number. -/
def adapt (delta : Nat) (first : Bool) (length : Nat) : Nat :=
  let delta := if first then delta / 700 else delta / 2
  let delta := delta + delta / length
  let (steps, n) := reduce delta delta
  steps + 36 * n / (n + 38)

/-- Puts the characters of some numbers into a text: `character` is the last one, and the next
one goes no further to the left than `place`. No more numbers than so many. -/
def insertFrom (base : Text) (first : Bool) (character place bias : Nat) :
    Nat → Text → Except Error Text
  | _, [] => .ok base
  | 0, _ => .ok base
  | numbers + 1, t => do
    let (delta, rest) ← takeNumber bias 0 1 0 t
    let place := place + delta
    let character := character + place / (base.length + 1)
    if 0x110000 ≤ character then .error (.tooLarge character)
    else
      let place := place % (base.length + 1)
      let base := base.take place ++ Text.character character :: base.drop place
      insertFrom base false character (place + 1) (adapt delta first base.length) numbers rest

/-- The characters of some bytes that have to be ASCII; positions count from the first one. -/
def asciiText (bytes : Bytes) : Except Error Text :=
  match bytes.findIdx? (0x80 ≤ ·) with
  | some i =>
    .error (.malformed ⟨"ascii", i, 1, bytes.getD i 0, "ordinal not in range(128)"⟩)
  | none => .ok (bytes.map fun b ↦ Char.ofNat b.toNat)

/-- The byte that stands before the numbers. -/
def hyphen : UInt8 :=
  0x2D

/-- The text of some bytes: what stands before the last hyphen, with the characters that the
numbers behind it tell. -/
def decode (bytes : Bytes) : Except Error Text := do
  let numbers := (bytes.reverse.takeWhile (· ≠ hyphen)).reverse
  let base ← asciiText (bytes.take (bytes.length - numbers.length - 1))
  let numbers ← asciiText numbers
  insertFrom base true 0x80 0 72 numbers.length numbers

end StaticServer.Text.Punycode
