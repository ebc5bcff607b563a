import StaticServer.Text.Basic

/-!
# Integers in decimal

Writing a number (`ofInt`) and reading one (`toInt?`). The reader takes the digits of all
scripts, a sign, white space around the number and single underscores between digits, and
refuses more than `digitLimit` digits; `excessDigits?` tells whether it does.

The decimal digits of all scripts (the Nd class of Unicode 14) come in rows of ten code points,
from the script's zero to its nine, so a table of the zeros is enough.
-/

namespace StaticServer.Text

/-! ### Decimal digits -/

/-- The code points of the digits zero, in increasing order. -/
def zeroDigits : List Nat :=
  [0x0030, 0x0660, 0x06F0, 0x07C0, 0x0966, 0x09E6, 0x0A66, 0x0AE6, 0x0B66, 0x0BE6, 0x0C66, 0x0CE6,
   0x0D66, 0x0DE6, 0x0E50, 0x0ED0, 0x0F20, 0x1040, 0x1090, 0x17E0, 0x1810, 0x1946, 0x19D0, 0x1A80,
   0x1A90, 0x1B50, 0x1BB0, 0x1C40, 0x1C50, 0xA620, 0xA8D0, 0xA900, 0xA9D0, 0xA9F0, 0xAA50, 0xABF0,
   0xFF10, 0x104A0, 0x10D30, 0x11066, 0x110F0, 0x11136, 0x111D0, 0x112F0, 0x11450, 0x114D0,
   0x11650, 0x116C0, 0x11730, 0x118E0, 0x11950, 0x11C50, 0x11D50, 0x11DA0, 0x16A60, 0x16AC0,
   0x16B50, 0x1D7CE, 0x1D7D8, 0x1D7E2, 0x1D7EC, 0x1D7F6, 0x1E140, 0x1E2F0, 0x1E950, 0x1FBF0]

/-- The value of a decimal digit of any script. -/
def digitValue? (c : Char) : Option Nat :=
  (zeroDigits.find? fun z ↦ z ≤ c.toNat && c.toNat < z + 10).map (c.toNat - ·)

/-- Is it a decimal digit of some script? -/
def isDigit (c : Char) : Bool :=
  (digitValue? c).isSome

/-! ### Writing and reading -/

/-- The decimal text of a natural number. -/
def ofNat (n : Nat) : Text :=
  Nat.toDigits 10 n

/-- The decimal text of an integer. -/
def ofInt : Int → Text
  | .ofNat n => ofNat n
  | .negSucc n => '-' :: ofNat (n + 1)

/-- A number's digits may not be more than this. -/
def digitLimit : Nat :=
  4300

/-- The values of the digits of a text that holds at least one digit, digits only, and
single underscores between digits. -/
def digits? : Text → Option (List Nat)
  | [] => none
  | [c] => (digitValue? c).map ([·])
  | c :: '_' :: rest =>
    match digitValue? c, digits? rest with
    | some d, some ds => some (d :: ds)
    | _, _ => none
  | c :: rest =>
    match digitValue? c, digits? rest with
    | some d, some ds => some (d :: ds)
    | _, _ => none

/-- The number with these decimal digits, the most significant first. -/
def numberOfDigits (ds : List Nat) : Nat :=
  ds.foldl (fun n d ↦ 10 * n + d) 0

/-- Takes a sign off a text: is it a minus, and what follows. -/
def takeSign : Text → Bool × Text
  | '-' :: t => (true, t)
  | '+' :: t => (false, t)
  | t => (false, t)

/-- A magnitude with its sign. -/
def signed (negative : Bool) (n : Nat) : Int :=
  if negative then -(n : Int) else n

/-- Reads an integer: white space around it, a sign, decimal digits of any script with
single underscores between them, no more than `digitLimit` digits. -/
def toInt? (t : Text) : Option Int :=
  let (negative, body) := takeSign (trimSpace t)
  match digits? body with
  | none => none
  | some ds => if ds.length ≤ digitLimit then some (signed negative (numberOfDigits ds)) else none

/-- How many digits stand at the start of a text, behind white space and a sign, when they are
more than a number may have. -/
def excessDigits? (t : Text) : Option Nat :=
  let body := (takeSign (trimSpace t)).2
  match digits? (body.takeWhile fun c ↦ c = '_' || isDigit c) with
  | some ds => if digitLimit < ds.length then some ds.length else none
  | none => none

end StaticServer.Text
