import StaticServer.Text.Fault
import StaticServer.Text.Units

/-!
# UTF-7

Text in the characters of ASCII. A plus begins a section of base 64, whose bits are the units of
UTF-16; it ends before the first character that is no digit of base 64, and a hyphen there is
left out. A plus with a hyphen behind it stands for itself.
-/

namespace StaticServer.Text.Utf7

/-- The value of a digit of base 64. -/
def digit? (b : UInt8) : Option Nat :=
  let c := Char.ofNat b.toNat
  if c.isUpper then some (b.toNat - 0x41)
  else if c.isLower then some (b.toNat - 0x61 + 26)
  else if c.isDigit then some (b.toNat - 0x30 + 52)
  else if c = '+' then some 62
  else if c = '/' then some 63
  else none

/-- A section of base 64 that has begun. -/
structure Section where
  /-- How many bytes stand before its plus. -/
  start : Nat
  /-- How many bits have been read that belong to no unit yet. -/
  bits : Nat
  /-- The number that these bits are. -/
  number : Nat
  /-- The first half of a character, if the other half is still to come. -/
  high : Option Nat

/-- What stands for a half of a character without the other one. -/
def single (high : Option Nat) : Text :=
  if high.isSome then ['\uFFFD'] else []

/-- The text that a unit completes, and the first half that it leaves. -/
def addUnit (high : Option Nat) (n : Nat) : Text × Option Nat :=
  match high with
  | some h =>
    if Utf16.isLow n then ([Utf16.combine h n], none)
    else if Utf16.isHigh n then (single high, some n)
    else (single high ++ [Char.ofNat n], none)
  | none =>
    if Utf16.isHigh n then ([], some n)
    else if Utf16.isLow n then (['\uFFFD'], none)
    else ([Char.ofNat n], none)

/-- The section with one more digit, and the text that the digit completes. -/
def Section.add (s : Section) (digit : Nat) : Text × Section :=
  let bits := s.bits + 6
  let number := 64 * s.number + digit
  if bits < 16 then ([], { s with bits := bits, number := number })
  else
    let (t, high) := addUnit s.high (number / Nat.pow 2 (bits - 16))
    (t, ⟨s.start, bits - 16, number % Nat.pow 2 (bits - 16), high⟩)

/-- What is wrong with the end of a section, if anything. -/
def Section.fault? (s : Section) : Option Text :=
  if 6 ≤ s.bits then some "partial character in shift sequence"
  else if s.number ≠ 0 then some "non-zero padding bits in shift sequence"
  else none

/-- A part of UTF-7 that is no text. -/
def malformed (position length : Nat) (first : UInt8) (reason : Text) : Malformed :=
  ⟨"utf7", position, length, first, reason⟩

/-- The byte of the plus that begins a section. -/
def plus : UInt8 :=
  0x2B

/-- The byte of the hyphen that ends a section. -/
def hyphen : UInt8 :=
  0x2D

/-- The message about a byte that stands for nothing. -/
def special (position : Nat) (b : UInt8) : Malformed :=
  malformed position 1 b "unexpected special character"

/-- The text of the bytes that follow `position` others, inside a section or not. -/
def decodeFrom (position : Nat) : Option Section → Bytes → Except Malformed Text
  | none, [] => .ok []
  | none, b :: rest =>
    if b = plus then
      match rest with
      | [] => .ok []
      | c :: more =>
        if c = hyphen then (decodeFrom (position + 2) none more).map ('+' :: ·)
        else if (digit? c).isNone then
          .error (malformed position 2 b "ill-formed sequence")
        else decodeFrom (position + 1) (some ⟨position, 0, 0, none⟩) (c :: more)
    else if b < 0x80 then
      (decodeFrom (position + 1) none rest).map (Char.ofNat b.toNat :: ·)
    else .error (special position b)
  | some s, [] =>
    if s.high.isSome || s.fault?.isSome then
      .error (malformed s.start (position - s.start) plus "unterminated shift sequence")
    else .ok []
  | some s, b :: rest =>
    match digit? b with
    | some d =>
      let (t, s) := s.add d
      (decodeFrom (position + 1) (some s) rest).map (t ++ ·)
    | none =>
      match s.fault? with
      | some reason => .error (malformed s.start (position + 1 - s.start) plus reason)
      | none =>
        if b = hyphen then (decodeFrom (position + 1) none rest).map (single s.high ++ ·)
        else if b < 0x80 then
          (decodeFrom (position + 1) none rest).map fun t ↦
            single s.high ++ Char.ofNat b.toNat :: t
        else .error (special position b)

/-- The text of some bytes. -/
def decode (bytes : Bytes) : Except Malformed Text :=
  decodeFrom 0 none bytes

end StaticServer.Text.Utf7
