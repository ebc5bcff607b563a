import StaticServer.Text.Basic
import StaticServer.Text.Fault

/-!
# UTF-16 and UTF-32

Text in units of two or four bytes. The bytes of a unit come in one of two orders; where the
order is not agreed on, a mark in front of the text tells it, and a text without the mark is
refused. In UTF-16 a character above U+FFFF takes two units, a high and a low one; a single one
of them is no text, and no text is in UTF-32 what lies beyond the characters.
-/

namespace StaticServer.Text

/-- The order of the bytes of a unit. -/
inductive ByteOrder where
  /-- The least significant byte comes first. -/
  | little
  /-- The most significant byte comes first. -/
  | big
  deriving DecidableEq, Repr

/-- The number that some bytes stand for. -/
def ByteOrder.number : ByteOrder → Bytes → Nat
  | .big, bytes => bytes.foldl (fun n b ↦ 256 * n + b.toNat) 0
  | .little, bytes => bytes.foldr (fun b n ↦ 256 * n + b.toNat) 0

/-- The end of the name of an encoding in units. -/
def ByteOrder.suffix : ByteOrder → Text
  | .little => "-le"
  | .big => "-be"

/-- The mark that tells the order of bytes. -/
def byteOrderMark : Nat :=
  0xFEFF

/-- An encoding in units of several bytes. -/
inductive UnitWidth where
  /-- Two bytes: UTF-16. -/
  | two
  /-- Four bytes: UTF-32. -/
  | four
  deriving DecidableEq, Repr

namespace UnitWidth

/-- The number of bytes. -/
def size : UnitWidth → Nat
  | .two => 2
  | .four => 4

/-- The name of the encoding, whatever the order of bytes. -/
def title : UnitWidth → Text
  | .two => "UTF-16"
  | .four => "UTF-32"

/-- The name of the encoding with an order of bytes. -/
def codec : UnitWidth → ByteOrder → Text
  | .two, o => "utf-16" ++ o.suffix
  | .four, o => "utf-32" ++ o.suffix

end UnitWidth

/-! ### UTF-16 -/

namespace Utf16

/-- The first half of a character of two units. -/
def isHigh (n : Nat) : Bool :=
  0xD800 ≤ n && n < 0xDC00

/-- The second half of a character of two units. -/
def isLow (n : Nat) : Bool :=
  0xDC00 ≤ n && n < 0xE000

/-- The character of two halves. -/
def combine (high low : Nat) : Char :=
  Char.ofNat (0x10000 + 0x400 * (high - 0xD800) + (low - 0xDC00))

/-- A part of UTF-16 that is no text. -/
def malformed (o : ByteOrder) (position : Nat) (part : Bytes) (reason : Text) : Malformed :=
  ⟨UnitWidth.two.codec o, position, part.length, part.headD 0, reason⟩

/-- The text of the bytes that follow `position` others. -/
def decodeFrom (o : ByteOrder) (position : Nat) : Bytes → Except Malformed Text
  | [] => .ok []
  | [a] => .error (malformed o position [a] "truncated data")
  | a :: b :: rest =>
    let n := o.number [a, b]
    if isLow n then .error (malformed o position [a, b] "illegal encoding")
    else if isHigh n then
      match rest with
      | c :: d :: more =>
        let m := o.number [c, d]
        if isLow m then (decodeFrom o (position + 4) more).map (combine n m :: ·)
        else .error (malformed o position [a, b] "illegal UTF-16 surrogate")
      | rest => .error (malformed o position (a :: b :: rest) "unexpected end of data")
    else (decodeFrom o (position + 2) rest).map (Char.ofNat n :: ·)

end Utf16

/-! ### UTF-32 -/

namespace Utf32

/-- What is wrong with a number that is no character, if it is none. -/
def fault? (n : Nat) : Option Text :=
  if 0x110000 ≤ n then some "code point not in range(0x110000)"
  else if 0xD800 ≤ n && n < 0xE000 then
    some "code point in surrogate code point range(0xd800, 0xe000)"
  else none

/-- A part of UTF-32 that is no text. -/
def malformed (o : ByteOrder) (position : Nat) (part : Bytes) (reason : Text) : Malformed :=
  ⟨UnitWidth.four.codec o, position, part.length, part.headD 0, reason⟩

/-- The text of the bytes that follow `position` others. -/
def decodeFrom (o : ByteOrder) (position : Nat) : Bytes → Except Malformed Text
  | [] => .ok []
  | a :: b :: c :: d :: rest =>
    let n := o.number [a, b, c, d]
    match fault? n with
    | some reason => .error (malformed o position [a, b, c, d] reason)
    | none => (decodeFrom o (position + 4) rest).map (Char.ofNat n :: ·)
  | part => .error (malformed o position part "truncated data")

end Utf32

/-! ### The mark in front -/

namespace UnitWidth

/-- The text of the bytes that follow `position` others. -/
def decodeFrom (w : UnitWidth) (o : ByteOrder) (position : Nat) (bytes : Bytes) :
    Except Malformed Text :=
  match w with
  | .two => Utf16.decodeFrom o position bytes
  | .four => Utf32.decodeFrom o position bytes

/-- The order of bytes that the mark in front of a text tells, if it is there. -/
def markedOrder? (w : UnitWidth) (bytes : Bytes) : Option ByteOrder :=
  let start := bytes.take w.size
  if start.length < w.size then none
  else if ByteOrder.number .little start = byteOrderMark then some .little
  else if ByteOrder.number .big start = byteOrderMark then some .big
  else none

end UnitWidth

end StaticServer.Text
