import StaticServer.Text.Integer
import StaticServer.Text.Quoted

/-!
# Texts and bytes that cannot be read

What messages say about a text that was to be read as a whole number and is none, or has too
many digits (`integerMessage`), and about the first part of some bytes that is no text in their
encoding (`Malformed`): where it stands, and what is wrong with it.
-/

namespace StaticServer.Text

/-! ### Texts that are no integer -/

/-- A message shows no more than this of a text that is no number. -/
def shownWidth : Nat :=
  200

/-- The message about a text that is no whole number or has too many digits. -/
def integerMessage (t : Text) : Text :=
  match excessDigits? t with
  | some n =>
    "Exceeds the limit (" ++ (ofNat digitLimit ++
      (" digits) for integer string conversion: value has " ++ (ofNat n ++
        " digits; use sys.set_int_max_str_digits() to increase the limit")))
  | none => "invalid literal for int() with base 10: " ++ (quoted t).take shownWidth

/-! ### Bytes that are no text -/

/-- The character of a number; U+FFFD stands for a number that is only half a character. -/
def character (n : Nat) : Char :=
  if 0xD800 ≤ n && n < 0xE000 then '\uFFFD' else Char.ofNat n

/-- A part of some bytes that is no text in their encoding. -/
structure Malformed where
  /-- The name of the encoding. -/
  codec : Text
  /-- How many bytes stand before the part. -/
  position : Nat
  /-- How many bytes it has. -/
  length : Nat
  /-- Its first byte. -/
  first : UInt8
  /-- What is wrong with it. -/
  reason : Text
  deriving DecidableEq

/-- A byte as messages name it. -/
def shownByte (b : UInt8) : Text :=
  "0x" ++ hexDigits 2 b.toNat

/-- The part as a message names it. -/
def Malformed.place (m : Malformed) : Text :=
  if m.length = 1 then
    "byte " ++ (shownByte m.first ++ (" in position " ++ ofNat m.position))
  else
    "bytes in position " ++ (ofNat m.position ++ '-' :: ofNat (m.position + m.length - 1))

/-- The message about the part. -/
def Malformed.message (m : Malformed) : Text :=
  quoted m.codec ++ (" codec can't decode " ++ (m.place ++ (": " ++ m.reason)))

end StaticServer.Text
