import StaticServer.Text.Utf8

/-!
# Percent-encoding

Characters outside a set that is kept are written as `%XX`, one for each byte of their
UTF-8 form. Decoding takes every `%XX` back to its byte and leaves a `%` that no two
hexadecimal digits follow as it is.
-/

namespace StaticServer.Text.Percent

/-- A hexadecimal digit in upper case. -/
def hexDigit (n : Nat) : Char :=
  (Nat.digitChar (n % 16)).toUpper

/-- A byte as `%XX`. -/
def escapeByte (b : UInt8) : Text :=
  ['%', hexDigit (b.toNat / 16), hexDigit b.toNat]

/-- One character, as it is when it is kept and as the escapes of its bytes otherwise. -/
def encodeChar (keep : Char → Bool) (c : Char) : Text :=
  if keep c then [c] else (String.utf8EncodeChar c).flatMap escapeByte

/-- A text with all characters escaped that are not kept. -/
def encode (keep : Char → Bool) (t : Text) : Text :=
  t.flatMap (encodeChar keep)

/-- The value of a hexadecimal digit in either case. -/
def hexValue? (c : Char) : Option Nat :=
  if c.isDigit then some (c.toNat - '0'.toNat)
  else if 'a' ≤ c ∧ c ≤ 'f' then some (c.toNat - 'a'.toNat + 10)
  else if 'A' ≤ c ∧ c ≤ 'F' then some (c.toNat - 'A'.toNat + 10)
  else none

/-- The bytes that a percent-encoded text stands for. -/
def decodeBytes : Text → Bytes
  | '%' :: a :: b :: rest =>
    match hexValue? a, hexValue? b with
    | some x, some y => UInt8.ofNat (16 * x + y) :: decodeBytes rest
    | _, _ => String.utf8EncodeChar '%' ++ decodeBytes (a :: b :: rest)
  | c :: rest => String.utf8EncodeChar c ++ decodeBytes rest
  | [] => []

/-- The text that a percent-encoded text stands for, with U+FFFD for each ill-formed part. -/
def decode (t : Text) : Text :=
  Utf8.decode (decodeBytes t)

/-- The characters that no part of an address gives a meaning to. -/
def isUnreserved (c : Char) : Bool :=
  c.isAlphanum || c = '_' || c = '.' || c = '-' || c = '~'

end StaticServer.Text.Percent
