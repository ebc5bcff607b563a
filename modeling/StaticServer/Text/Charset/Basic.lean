import StaticServer.Text.Basic
import StaticServer.Text.Fault

/-!
# Charsets

A charset gives each byte one character, or none. The first bytes stand for the characters of
their numbers, the last ones for those of a table.
-/

namespace StaticServer.Text

/-- A set of characters that take one byte each. -/
structure Charset where
  /-- Its names. -/
  names : List Text
  /-- The characters of the last bytes, with U+FFFD for a byte that stands for none. -/
  table : Text

namespace Charset

/-- The number of bytes. -/
def size : Nat :=
  256

/-- The character that a byte stands for. -/
def char? (c : Charset) (b : UInt8) : Option Char :=
  let start := size - c.table.length
  if b.toNat < start then some (Char.ofNat b.toNat)
  else c.table[b.toNat - start]?.filter (· ≠ '\uFFFD')

/-- The text of the bytes that follow `position` others. -/
def decodeFrom (c : Charset) (position : Nat) : Bytes → Except Malformed Text
  | [] => .ok []
  | b :: rest =>
    match c.char? b with
    | some d => (c.decodeFrom (position + 1) rest).map (d :: ·)
    | none => .error ⟨"charmap", position, 1, b, "character maps to <undefined>"⟩

/-- The text of some bytes. -/
def decode (c : Charset) (bytes : Bytes) : Except Malformed Text :=
  c.decodeFrom 0 bytes

end Charset

end StaticServer.Text
