import StaticServer.Text.Basic

/-!
# UTF-8

Text as bytes and back. Decoding runs over the bytes once and answers one item for each
character and for each ill-formed part; such a part is as long as it can be while it starts
a well-formed sequence, and at least one byte. `decode` puts U+FFFD for each of them and
`decode?` refuses them. `defect?` tells of the first of them where it stands and what is
wrong with it.
-/

namespace StaticServer.Text.Utf8

/-- The bytes of a text. -/
def encode (t : Text) : Bytes :=
  t.flatMap String.utf8EncodeChar

/-- A sequence that has begun: how many bytes are still to come after the next one, the
range of the next one, and the bits read so far. -/
structure Pending where
  /-- Bytes after the next one. -/
  more : Nat
  /-- The least next byte. -/
  low : UInt8
  /-- The greatest next byte. -/
  high : UInt8
  /-- The bits read so far. -/
  bits : Nat

/-- What a byte begins: a character of its own, a longer sequence, or nothing. -/
inductive Start where
  | char (c : Char)
  | sequence (p : Pending)
  | illFormed

/-- What a byte begins. The ranges of the second byte exclude overlong forms, surrogates
and code points above U+10FFFF. -/
def start (b : UInt8) : Start :=
  if b < 0x80 then .char (Char.ofNat b.toNat)
  else if b < 0xC2 then .illFormed
  else if b < 0xE0 then .sequence ⟨0, 0x80, 0xBF, b.toNat - 0xC0⟩
  else if b < 0xF0 then
    .sequence ⟨1, if b = 0xE0 then 0xA0 else 0x80, if b = 0xED then 0x9F else 0xBF, b.toNat - 0xE0⟩
  else if b < 0xF5 then
    .sequence ⟨2, if b = 0xF0 then 0x90 else 0x80, if b = 0xF4 then 0x8F else 0xBF, b.toNat - 0xF0⟩
  else .illFormed

/-- The items of the bytes that follow a sequence that may have begun: `none` for each
ill-formed part. -/
def itemsFrom : Option Pending → Bytes → List (Option Char)
  | none, [] => []
  | some _, [] => [none]
  | none, b :: rest =>
    match start b with
    | .char c => some c :: itemsFrom none rest
    | .sequence p => itemsFrom (some p) rest
    | .illFormed => none :: itemsFrom none rest
  | some p, b :: rest =>
    if p.low ≤ b ∧ b ≤ p.high then
      let bits := 64 * p.bits + (b.toNat - 0x80)
      match p.more with
      | 0 => some (Char.ofNat bits) :: itemsFrom none rest
      | more + 1 => itemsFrom (some ⟨more, 0x80, 0xBF, bits⟩) rest
    else
      match start b with
      | .char c => none :: some c :: itemsFrom none rest
      | .sequence q => none :: itemsFrom (some q) rest
      | .illFormed => none :: none :: itemsFrom none rest

/-- The text of some bytes, with U+FFFD for each ill-formed part. -/
def decode (bytes : Bytes) : Text :=
  (itemsFrom none bytes).map (·.getD '\uFFFD')

/-- The text of some bytes that are well-formed throughout. -/
def decode? (bytes : Bytes) : Option Text :=
  (itemsFrom none bytes).mapM id

/-- What is wrong with an ill-formed part. -/
inductive DefectReason where
  /-- Its first byte starts no sequence. -/
  | badStart
  /-- The byte behind it does not go on with its sequence. -/
  | badContinuation
  /-- The bytes end behind it. -/
  | unfinished
  deriving DecidableEq, Repr

/-- An ill-formed part. -/
structure Defect where
  /-- How many bytes stand before it. -/
  position : Nat
  /-- How many bytes it has. -/
  length : Nat
  /-- Its first byte. -/
  first : UInt8
  /-- What is wrong with it. -/
  reason : DefectReason
  deriving DecidableEq

/-- A sequence that has begun, its first byte and how many bytes of it have been read. -/
abbrev Begun := Pending × UInt8 × Nat

/-- The first ill-formed part of the bytes that follow `position` others. -/
def defectFrom? (position : Nat) : Option Begun → Bytes → Option Defect
  | none, [] => none
  | some (_, first, read), [] => some ⟨position - read, read, first, .unfinished⟩
  | none, b :: rest =>
    match start b with
    | .char _ => defectFrom? (position + 1) none rest
    | .sequence p => defectFrom? (position + 1) (some (p, b, 1)) rest
    | .illFormed => some ⟨position, 1, b, .badStart⟩
  | some (p, first, read), b :: rest =>
    if p.low ≤ b ∧ b ≤ p.high then
      match p.more with
      | 0 => defectFrom? (position + 1) none rest
      | more + 1 =>
        defectFrom? (position + 1) (some (⟨more, 0x80, 0xBF, 0⟩, first, read + 1)) rest
    else some ⟨position - read, read, first, .badContinuation⟩

/-- The first ill-formed part of some bytes. -/
def defect? (bytes : Bytes) : Option Defect :=
  defectFrom? 0 none bytes

/-- How many bytes a text takes. -/
def size (t : Text) : Nat :=
  (encode t).length

end StaticServer.Text.Utf8
