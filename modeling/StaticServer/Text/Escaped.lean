import StaticServer.Text.Fault
import StaticServer.Text.Percent

/-!
# Text with escapes

Two encodings in which a byte stands for the character of its number and a backslash begins an
escape. One (`decodeRaw`) knows only escapes with the hexadecimal number of a character; the
other one (`decode`) knows those of string literals too.
-/

namespace StaticServer.Text.Escaped

/-- The character that a byte stands for. -/
def ofByte (b : UInt8) : Char :=
  Char.ofNat b.toNat

/-- The byte that begins an escape. -/
def backslash : UInt8 :=
  0x5C

/-- How many hexadecimal digits an escape has, and how it is written. -/
def hexEscapes : List (Char × Nat × Text) :=
  [('x', 2, "\\xXX"), ('u', 4, "\\uXXXX"), ('U', 8, "\\UXXXXXXXX")]

/-- The escapes of single characters. -/
def simpleEscapes : List (Char × Text) :=
  [('\n', ""), ('\\', "\\"), ('\x27', "'"), ('\x22', "\""), ('b', "\x08"), ('f', "\x0C"),
    ('t', "\t"), ('n', "\n"), ('r', "\r"), ('v', "\x0B"), ('a', "\x07")]

/-- What an escape stands for, and how many bytes follow the backslash and its letter in it; or
what is wrong with it, and how many bytes were read behind the letter. -/
abbrev Reading := Except (Nat × Text) (Text × Nat)

/-- The number of hexadecimal digits. -/
def hexNumber (digits : Bytes) : Nat :=
  digits.foldl (fun n b ↦ 16 * n + (Percent.hexValue? (ofByte b)).getD 0) 0

/-- Reads the digits of an escape with the number of a character. -/
def readHex (count : Nat) (written tooLarge : Text) (rest : Bytes) : Reading :=
  let digits := (rest.take count).takeWhile fun b ↦ (Percent.hexValue? (ofByte b)).isSome
  if digits.length < count then
    .error (digits.length, "truncated " ++ (written ++ " escape"))
  else if 0x110000 ≤ hexNumber digits then .error (count, tooLarge)
  else .ok ([character (hexNumber digits)], count)

/-- Is it a digit of an octal number? -/
def isOctal (b : UInt8) : Bool :=
  0x30 ≤ b && b < 0x38

/-- Reads the digits behind the first one of an octal number. -/
def readOctal (first : UInt8) (rest : Bytes) : Reading :=
  let more := (rest.take 2).takeWhile isOctal
  let n := (first :: more).foldl (fun n b ↦ 8 * n + (b.toNat - 0x30)) 0
  .ok ([Char.ofNat n], more.length)

/-- Reads an escape with the name of a character; no name is known. -/
def readName (rest : Bytes) : Reading :=
  match rest with
  | [] => .error (0, "malformed \\N character escape")
  | b :: more =>
    if ofByte b ≠ '\x7b' then .error (0, "malformed \\N character escape")
    else
      let name := more.takeWhile fun b ↦ ofByte b ≠ '\x7d'
      if name.length = more.length || name.isEmpty then
        .error (name.length + 1, "malformed \\N character escape")
      else .error (name.length + 2, "unknown Unicode character name")

/-- Reads an escape of string literals, behind its letter. -/
def readLiteral (letter : UInt8) (rest : Bytes) : Reading :=
  let c := ofByte letter
  match hexEscapes.lookup c, simpleEscapes.lookup c with
  | some (count, written), _ => readHex count written "illegal Unicode character" rest
  | _, some t => .ok (t, 0)
  | none, none =>
    if isOctal letter then readOctal letter rest
    else if c = 'N' then readName rest
    else .ok (['\\', c], 0)

/-- Reads an escape with the number of a character, behind its letter. -/
def readRaw (letter : UInt8) (rest : Bytes) : Reading :=
  let c := ofByte letter
  match hexEscapes.lookup c with
  | some (count, written) =>
    if c = 'x' then .ok (['\\', c], 0) else readHex count written "\\Uxxxxxxxx out of range" rest
  | none => .ok (['\\', c], 0)

/-- The text of the bytes that follow `position` others, without the first `skip` of them.
`lone` says what a backslash at the end stands for, if it may stand there. -/
def decodeWith (codec : Text) (read : UInt8 → Bytes → Reading) (lone : Option Text)
    (position : Nat) : Nat → Bytes → Except Malformed Text
  | _, [] => .ok []
  | skip + 1, _ :: rest => decodeWith codec read lone (position + 1) skip rest
  | 0, b :: rest =>
    if b ≠ backslash then
      (decodeWith codec read lone (position + 1) 0 rest).map (ofByte b :: ·)
    else
      match rest with
      | [] =>
        match lone with
        | some t => .ok t
        | none => .error ⟨codec, position, 1, b, "\\ at end of string"⟩
      | letter :: more =>
        match read letter more with
        | .ok (t, count) =>
          (decodeWith codec read lone (position + 1) (count + 1) (letter :: more)).map (t ++ ·)
        | .error (count, reason) => .error ⟨codec, position, count + 2, b, reason⟩

/-- The text of some bytes with the escapes of string literals. -/
def decode (bytes : Bytes) : Except Malformed Text :=
  decodeWith "unicodeescape" readLiteral none 0 0 bytes

/-- The text of some bytes with the numbers of characters as escapes. -/
def decodeRaw (bytes : Bytes) : Except Malformed Text :=
  decodeWith "rawunicodeescape" readRaw (some "\\") 0 0 bytes

end StaticServer.Text.Escaped
