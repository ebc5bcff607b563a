import StaticServer.Text.Utf8

/-!
# MD5

The digest that entity tags are made of: sixteen bytes, written as 32 hexadecimal digits.
A message is padded to whole blocks of 64 bytes and each block is folded into a state of
four words by 64 steps.
-/

namespace StaticServer.Md5

/-- The four words of the state. -/
structure State where
  /-- The first word. -/
  a : UInt32
  /-- The second word. -/
  b : UInt32
  /-- The third word. -/
  c : UInt32
  /-- The fourth word. -/
  d : UInt32

/-- The state before the first block. -/
def State.initial : State :=
  ⟨0x67452301, 0xEFCDAB89, 0x98BADCFE, 0x10325476⟩

/-- The word added in each step: the first 32 binary places of the absolute sine of 1 to 64. -/
def sines : List UInt32 :=
  [0xD76AA478, 0xE8C7B756, 0x242070DB, 0xC1BDCEEE, 0xF57C0FAF, 0x4787C62A, 0xA8304613, 0xFD469501,
   0x698098D8, 0x8B44F7AF, 0xFFFF5BB1, 0x895CD7BE, 0x6B901122, 0xFD987193, 0xA679438E, 0x49B40821,
   0xF61E2562, 0xC040B340, 0x265E5A51, 0xE9B6C7AA, 0xD62F105D, 0x02441453, 0xD8A1E681, 0xE7D3FBC8,
   0x21E1CDE6, 0xC33707D6, 0xF4D50D87, 0x455A14ED, 0xA9E3E905, 0xFCEFA3F8, 0x676F02D9, 0x8D2A4C8A,
   0xFFFA3942, 0x8771F681, 0x6D9D6122, 0xFDE5380C, 0xA4BEEA44, 0x4BDECFA9, 0xF6BB4B60, 0xBEBFBC70,
   0x289B7EC6, 0xEAA127FA, 0xD4EF3085, 0x04881D05, 0xD9D4D039, 0xE6DB99E5, 0x1FA27CF8, 0xC4AC5665,
   0xF4292244, 0x432AFF97, 0xAB9423A7, 0xFC93A039, 0x655B59C3, 0x8F0CCC92, 0xFFEFF47D, 0x85845DD1,
   0x6FA87E4F, 0xFE2CE6E0, 0xA3014314, 0x4E0811A1, 0xF7537E82, 0xBD3AF235, 0x2AD7D2BB, 0xEB86D391]

/-- The `width` bytes of a number, the least significant first. -/
def littleEndian : Nat → Nat → Bytes
  | 0, _ => []
  | width + 1, n => UInt8.ofNat n :: littleEndian width (n / 256)

/-- The number with these bytes, the least significant first. -/
def ofLittleEndian (bytes : Bytes) : Nat :=
  bytes.foldr (fun b n ↦ b.toNat + 256 * n) 0

/-- The message with a one bit, zeros and its length in bits behind it: whole blocks. -/
def pad (message : Bytes) : Bytes :=
  let zeros := (119 - message.length % 64) % 64
  message ++ 0x80 :: (List.replicate zeros 0 ++ littleEndian 8 (8 * message.length))

/-- The `i`th part of `size` elements. -/
def part (size i : Nat) (bytes : Bytes) : Bytes :=
  (bytes.drop (size * i)).take size

/-- The sixteen words of a block. -/
def words (block : Bytes) : List UInt32 :=
  (List.range 16).map fun i ↦ UInt32.ofNat (ofLittleEndian (part 4 i block))

/-- A word rotated to the left, for an amount between 1 and 31. -/
def rotateLeft (x amount : UInt32) : UInt32 :=
  x <<< amount ||| x >>> (32 - amount)

/-- The bits that step `i` mixes from three words. -/
def mix (i : Nat) (b c d : UInt32) : UInt32 :=
  if i < 16 then b &&& c ||| ~~~b &&& d
  else if i < 32 then d &&& b ||| ~~~d &&& c
  else if i < 48 then b ^^^ c ^^^ d
  else c ^^^ (b ||| ~~~d)

/-- The word of the block that step `i` reads. -/
def wordIndex (i : Nat) : Nat :=
  if i < 16 then i
  else if i < 32 then (5 * i + 1) % 16
  else if i < 48 then (3 * i + 5) % 16
  else 7 * i % 16

/-- How far step `i` rotates. -/
def rotation (i : Nat) : UInt32 :=
  if i < 16 then [7, 12, 17, 22].getD (i % 4) 0
  else if i < 32 then [5, 9, 14, 20].getD (i % 4) 0
  else if i < 48 then [4, 11, 16, 23].getD (i % 4) 0
  else [6, 10, 15, 21].getD (i % 4) 0

/-- Step `i` on a block of sixteen words. -/
def step (block : List UInt32) (s : State) (i : Nat) : State :=
  let sum := s.a + mix i s.b s.c s.d + sines.getD i 0 + block.getD (wordIndex i) 0
  ⟨s.d, s.b + rotateLeft sum (rotation i), s.b, s.c⟩

/-- One block folded into the state. -/
def absorb (s : State) (block : Bytes) : State :=
  let t := (List.range 64).foldl (step (words block)) s
  ⟨s.a + t.a, s.b + t.b, s.c + t.c, s.d + t.d⟩

/-- The sixteen bytes of the digest. -/
def digest (message : Bytes) : Bytes :=
  let padded := pad message
  let s := (List.range (padded.length / 64)).foldl
    (fun s i ↦ absorb s (part 64 i padded)) State.initial
  [s.a, s.b, s.c, s.d].flatMap fun w ↦ littleEndian 4 w.toNat

/-- A byte as two hexadecimal digits in lower case. -/
def hexByte (b : UInt8) : Text :=
  [Nat.digitChar (b.toNat / 16), Nat.digitChar (b.toNat % 16)]

/-- The digest of a text in UTF-8, in hexadecimal. -/
def hexDigest (t : Text) : Text :=
  (digest (Text.Utf8.encode t)).flatMap hexByte

end StaticServer.Md5
