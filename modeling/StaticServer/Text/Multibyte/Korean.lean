import StaticServer.Text.Grid.KsX1001
import StaticServer.Text.Multibyte.Basic

/-!
# Korean

KS X 1001 is a plane with the common syllables in the order of their numbers. One encoding
puts any other syllable together from its letters, one has the other syllables in their order
around the plane, and one has each syllable in the bits of its letters.
-/

namespace StaticServer.Text.Multibyte

/-! ### Syllables -/

/-- The number of the first syllable. -/
def firstSyllable : Nat :=
  0xAC00

/-- How many syllables there are. -/
def syllableCount : Nat :=
  11172

/-- The number of the syllable with an initial, a medial and a final letter; the final zero is
none. -/
def syllable (initial medial final : Nat) : Nat :=
  firstSyllable + (initial * 21 + medial) * 28 + final

/-- The letters that can be initials, by their numbers from U+3131 on. -/
def initials : List Nat :=
  [0, 1, 3, 6, 7, 8, 16, 17, 18, 20, 21, 22, 23, 24, 25, 26, 27, 28, 29]

/-- The letters that can be finals, by their numbers from U+3131 on. -/
def finals : List Nat :=
  [0, 1, 2, 3, 4, 5, 6, 8, 9, 10, 11, 12, 13, 14, 15, 16, 17, 19, 20, 21, 22, 23, 25, 26, 27, 28,
    29]

/-! ### Syllables put together -/

/-- The byte that all letters start with. -/
def letterRow : UInt8 :=
  0xA4

/-- The byte of what fills the place of a letter. -/
def fillerColumn : UInt8 :=
  0xD4

/-- The syllable whose letters have these second bytes. -/
def composed? (i m f : UInt8) : Option Nat := do
  let initial ← initials.findIdx? (· + 0xA1 = i.toNat)
  let medial ← if 0xBF ≤ m && m ≤ 0xD3 then some (m.toNat - 0xBF) else none
  let final ← if f = fillerColumn then some 0
    else (finals.findIdx? (· + 0xA1 = f.toNat)).map (· + 1)
  some (syllable initial medial final)

/-- What stands at the start of some bytes: a filler starts a syllable of four letters, the first
of which it is. -/
def readComposed (b : Nat) (rest : Bytes) : Reading Unit :=
  if b = letterRow.toNat && rest.head? = some fillerColumn then
    match rest with
    | _ :: r :: i :: s :: m :: t :: f :: _ =>
      if r = letterRow && s = letterRow && t = letterRow then
        match composed? i m f with
        | some n => .ofNat n 7 ()
        | none => .illegal 1
      else .illegal 1
    | _ => .unfinished
  else readPairs Grid.ksX1001.high? b rest

/-! ### Syllables around the plane -/

/-- The syllables that the plane does not have, in order. -/
def otherSyllables : List Nat :=
  let known := Grid.ksX1001.toText.map Char.toNat
  numbersOutside firstSyllable syllableCount (known.filter fun n ↦
    firstSyllable ≤ n && n < firstSyllable + syllableCount)

/-- The columns of the syllables around the plane. -/
def syllableColumns : List (Nat × Nat) :=
  [(0x41, 0x5A), (0x61, 0x7A), (0x81, 0xFE)]

/-- The syllable that two bytes stand for around the plane. -/
def otherSyllable? (row column : Nat) : Option Text := do
  let c ← Grid.place? syllableColumns column
  let n ← if 0x81 ≤ row && row ≤ 0xA0 then some ((row - 0x81) * 178 + c)
    else if 0xA1 ≤ row && c < 84 then some (32 * 178 + (row - 0xA1) * 84 + c)
    else none
  otherSyllables[n]?.map fun n ↦ [Char.ofNat n]

/-- The text that two bytes stand for where the other syllables stand around the plane. -/
def windows949Text? (row column : Nat) : Option Text :=
  Grid.ksX1001.high? row column <|> otherSyllable? row column

/-! ### Syllables in bits -/

/-- What five bits say about a letter of a syllable. -/
inductive LetterBits where
  /-- There is none. -/
  | filler
  /-- It is the letter of a number. -/
  | letter (n : Nat)
  deriving DecidableEq

/-- The initial letter of five bits. -/
def initialOfBits? (n : Nat) : Option LetterBits :=
  if n = 1 then some .filler else if 2 ≤ n && n ≤ 20 then some (.letter (n - 2)) else none

/-- The medial letter of five bits. -/
def medialOfBits? (n : Nat) : Option LetterBits :=
  if n = 2 then some .filler
  else (Grid.place? [(3, 7), (10, 15), (18, 23), (26, 29)] n).map .letter

/-- The final letter of five bits. -/
def finalOfBits? (n : Nat) : Option LetterBits :=
  if n = 1 then some .filler else (Grid.place? [(2, 17), (19, 29)] n).map .letter

/-- The number of the character with letters in bits. A letter alone stands for itself. -/
def ofLetterBits? : LetterBits → LetterBits → LetterBits → Option Nat
  | .filler, .filler, .filler => some 0x3000
  | .letter i, .filler, .filler => initials[i]?.map (0x3131 + ·)
  | .filler, .letter m, .filler => some (0x314F + m)
  | .filler, .filler, .letter f => finals[f]?.map (0x3131 + ·)
  | .letter i, .letter m, .filler => some (syllable i m 0)
  | .letter i, .letter m, .letter f => some (syllable i m (f + 1))
  | _, _, _ => none

/-- The text of the syllable that two bytes stand for. -/
def bitSyllable? (row column : Nat) : Option Text := do
  let bits := 256 * row + column
  let i ← initialOfBits? (bits / 1024 % 32)
  let m ← medialOfBits? (bits / 32 % 32)
  let f ← finalOfBits? (bits % 32)
  let n ← ofLetterBits? i m f
  some [Char.ofNat n]

/-- The columns of the plane's cells, two rows of which make one. -/
def doubleColumns : List (Nat × Nat) :=
  [(0x31, 0x7E), (0x91, 0xFE)]

/-- The text of the cell of the plane that two bytes stand for beside syllables in bits, which
letters and syllables do not need. -/
def besideSyllables? (row column : Nat) : Option Text := do
  let c ← Grid.place? doubleColumns column
  let half := c / 94
  let place := 0x21 + c % 94
  let plane ← if 0xD9 ≤ row && row ≤ 0xDE then some (0x21 + 2 * (row - 0xD9) + half)
    else if 0xE0 ≤ row && row ≤ 0xF9 then some (0x4A + 2 * (row - 0xE0) + half)
    else none
  if row = 0xDA && 0xA1 ≤ column && column ≤ 0xD3 then none
  else (Grid.ksX1001.char? plane place).map ([·])

/-- The text that two bytes stand for where syllables stand in bits. -/
def johabText? (row column : Nat) : Option Text :=
  if row < 0xD8 then bitSyllable? row column else besideSyllables? row column

/-! ### The encodings -/

/-- The encodings of Korean. -/
def korean : List Multibyte :=
  [.stateless ["euc_kr", "euckr", "korean", "ksc5601", "ks_c_5601", "ks_c_5601_1987", "ksx1001",
      "ks_x_1001", "x_mac_korean"] readComposed,
    .ofPairs ["cp949", "949", "ms949", "uhc"] windows949Text?,
    .ofPairs ["johab", "cp1361", "ms1361"] johabText?]

end StaticServer.Text.Multibyte
