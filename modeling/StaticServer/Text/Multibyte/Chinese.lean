import StaticServer.Text.Grid.Big5
import StaticServer.Text.Grid.Gb2312
import StaticServer.Text.Grid.Gbk
import StaticServer.Text.Grid.HongKong
import StaticServer.Text.Multibyte.Basic

/-!
# Chinese

In simplified characters: GB 2312 is a plane. GBK has all of its characters in the same places, some
other signs, and around them the ideographs that it does not have, in the order of their numbers. GB
18030 fills the cells that are left and gives all characters that have none a place in four bytes.
HZ switches between ASCII and the plane.

In traditional ones: Big5, as it is, with the characters that are others for Windows, and with the
supplement for Hong Kong, which has rows of its own for what Big5 leaves to its users.
-/

namespace StaticServer.Text.Multibyte

/-! ### Two bytes -/

/-- The first ideograph of the main block. -/
def firstIdeograph : Nat :=
  0x4E00

/-- How many ideographs the main block had at first. -/
def ideographCount : Nat :=
  20902

/-- The ideographs of the main block that GB 2312 does not have, in order. -/
def otherIdeographs : List Nat :=
  let known := (Grid.gb2312.toText.map Char.toNat).mergeSort
  numbersOutside firstIdeograph ideographCount (known.filter (firstIdeograph ≤ ·))

/-- How many ideographs stand before the plane. -/
def ideographsBefore : Nat :=
  6080

/-- The ideograph that two bytes stand for around the plane. -/
def otherIdeograph? (row column : Nat) : Option Text := do
  let c ← Grid.place? Grid.gbkColumns column
  let n ← if 0x81 ≤ row && row ≤ 0xA0 then some ((row - 0x81) * 190 + c)
    else if 0xAA ≤ row && c < 96 then some (ideographsBefore + (row - 0xAA) * 96 + c)
    else none
  otherIdeographs[n]?.map fun n ↦ [Char.ofNat n]

/-- The text that two bytes stand for in GBK. -/
def gbkText? (row column : Nat) : Option Text :=
  (Grid.gbkSigns.char? row column).map ([·]) <|> Grid.gb2312.high? row column <|>
    otherIdeograph? row column

/-- The private character that two bytes stand for in GB 18030, in three areas. -/
def privateText? (row column : Nat) : Option Text := do
  let c ← Grid.place? Grid.gbkColumns column
  let n ← if 96 ≤ c && 0xAA ≤ row && row ≤ 0xAF then some ((row - 0xAA) * 94 + (c - 96))
    else if 96 ≤ c && 0xF8 ≤ row && row ≤ 0xFE then some ((row - 0xF2) * 94 + (c - 96))
    else if c < 96 && 0xA1 ≤ row && row ≤ 0xA7 then some (13 * 94 + (row - 0xA1) * 96 + c)
    else none
  some [Char.ofNat (0xE000 + n)]

/-- The text that two bytes stand for in GB 18030. -/
def gb18030Text? (row column : Nat) : Option Text :=
  gbkText? row column <|> (Grid.gb18030Signs.char? row column).map ([·]) <|>
    privateText? row column

/-! ### Four bytes -/

/-- How many characters of the first plane of Unicode take four bytes. -/
def fourByteCount : Nat :=
  39420

/-- The number of the character that stands in some place among those of four bytes in the first
plane. -/
def inFirstPlane? (n : Nat) : Option Nat :=
  if n < fourByteCount then
    (Grid.gb18030Runs.reverse.find? (·.1 ≤ n)).map fun (start, first) ↦ first + (n - start)
  else none

/-- The number of the character that four bytes stand for. -/
def fourBytes? (a b c d : Nat) : Option Nat :=
  if 0x81 ≤ a && a ≤ 0xFE && 0x81 ≤ c && c ≤ 0xFE && 0x30 ≤ d && d ≤ 0x39 then
    let n := (((a - 0x81) * 10 + (b - 0x30)) * 126 + (c - 0x81)) * 10 + (d - 0x30)
    if a < 0x85 then inFirstPlane? n
    else if a < 0x90 then none
    else
      let n := 0x10000 + (n - (0x90 - 0x81) * 12600)
      if n ≤ 0x10FFFF then some n else none
  else none

/-- What stands at the start of some bytes in GB 18030: a digit in the second place makes it four
bytes. -/
def readGb18030 (a : Nat) (rest : Bytes) : Reading Unit :=
  match rest with
  | b :: more =>
    if 0x80 ≤ a && 0x30 ≤ b.toNat && b.toNat ≤ 0x39 then
      match more with
      | c :: d :: _ =>
        match fourBytes? a b.toNat c.toNat d.toNat with
        | some n => .ofNat n 3 ()
        | none => .illegal 1
      | _ => .unfinished
    else readPairs gb18030Text? a rest
  | [] => readPairs gb18030Text? a rest

/-! ### Switching -/

/-- What stands at the start of some bytes in HZ, where a tilde and another character switch: the
state says whether two bytes stand for a cell of the plane. -/
def readHz (inPlane : Bool) (b : Nat) (rest : Bytes) : Reading Bool :=
  if b = 0x7E then
    match inPlane, rest with
    | _, [] => .unfinished
    | false, 0x7E :: _ => .text ['~'] 1 false
    | false, 0x7B :: _ => .text [] 1 true
    | false, 0x0A :: _ => .text [] 1 false
    | true, 0x7D :: _ => .text [] 1 false
    | _, _ => .illegal 1
  else if 0x80 ≤ b then .illegal 1
  else if inPlane then
    match rest with
    | [] => .unfinished
    | c :: _ => .pair ((Grid.gb2312.char? b c.toNat).map ([·])) true
  else .ofNat b 0 false

/-! ### Traditional characters -/

/-- The text that two bytes stand for in Big5. -/
def big5Text? (row column : Nat) : Option Text :=
  (Grid.big5.char? row column).map ([·])

/-- The text that two bytes stand for in Big5 for Windows. -/
def windows950Text? (row column : Nat) : Option Text :=
  (Grid.windows950.char? row column).map ([·]) <|> big5Text? row column

/-- The texts of two characters in the supplement for Hong Kong, by their bytes. -/
def hongKongPairs : List ((Nat × Nat) × Text) :=
  [((0x88, 0x62), "\u00ca\u0304"), ((0x88, 0x64), "\u00ca\u030c"),
    ((0x88, 0xA3), "\u00ea\u0304"), ((0x88, 0xA5), "\u00ea\u030c")]

/-- Does the supplement have a place of its own? -/
def isOwnOfHongKong (row column : Nat) : Bool :=
  (0xC6 ≤ row && row ≤ 0xC8) && (0xC7 ≤ row || 0xA1 ≤ column)

/-- The text that two bytes stand for in Big5 with the supplement for Hong Kong. -/
def hongKongText? (row column : Nat) : Option Text :=
  (if isOwnOfHongKong row column then none else big5Text? row column) <|>
    (Grid.hongKong.char? row column).map ([·]) <|> hongKongPairs.lookup (row, column)

/-! ### The encodings -/

/-- The encodings of simplified Chinese. -/
def chinese : List Multibyte :=
  [.ofPairs ["gb2312", "chinese", "csiso58gb231280", "euc_cn", "euccn", "eucgb2312_cn",
      "gb2312_1980", "gb2312_80", "iso_ir_58", "x_mac_simp_chinese"] Grid.gb2312.high?,
    .ofPairs ["gbk", "936", "cp936", "ms936"] gbkText?,
    .stateless ["gb18030", "gb18030_2000"] readGb18030,
    .ofReader ["hz", "hzgb", "hz_gb", "hz_gb_2312"] false readHz]

/-- The encodings of traditional Chinese. -/
def traditional : List Multibyte :=
  [.ofPairs ["big5", "big5_tw", "csbig5", "x_mac_trad_chinese"] big5Text?,
    .ofPairs ["cp950", "950", "ms950"] windows950Text?,
    .ofPairs ["big5hkscs", "big5_hkscs", "hkscs"] hongKongText?]

end StaticServer.Text.Multibyte
