import StaticServer.Text.Grid.JisX0208
import StaticServer.Text.Grid.JisX0212
import StaticServer.Text.Grid.JisX0213
import StaticServer.Text.Multibyte.Basic

/-!
# Japanese

The planes of JIS X 0208 and JIS X 0213 stand either in bytes above 128, row and column, or
shifted: two rows of 94 columns make one of 188. JIS X 0212 and the second plane of JIS X 0213
have a byte in front in the first case. Katakana of half width take one byte or two.
-/

namespace StaticServer.Text.Multibyte

/-! ### Planes -/

/-- The text of a cell of JIS X 0208. -/
def jis0208? (row column : Nat) : Option Text :=
  (Grid.jisX0208.char? row column).map ([·])

/-- The text of a cell of JIS X 0212. -/
def jis0212? (row column : Nat) : Option Text :=
  (Grid.jisX0212.char? row column).map ([·])

/-- The text of a cell of the first plane of JIS X 0213; the flag says whether it is that of
2004. -/
def jis0213First? (new : Bool) (row column : Nat) : Option Text :=
  if !new && Grid.jisX0213New.contains (row, column) then none
  else jis0208? row column <|> (Grid.jisX0213First.char? row column).map ([·]) <|>
    Grid.jisX0213Pairs.lookup (row, column)

/-- The text of a cell of the second plane of JIS X 0213; the flag says whether it is that of
2004. -/
def jis0213Second? (new : Bool) (row column : Nat) : Option Text :=
  if !new && row = 0x7D && column = 0x3B then some [Char.ofNat 0x9B1D]
  else (Grid.jisX0213Second.char? row column).map ([·])

/-- The number of the katakana of half width that a byte stands for. -/
def katakana (b : Nat) : Nat :=
  b + 0xFEC0

/-- Does a byte stand for katakana of half width? -/
def isKatakana (b : Nat) : Bool :=
  0xA1 ≤ b && b ≤ 0xDF

/-- The planes that two bytes can stand for a cell of. -/
structure Planes where
  /-- The text of a cell of the first plane. -/
  first? : Nat → Nat → Option Text
  /-- The text of a cell of the second plane. -/
  second? : Nat → Nat → Option Text
  /-- Cells of the first plane that are still empty in an earlier edition. -/
  stillEmpty : List (Nat × Nat)

/-- What two bytes at the start of some others stand for in the first plane; both are wrong if
they are those of a cell that is still empty. -/
def Planes.readFirst (p : Planes) (row column : Nat) : Reading Unit :=
  if p.stillEmpty.contains (row, column) then .illegal 2 else .pair (p.first? row column) ()

/-! ### Row and column -/

/-- What stands at the start of some bytes where planes stand in row and column: two bytes for a
cell of the first plane, and three for one of the second. -/
def readRows (p : Planes) (b : Nat) (rest : Bytes) : Reading Unit :=
  if b < 0x80 then .ofNat b 0 ()
  else
    match rest with
    | [] => .unfinished
    | c :: more =>
      if b = 0x8E then if isKatakana c.toNat then .ofNat (katakana c.toNat) 1 () else .illegal 1
      else if b = 0x8F then
        match more with
        | [] => .unfinished
        | d :: _ =>
          match p.second? (c.toNat ^^^ 0x80) (d.toNat ^^^ 0x80) with
          | some t => .text t 2 ()
          | none => .illegal 1
      else p.readFirst (b ^^^ 0x80) (c.toNat ^^^ 0x80)

/-- The text of a cell of the first plane of JIS X 0213, with two wide signs in the places of
others. -/
def wideFirst? (new : Bool) (row column : Nat) : Option Text :=
  if row = 0x21 && column = 0x40 then some ['＼']
  else if row = 0x22 && column = 0x32 then some ['～']
  else jis0213First? new row column

/-- The text of a cell of the second plane of JIS X 0213 or else of JIS X 0212. -/
def second? (new : Bool) (row column : Nat) : Option Text :=
  jis0213Second? new row column <|> jis0212? row column

/-! ### Shifted rows -/

/-- The double row that a byte stands for, counted from zero. -/
def doubleRow? (b : Nat) : Option Nat :=
  Grid.place? [(0x81, 0x9F), (0xE0, 0xFC)] b

/-- The row, counted from zero, and the column that two bytes stand for. -/
def unshift? (b c : Nat) : Option (Nat × Nat) := do
  let row ← doubleRow? b
  let column ← Grid.place? Grid.shiftColumns c
  some (2 * row + column / 94, 0x21 + column % 94)

/-- The row of the second plane in the place of a row behind the first one, both counted from
zero. -/
def secondRow (row : Nat) : Nat :=
  if 0x67 ≤ row then row + 0x07
  else if 0x63 ≤ row || row = 0x5F then row - 0x37
  else row - 0x3D

/-- What two bytes stand for where planes stand shifted. -/
def Planes.readShifted (p : Planes) (b c : Nat) : Reading Unit :=
  match unshift? b c with
  | none => .illegal 1
  | some (row, column) =>
    if row < 94 then p.readFirst (row + 0x21) column
    else .pair (p.second? (secondRow row) column) ()

/-- What stands at the start of some bytes where planes stand shifted; `single` gives the
number of the character of a byte below 128, and `last` is the last byte that another one can
follow. -/
def readShifted (single : Nat → Nat) (last : Nat) (p : Planes) (b : Nat) (rest : Bytes) :
    Reading Unit :=
  if b < 0x80 then .ofNat (single b) 0 ()
  else if isKatakana b then .ofNat (katakana b) 0 ()
  else if last < b || (doubleRow? b).isNone then .illegal 1
  else
    match rest with
    | [] => .unfinished
    | c :: _ => p.readShifted b c.toNat

/-- The number of the character of a byte below 128 in JIS X 0201, which has a yen sign and an
overline. -/
def romanNumber (b : Nat) : Nat :=
  if b = 0x5C then 0xA5 else if b = 0x7E then 0x203E else b

/-- The text of a cell of the first plane of JIS X 0213, with two signs of ASCII that JIS X 0201
does not have. -/
def narrowFirst? (new : Bool) (row column : Nat) : Option Text :=
  if row = 0x21 && column = 0x40 then some ['\\']
  else if row = 0x22 && column = 0x32 then some ['~']
  else jis0213First? new row column

/-- No text: there is no second plane. -/
def noSecond? (_row _column : Nat) : Option Text :=
  none

/-! ### Windows -/

/-- The number of the character of one byte for Windows, if it stands alone. -/
def windows932Single? (b : Nat) : Option Nat :=
  if b ≤ 0x80 then some b
  else if b = 0xA0 then some 0xF8F0
  else if isKatakana b then some (katakana b)
  else if 0xFD ≤ b then some (0xF8F1 + (b - 0xFD))
  else none

/-- The private character that two bytes stand for. -/
def userText? (b c : Nat) : Option Text := do
  let column ← Grid.place? Grid.shiftColumns c
  if 0xF0 ≤ b && b ≤ 0xF9 then some [Char.ofNat (0xE000 + (b - 0xF0) * 188 + column)] else none

/-- The text of the cell of JIS X 0208 that two bytes stand for. -/
def shifted0208? (b c : Nat) : Option Text :=
  (unshift? b c).bind fun (row, column) ↦ jis0208? (row + 0x21) column

/-- The text that two bytes stand for. -/
def windows932Text? (b c : Nat) : Option Text :=
  (Grid.windows932.char? b c).map ([·]) <|> shifted0208? b c <|> userText? b c

/-- What stands at the start of some bytes. -/
def readWindows932 (b : Nat) (rest : Bytes) : Reading Unit :=
  match windows932Single? b, rest with
  | some n, _ => .ofNat n 0 ()
  | none, [] => .unfinished
  | none, c :: _ => .pair (windows932Text? b c.toNat) ()

/-! ### The encodings -/

/-- The planes of JIS X 0213 in row and column; the flag says whether they are those of 2004. -/
def widePlanes (new : Bool) : Planes :=
  ⟨wideFirst? new, second? new, if new then [] else Grid.jisX0213New⟩

/-- The planes of JIS X 0213 where they stand shifted; the flag says whether they are those of
2004. -/
def narrowPlanes (new : Bool) : Planes :=
  ⟨narrowFirst? new, jis0213Second? new, if new then [] else Grid.jisX0213New⟩

/-- The encodings of Japanese. -/
def japanese : List Multibyte :=
  [.stateless ["shift_jis", "csshiftjis", "shiftjis", "sjis", "s_jis", "x_mac_japanese"]
      (readShifted id 0xEA ⟨jis0208?, noSecond?, []⟩),
    .stateless ["cp932", "932", "ms932", "mskanji", "ms_kanji"] readWindows932,
    .stateless ["euc_jp", "eucjp", "ujis", "u_jis"] (readRows ⟨jis0208?, jis0212?, []⟩),
    .stateless ["euc_jis_2004", "jisx0213", "eucjis2004", "euc_jis2004"]
      (readRows (widePlanes true)),
    .stateless ["euc_jisx0213", "eucjisx0213"] (readRows (widePlanes false)),
    .stateless ["shift_jis_2004", "shiftjis2004", "sjis_2004", "s_jis_2004"]
      (readShifted romanNumber 0xFC (narrowPlanes true)),
    .stateless ["shift_jisx0213", "shiftjisx0213", "sjisx0213", "s_jisx0213"]
      (readShifted romanNumber 0xFC (narrowPlanes false))]

end StaticServer.Text.Multibyte
