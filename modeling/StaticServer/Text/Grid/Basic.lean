import StaticServer.Text.Basic

/-!
# Grids of characters

The large sets of characters have them in rows and columns: one byte for the row and one for
the column, or numbers that are worked out from two bytes. A grid is written down row by row,
in parts between which there is nothing.
-/

namespace StaticServer.Text

/-- Characters in rows and columns. -/
structure Grid where
  /-- The number of the first row. -/
  firstRow : Nat
  /-- The numbers of the columns, in ranges. -/
  columns : List (Nat × Nat)
  /-- Characters from a cell on, row by row, with U+FFFD for an empty cell. Cells are counted
  from zero. -/
  parts : List (Nat × Text)

namespace Grid

/-- How many numbers there are in ranges. -/
def width (ranges : List (Nat × Nat)) : Nat :=
  ranges.foldr (fun (first, last) n ↦ last + 1 - first + n) 0

/-- The place of a number in ranges, counted from zero. -/
def place? : List (Nat × Nat) → Nat → Option Nat
  | [], _ => none
  | (first, last) :: ranges, n =>
    if n < first then none
    else if n ≤ last then some (n - first)
    else (place? ranges n).map (· + (last + 1 - first))

/-- The character of a cell, counted from zero. -/
def cell? (g : Grid) (cell : Nat) : Option Char :=
  g.parts.findSome? fun (start, t) ↦
    if cell < start then none else t[cell - start]?.filter (· ≠ '\uFFFD')

/-- The character in a row and a column. -/
def char? (g : Grid) (row column : Nat) : Option Char :=
  if row < g.firstRow then none
  else (place? g.columns column).bind fun c ↦
    g.cell? ((row - g.firstRow) * width g.columns + c)

/-- The columns of the standard planes, which are also the numbers of their rows. -/
def plane : List (Nat × Nat) :=
  [(0x21, 0x7E)]

/-- All characters, row by row. -/
def toText (g : Grid) : Text :=
  g.parts.flatMap fun (_, t) ↦ t.filter (· ≠ '\uFFFD')

end Grid

end StaticServer.Text
