import StaticServer.Text.Basic

/-!
# The pieces of a page

A reader of a page takes it as running text and tags in turn: a tag begins at `<` and ends at the
next `>` that does not stand in quotes. `pieces` cuts a page in this way, whatever stands in it.
-/

namespace StaticServer.Text.Html

/-- A piece of a page. -/
inductive Piece where
  /-- Running text, as it is written. -/
  | text (t : Text)
  /-- A tag, as it is written between its marks. -/
  | tag (t : Text)
  deriving DecidableEq

/-- Where a reader of a page is. -/
inductive Position where
  /-- In running text. -/
  | text
  /-- In a tag. -/
  | tag
  /-- In a tag, in quotes that a mark ends. -/
  | quoted (mark : Char)

/-- Does a character begin quotes in a tag? -/
def isQuote (c : Char) : Bool :=
  c = '\x22' || c = '\x27'

/-- The rest of the piece that a reader is in, and the pieces behind it. -/
def scan : Position → Text → Text × List Piece
  | _, [] => ([], [])
  | .text, c :: t =>
    if c = '<' then
      let (inside, behind) := scan .tag t
      ([], .tag inside :: behind)
    else
      let (run, behind) := scan .text t
      (c :: run, behind)
  | .tag, c :: t =>
    if c = '>' then
      let (run, behind) := scan .text t
      ([], .text run :: behind)
    else
      let (inside, behind) := scan (if isQuote c then .quoted c else .tag) t
      (c :: inside, behind)
  | .quoted mark, c :: t =>
    let (inside, behind) := scan (if c = mark then .tag else .quoted mark) t
    (c :: inside, behind)

/-- The pieces of a page, running text first. -/
def pieces (t : Text) : List Piece :=
  let (run, behind) := scan .text t
  .text run :: behind

/-- Running text goes on to the next tag. -/
theorem scan_text_append {u : Text} (h : '<' ∉ u) (t : Text) :
    scan .text (u ++ t) = (u ++ (scan .text t).1, (scan .text t).2) := by
  induction u with
  | nil => rfl
  | cons c u ih =>
    rw [List.mem_cons, not_or] at h
    rw [List.cons_append, scan, if_neg (Ne.symm h.1), ih h.2]
    rfl

/-- Quotes go on to the next of their marks. -/
theorem scan_quoted_append {mark : Char} {u : Text} (h : mark ∉ u) (t : Text) :
    scan (.quoted mark) (u ++ t) =
      (u ++ (scan (.quoted mark) t).1, (scan (.quoted mark) t).2) := by
  induction u with
  | nil => rfl
  | cons c u ih =>
    rw [List.mem_cons, not_or] at h
    rw [List.cons_append, scan, if_neg (Ne.symm h.1), ih h.2]
    rfl

example : pieces "<a b=\"<>\">c > d</a>" =
    [.text "", .tag "a b=\"<>\"", .text "c > d", .tag "/a", .text ""] := by decide

end StaticServer.Text.Html
