import StaticServer.Text.Utf8

/-!
# Paths

A `Path` is the place of an entry: the names from the root of the file system down to it. A
path that somebody writes is a text; its `parts` are what stands between the slashes. The
lexical normal form of some parts drops empty ones and single dots and lets a double dot
cancel the part before it, without asking whether that part exists.
-/

namespace StaticServer

/-- The names from the root of the file system down to an entry. -/
abbrev Path := List Text

namespace Path

/-- What stands between the slashes of a path's text. -/
def parts (t : Text) : List Text :=
  t.splitOn '/'

/-- Does a path's text start at the root of the file system? -/
def isAbsolute (t : Text) : Bool :=
  t.head? = some '/'

/-- The text of a place, from the root down. -/
def text (p : Path) : Text :=
  '/' :: Text.join "/" p

/-- The text of an entry `name` of the directory that is written `directory`. -/
def joinText (directory name : Text) : Text :=
  if directory.isEmpty || directory.getLast? = some '/' then directory ++ name
  else directory ++ '/' :: name

/-- A path's text without the slashes at its end, unless it is all slashes. -/
def dropSlashes (t : Text) : Text :=
  let front := Text.trimRightBy (· == '/') t
  if front.isEmpty then t else front

/-- A path's text up to the last slash, without the slashes at the end of that, and what
follows the last slash. -/
def splitLast (t : Text) : Text × Text :=
  match Text.cutLast '/' t with
  | none => ([], t)
  | some (above, name) => (dropSlashes (above ++ ['/']), name)

/-- A part that stays where it is: an empty one or a single dot. -/
def isStay (part : Text) : Bool :=
  part.isEmpty || part = "."

/-- The part that goes up. -/
def up : Text :=
  ".."

/-- A path's text without the parts that stay where they are. -/
def tidyText (t : Text) : Text :=
  let body := Text.join "/" ((parts t).filter (!isStay ·))
  if isAbsolute t then '/' :: body else if body.isEmpty then "." else body

/-- One more part at the end of a place; going up from the root stays there. -/
def push (p : Path) (part : Text) : Path :=
  if isStay part then p else if part = up then p.dropLast else p ++ [part]

/-- The place that parts lead to from the root, lexically. -/
def normalize (ps : List Text) : Path :=
  ps.foldl push []

/-- One more part at the end of a relative path; going up from where it starts is kept. -/
def pushRelative (ps : List Text) (part : Text) : List Text :=
  if isStay part then ps
  else if part = up && !(ps.isEmpty || ps.getLast? = some up) then ps.dropLast
  else ps ++ [part]

/-- The lexical normal form of a relative path: no empty parts or single dots, and double
dots at the front only. -/
def normalizeRelative (ps : List Text) : List Text :=
  ps.foldl pushRelative []

/-- Is a place the directory itself or below it, by whole names? -/
def isWithin (directory p : Path) : Bool :=
  directory.isPrefixOf p

/-- Is a place below the directory, by whole names? -/
def isBelow (directory p : Path) : Bool :=
  isWithin directory p && directory.length < p.length

/-- A text that can name an entry of a directory. -/
def isName (t : Text) : Bool :=
  !t.isEmpty && t ≠ "." && t ≠ ".." && !t.contains '/' && !t.contains '\x00'

/-- A name may not take more bytes than this. -/
def nameLimit : Nat :=
  255

/-- A path's text takes fewer bytes than this. -/
def textLimit : Nat :=
  4096

end Path

end StaticServer
