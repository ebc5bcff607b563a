import StaticServer.FileTree.Walk
import StaticServer.Order.Insertion
import StaticServer.RawValue.Basic
import StaticServer.Text.Html
import StaticServer.Text.Percent

/-!
# Listing a directory

A listing is a page with one link for each entry of a directory. The name of an entry that
leads to a directory is marked with a slash at its end; the links are in the order of the
marked names. A link's address is the marked name, percent-encoded, and its text is the
marked name, escaped for HTML. `read?` takes such a page apart again.
-/

namespace StaticServer.Listing

/-- The characters that the address of a link keeps. -/
def isKept (c : Char) : Bool :=
  Text.Percent.isUnreserved c || c = '/'

/-- What stands before the address of a link. -/
def linkStart : Text :=
  "<a href=\""

/-- What stands between the address and the text of a link. -/
def linkMiddle : Text :=
  "\">"

/-- What stands behind the text of a link. -/
def linkEnd : Text :=
  "</a>\n"

/-- What stands before the links. -/
def pageStart : Text :=
  "<pre>\n"

/-- What stands behind the links. -/
def pageEnd : Text :=
  "</pre>\n"

/-- The link of a marked name. -/
def link (name : Text) : Text :=
  linkStart ++ (Text.Percent.encode isKept name ++ (linkMiddle ++
    (Text.Html.escape name ++ linkEnd)))

/-- The page with the links of marked names. -/
def page (names : List Text) : Text :=
  pageStart ++ (names.flatMap link ++ pageEnd)

/-- The name of an entry of a directory, marked with a slash when it leads to a directory.
A link that leads nowhere is no directory; one that cannot be followed is a fault. -/
def mark (t : FileTree) (directory : Text) (place : Path) (name : Text) :
    Except PathError Text :=
  match t.get? (place ++ [name]) with
  | some .directory => .ok (name ++ ['/'])
  | some (.link _) =>
    let text := Path.joinText directory name
    match t.resolve text with
    | .ok p => .ok (if t.isDirectory p then name ++ ['/'] else name)
    | .error .missing => .ok name
    | .error f => .error ⟨f, text⟩
  | _ => .ok name

/-- The marked names of the directory at a place in their order. The directory is also given as
its path is written. -/
def markedNamesAt (t : FileTree) (directory : Text) (place : Path) :
    Except PathError (List Text) := do
  let names ← (t.names place).mapM (mark t directory place)
  .ok (Order.sort Text.lexLE names)

/-- The marked names of a directory in their order. The directory is given as its path is
written. -/
def markedNames (t : FileTree) (directory : Text) : Except PathError (List Text) :=
  match t.resolve directory with
  | .error f => .error ⟨f, directory⟩
  | .ok place =>
    if t.isDirectory place then markedNamesAt t directory place
    else .error ⟨.notDirectory, directory⟩

/-- The page that lists a directory. -/
def render (t : FileTree) (directory : Text) : Except PathError Text :=
  (markedNames t directory).map page

/-! ### Directories that are given in another way -/

/-- Why a value has no listing. -/
inductive ValueError where
  /-- The path that it is cannot be followed. -/
  | path (e : PathError)
  /-- It is the number of an open file. -/
  | openFile (v : RawValue)
  /-- It is the number of no open file. -/
  | notOpen (v : RawValue)
  /-- It is a number that no file can have: one that is too large, or else too small. -/
  | outOfRange (tooLarge : Bool)
  /-- It gives no directory. -/
  | notPath (v : RawValue)
  deriving DecidableEq

/-- The message about a numbered file. -/
def fileMessage (number : Nat) (reason : Text) (v : RawValue) : Text :=
  "[Errno " ++ (Text.ofNat number ++ ("] " ++ (reason ++ (": " ++ v.shown))))

/-- The message of an error. -/
def ValueError.message : ValueError → Text
  | .path e => e.message
  | .openFile v => fileMessage Fault.notDirectory.number Fault.notDirectory.reason v
  | .notOpen v => fileMessage 9 "Bad file descriptor" v
  | .outOfRange tooLarge =>
    if tooLarge then "fd is greater than maximum" else "fd is less than minimum"
  | .notPath v =>
    "scandir: path should be string, bytes, os.PathLike, integer or None, not " ++ v.kindName

/-- The page that lists the working directory, whose path is not written. -/
def renderHere (t : FileTree) : Except PathError Text :=
  (markedNamesAt t [] t.workingDirectory).map page

/-- The page that lists the directory with the number of an open file, where so many files are open,
none of them a directory. A number that stands for no file stands for the working directory. -/
def renderOpen (openFiles : Nat) (t : FileTree) (v : RawValue) (n : Int) :
    Except ValueError Text :=
  if n = -1 then (renderHere t).mapError .path
  else if 0 ≤ n && n < openFiles then .error (.openFile v)
  else if -Int.pow 2 31 ≤ n && n < Int.pow 2 31 then .error (.notOpen v)
  else .error (.outOfRange (0 ≤ n))

/-- The page that lists the directory that a value gives: by its path, by the number of an open
file, of which there are so many, or without a value the working directory. -/
def renderValue (openFiles : Nat) (t : FileTree) (v : RawValue) : Except ValueError Text :=
  match v with
  | .text directory => (render t directory).mapError .path
  | .null => (renderHere t).mapError .path
  | .integer n => renderOpen openFiles t v n
  | .boolean b => renderOpen openFiles t v (if b then 1 else 0)
  | v => .error (.notPath v)

/-! ### Reading a listing -/

/-- The address and the text of the link that a text starts with, and what follows it. -/
def readLink? (t : Text) : Option ((Text × Text) × Text) := do
  let t ← Text.dropLead? linkStart t
  let (address, t) := t.span (· != '\x22')
  let t ← Text.dropLead? linkMiddle t
  let (shown, t) := t.span (· != '<')
  let t ← Text.dropLead? linkEnd t
  some ((address, shown), t)

/-- The links that a text consists of, up to the end of the page. -/
def readLinks? : Nat → Text → Option (List (Text × Text))
  | 0, t => if t = pageEnd then some [] else none
  | n + 1, t =>
    if t = pageEnd then some []
    else do
      let (l, rest) ← readLink? t
      let ls ← readLinks? n rest
      some (l :: ls)

/-- The addresses and texts of the links of a page. -/
def read? (t : Text) : Option (List (Text × Text)) :=
  (Text.dropLead? pageStart t).bind (readLinks? t.length)

end StaticServer.Listing
