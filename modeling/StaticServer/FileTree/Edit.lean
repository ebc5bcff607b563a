import StaticServer.FileTree.Walk

/-!
# Changing a file tree

Writing a file, making a directory or a link, and removing an entry, each by a path's text
from the working directory. Missing directories on the way are made. A file is written
through a link to where it leads; a link and a removal concern the entry itself. A directory
may be there already, and so may a file; a link takes the place of nothing. What is not there
need not be removed.
-/

namespace StaticServer

/-- Why an entry cannot be made. -/
inductive EditFault where
  /-- There is one already. -/
  | taken
  /-- There is a directory where a file is to be written. -/
  | directory
  /-- The path to it cannot be followed. -/
  | path (f : Fault)
  deriving DecidableEq, Repr

/-- The number that the operating system gives a fault. -/
def EditFault.number : EditFault → Nat
  | .taken => 17
  | .directory => 21
  | .path f => f.number

/-- The words of a fault. -/
def EditFault.reason : EditFault → Text
  | .taken => "File exists"
  | .directory => "Is a directory"
  | .path f => f.reason

/-- A fault with the path that it was met on. -/
structure EditError where
  /-- The fault. -/
  fault : EditFault
  /-- The path as it was given. -/
  path : Text
  /-- The target of the link that was to be made, if it was a link. -/
  target : Option Text := none
  deriving DecidableEq

/-- The message of a fault with its path. -/
def EditError.message (e : EditError) : Text :=
  match e.fault with
  | .path .nulCharacter => e.fault.reason
  | f =>
    let place := match e.target with
      | none => Text.quoted e.path
      | some target => Text.quoted target ++ (" -> " ++ Text.quoted e.path)
    "[Errno " ++ (Text.ofNat f.number ++ ("] " ++ (f.reason ++ (": " ++ place))))

namespace FileTree

/-! ### Places for entries -/

/-- What is wrong with a path's text as such, if anything. -/
def textFault? (text : Text) : Option Fault :=
  if text.contains '\x00' then some .nulCharacter
  else if text.isEmpty then some .missing
  else if Path.textLimit ≤ Text.Utf8.size text then some .nameTooLong
  else none

/-- The directory that parts lead to from a place, but for the last one, and that one. A last
part that is no name leads to a directory, and then there is none. -/
def parent (t : FileTree) (here : Path) (parts : List Text) :
    Except Fault (Path × Option Text) :=
  match t.walk linkLimit here parts.dropLast, parts.getLast? with
  | .error f, _ => .error f
  | .ok place, none => .ok (place, none)
  | .ok place, some name =>
    if !t.isDirectory place then .error .notDirectory
    else if Path.isStay name || name = Path.up then .ok (place, none)
    else if Path.nameLimit < Text.Utf8.size name then .error .nameTooLong
    else .ok (place, some name)

/-- The place of a new entry with a path's text, at which there is none. -/
def newPlace (t : FileTree) (text : Text) : Except EditFault Path :=
  match textFault? text with
  | some f => .error (.path f)
  | none =>
    match t.parent (t.start text) (Path.parts text) with
    | .error f => .error (.path f)
    | .ok (_, none) => .error .taken
    | .ok (place, some name) =>
      if (t.get? (place ++ [name])).isSome then .error .taken else .ok (place ++ [name])

/-- The place that writing a file writes to by parts from a place: links are followed, and the
last one may lead to a place that does not exist yet. -/
def writePlace (t : FileTree) : Nat → Path → List Text → Except EditFault Path
  | 0, _, _ => .error (.path .tooManyLinks)
  | links + 1, here, parts =>
    match t.parent here parts with
    | .error f => .error (.path f)
    | .ok (_, none) => .error .directory
    | .ok (place, some name) =>
      match t.get? (place ++ [name]) with
      | some .directory => .error .directory
      | some (.link target) =>
        t.writePlace links (if Path.isAbsolute target then [] else place) (Path.parts target)
      | _ => .ok (place ++ [name])

/-! ### Directories -/

/-- The tree with one more directory. -/
def makeDirectory (t : FileTree) (text : Text) : Except EditFault FileTree :=
  (t.newPlace (Path.dropSlashes text)).map fun p ↦ t.set p .directory

/-- The tree with a directory and those on the way to it, of which there are no more than
`depth`. -/
def makeDirectories (t : FileTree) : Nat → Text → Except EditError FileTree
  | 0, text => .error ⟨.path .missing, text, none⟩
  | depth + 1, text => do
    let (above, name) := Path.splitLast (Path.dropSlashes text)
    let way :=
      if above.isEmpty || (t.resolve above).isOk then .ok t else t.makeDirectories depth above
    let u ← match way with
      | .error e => if e.fault = .taken then .ok t else .error e
      | .ok u => .ok u
    match u.makeDirectory text with
    | .ok v => .ok v
    | .error f =>
      if u.leadsToDirectory text || (name = "." && !above.isEmpty) then .ok u
      else .error ⟨f, text, none⟩

/-- The tree with the directory of an entry, if the path of the entry tells it. -/
def makeParent (t : FileTree) (text : Text) : Except EditError FileTree :=
  let above := (Path.splitLast text).1
  if above.isEmpty then .ok t else t.makeDirectories (above.length + 1) above

/-! ### Entries -/

/-- The tree with a directory made. -/
def putDirectory (t : FileTree) (text : Text) : Except EditError FileTree :=
  t.makeDirectories (text.length + 1) text

/-- The tree with a file written. -/
def putFile (t : FileTree) (text : Text) (data : FileData) : Except EditError FileTree := do
  let u ← t.makeParent text
  let place : Except EditFault Path := match textFault? text with
    | some f => .error (.path f)
    | none => u.writePlace linkLimit (u.start text) (Path.parts text)
  match place with
  | .error f => .error ⟨f, text, none⟩
  | .ok p => .ok (u.set p (.file data))

/-- The tree with a link made. -/
def putLink (t : FileTree) (text target : Text) : Except EditError FileTree := do
  let u ← t.makeParent text
  let place : Except EditFault Path := match textFault? target with
    | some f => .error (.path f)
    | none => u.newPlace text
  match place with
  | .error f => .error ⟨f, text, some target⟩
  | .ok p => .ok (u.set p (.link target))

/-- The tree without an entry and without all that is below it. -/
def remove (t : FileTree) (text : Text) : FileTree :=
  let parts := (Path.parts text).filter fun part ↦ !Path.isStay part
  match parts.getLast?, t.walk linkLimit (t.start text) parts.dropLast with
  | some name, .ok here => t.keepWhere fun p ↦ !Path.isWithin (here ++ [name]) p
  | _, _ => t

end FileTree

end StaticServer
