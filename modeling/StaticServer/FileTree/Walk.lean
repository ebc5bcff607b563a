import StaticServer.FileTree.Basic
import StaticServer.Text.Quoted
import StaticServer.Text.Integer

/-!
# Following a path

`resolve` follows a path as the operating system does: part by part, through links, with a
limit on how many links one path may pass. It answers the place that is reached, which holds
a regular file or a directory, or the `Fault` that stops it.

A link replaces itself by the parts of its target. The recursion is on the links that may
still be passed and, between two links, on the parts.
-/

namespace StaticServer

/-- Why a path cannot be followed. -/
inductive Fault where
  /-- There is no such entry. -/
  | missing
  /-- Something that has to be a directory is none. -/
  | notDirectory
  /-- The path passes more links than are allowed. -/
  | tooManyLinks
  /-- A name or the whole path is too long. -/
  | nameTooLong
  /-- The entry may not be looked at. -/
  | denied
  /-- The text holds the character NUL, which ends every path. -/
  | nulCharacter
  deriving DecidableEq, Repr

/-- The number that the operating system gives a fault; NUL never reaches it. -/
def Fault.number : Fault → Nat
  | .missing => 2
  | .denied => 13
  | .notDirectory => 20
  | .nameTooLong => 36
  | .tooManyLinks => 40
  | .nulCharacter => 22

/-- The words of a fault. -/
def Fault.reason : Fault → Text
  | .missing => "No such file or directory"
  | .denied => "Permission denied"
  | .notDirectory => "Not a directory"
  | .nameTooLong => "File name too long"
  | .tooManyLinks => "Too many levels of symbolic links"
  | .nulCharacter => "embedded null byte"

/-- A fault with the path that it was met on. -/
structure PathError where
  /-- The fault. -/
  fault : Fault
  /-- The path as it was given. -/
  path : Text
  deriving DecidableEq

/-- The message of a fault with its path. -/
def PathError.message (e : PathError) : Text :=
  match e.fault with
  | .nulCharacter => e.fault.reason
  | f => "[Errno " ++ (Text.ofNat f.number ++ ("] " ++ (f.reason ++ (": " ++ Text.quoted e.path))))

namespace FileTree

/-- One path may pass this many links. -/
def linkLimit : Nat :=
  40

/-- Follows parts from a place up to the first link, which `follow` goes on from. -/
def walkWith (t : FileTree) (follow : Path → List Text → Except Fault Path) :
    Path → List Text → Except Fault Path
  | here, [] => .ok here
  | here, part :: rest =>
    if !t.isDirectory here then .error .notDirectory
    else if Path.isStay part then t.walkWith follow here rest
    else if part = Path.up then t.walkWith follow here.dropLast rest
    else if Path.nameLimit < Text.Utf8.size part then .error .nameTooLong
    else match t.get? (here ++ [part]) with
      | none => .error .missing
      | some (.link target) =>
        follow (if Path.isAbsolute target then [] else here) (Path.parts target ++ rest)
      | some _ => t.walkWith follow (here ++ [part]) rest

/-- Follows parts from a place through a limited number of links. -/
def walk (t : FileTree) : Nat → Path → List Text → Except Fault Path
  | 0 => t.walkWith fun _ _ ↦ .error .tooManyLinks
  | links + 1 => t.walkWith (t.walk links)

/-- The place that a path's text leads to. -/
def resolve (t : FileTree) (text : Text) : Except Fault Path :=
  if text.contains '\x00' then .error .nulCharacter
  else if text.isEmpty then .error .missing
  else if Path.textLimit ≤ Text.Utf8.size text then .error .nameTooLong
  else t.walk linkLimit (t.start text) (Path.parts text)

/-- Does a path's text lead to a directory? -/
def leadsToDirectory (t : FileTree) (text : Text) : Bool :=
  match t.resolve text with
  | .ok p => t.isDirectory p
  | .error _ => false

end FileTree

end StaticServer
