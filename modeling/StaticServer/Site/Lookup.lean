import StaticServer.FileTree.RealPath

/-!
# Looking up a path under a root

A request's path is put into lexical normal form and taken from the root; then links are
resolved, and what is not the real root or below it, by whole names, is not found. Only then
is the entry looked at.
-/

namespace StaticServer.Lookup

/-- What a look at the file tree goes by: the tree and the directories below which no entry
may be looked at. -/
structure View where
  /-- The tree. -/
  tree : FileTree
  /-- Directories below which no entry may be looked at. -/
  denied : List Text

/-- Is a place, taken as it is written, below the real path of a denied directory? The root of
the file system does not count as one. -/
def View.isDenied (v : View) (p : Path) : Bool :=
  v.denied.any fun d ↦ match v.tree.realPathOf d with
    | .ok q => !q.isEmpty && Path.isBelow q p
    | .error _ => false

/-- The entry that a place leads to. -/
def View.entry (v : View) (p : Path) : Except Fault Entry :=
  if v.isDenied p then .error .denied
  else
    match v.tree.resolve (Path.text p) with
    | .error f => .error f
    | .ok q =>
      match v.tree.get? q with
      | some e => .ok e
      | none => .error .missing

/-- A relative path that would not be taken from the root: its text starts with a backslash. -/
def isForeign (parts : List Text) : Bool :=
  match parts with
  | ('\\' :: _) :: _ => true
  | _ => false

/-- A place below the root or the root itself, and the entry there. -/
structure Found where
  /-- The real path. -/
  place : Path
  /-- The entry. -/
  entry : Entry

/-- What a relative path leads to under a root, if there is something. -/
def find (v : View) (root : Path) (parts : List Text) : Except Fault (Option Found) :=
  if isForeign parts then .ok none
  else do
    let place ← v.tree.realPath (root ++ parts)
    let realRoot ← v.tree.realPath root
    if Path.isWithin realRoot place then
      match v.entry place with
      | .ok e => .ok (some ⟨place, e⟩)
      | .error .missing => .ok none
      | .error .notDirectory => .ok none
      | .error f => .error f
    else .ok none

/-- The parts of a request's path in lexical normal form. -/
def relativeParts (path : Text) : List Text :=
  Path.normalizeRelative (Path.parts path)

end StaticServer.Lookup
