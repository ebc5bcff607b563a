import StaticServer.Proofs.FileTree.Settled
import StaticServer.Site.Listing
import StaticServer.Site.Lookup

/-!
# Replacing the data of files

`t.mapFiles g` is the tree in which the bytes and the modification time of every regular file are
replaced by what `g` makes of its place and of them. Where paths lead, what directories hold and
what a listing shows depends on nothing that is replaced; the lemmas here say so, function by
function, and only `get?` tells the two trees apart (`get?_mapFiles`).

`t.replaceOutside root g` replaces the data of those files alone whose real path is not inside the
real path of a root. An observer who can tell it from `t` has seen something of such a file.
-/

namespace StaticServer

/-- An entry with the data of a regular file put through a function. -/
def Entry.mapFile (f : FileData → FileData) : Entry → Entry
  | .file data => .file (f data)
  | .directory => .directory
  | .link target => .link target

@[simp] theorem Entry.mapFile_eq_directory {f : FileData → FileData} {e : Entry} :
    e.mapFile f = .directory ↔ e = .directory := by
  cases e <;> simp [mapFile]

@[simp] theorem Entry.mapFile_eq_link {f : FileData → FileData} {e : Entry} {target : Text} :
    e.mapFile f = .link target ↔ e = .link target := by
  cases e <;> simp [mapFile]

namespace FileTree

/-- The tree with the data of every regular file put through a function of its place. -/
def mapFiles (g : Path → FileData → FileData) (t : FileTree) : FileTree :=
  ⟨t.entries.map fun (p, e) ↦ (p, e.mapFile (g p)), t.workingDirectory, by
    rw [List.map_map]
    exact t.nodup⟩

/-- The tree with other data in the files whose real path is not inside that of a root. -/
def replaceOutside (t : FileTree) (root : Path) (g : Path → FileData → FileData) : FileTree :=
  t.mapFiles fun p data ↦ if t.isInside root p then data else g p data

variable (t : FileTree) (g : Path → FileData → FileData)

/-! ### What stands where -/

/-- The entries at the places of a tree with replaced data. -/
theorem get?_mapFiles (p : Path) : (t.mapFiles g).get? p = (t.get? p).map (·.mapFile (g p)) := by
  have hlookup (l : List (Path × Entry)) :
      (l.map fun x ↦ (x.1, x.2.mapFile (g x.1))).lookup p = (l.lookup p).map (·.mapFile (g p)) := by
    induction l with
    | nil => rfl
    | cons x l ih =>
      rw [List.map_cons, List.lookup_cons, List.lookup_cons]
      split
      · next heq => rw [beq_iff_eq.1 heq, Option.map_some]
      · exact ih
  rw [get?, get?]
  split
  · rfl
  · exact hlookup t.entries

@[simp] theorem isDirectory_mapFiles (p : Path) :
    (t.mapFiles g).isDirectory p = t.isDirectory p := by
  rw [isDirectory, isDirectory, get?_mapFiles]
  rcases t.get? p with - | e <;> simp

/-- Links stay where they are and lead where they led. -/
@[simp] theorem linkTarget?_mapFiles (p : Path) :
    (t.mapFiles g).linkTarget? p = t.linkTarget? p := by
  rw [linkTarget?, linkTarget?, get?_mapFiles]
  rcases t.get? p with - | e
  · rfl
  · cases e <;> rfl

@[simp] theorem visibleLink?_mapFiles (p : Path) :
    (t.mapFiles g).visibleLink? p = t.visibleLink? p := by
  rw [visibleLink?, visibleLink?, linkTarget?_mapFiles]

@[simp] theorem linkCount_mapFiles : (t.mapFiles g).linkCount = t.linkCount := by
  rw [linkCount, linkCount, links, links, mapFiles, List.filterMap_map]
  refine congrArg List.length (List.filterMap_congr fun ⟨p, e⟩ _ ↦ ?_)
  cases e <;> rfl

@[simp] theorem names_mapFiles (p : Path) : (t.mapFiles g).names p = t.names p := by
  rw [names, names, mapFiles, List.filterMap_map]
  rfl

/-! ### Where paths lead -/

@[simp] theorem start_mapFiles (text : Text) : (t.mapFiles g).start text = t.start text :=
  rfl

/-- A walk never looks into a file. -/
theorem walkWith_mapFiles (follow : Path → List Text → Except Fault Path) (here : Path)
    (parts : List Text) :
    (t.mapFiles g).walkWith follow here parts = t.walkWith follow here parts := by
  induction parts generalizing here with
  | nil => rfl
  | cons part rest ih =>
    rw [walkWith, walkWith, isDirectory_mapFiles, ih, ih, get?_mapFiles]
    rcases t.get? (here ++ [part]) with - | e
    · rfl
    · cases e <;> simp only [Option.map_some, Entry.mapFile, ih]

@[simp] theorem walk_mapFiles (n : Nat) : (t.mapFiles g).walk n = t.walk n := by
  funext here parts
  induction n generalizing here parts with
  | zero => rw [walk, walk, walkWith_mapFiles]
  | succ n ih =>
    have hsame : (t.mapFiles g).walk n = t.walk n := funext fun p ↦ funext (ih p)
    rw [walk, walk, walkWith_mapFiles, hsame]

/-- So paths lead where they led. -/
@[simp] theorem resolve_mapFiles (text : Text) : (t.mapFiles g).resolve text = t.resolve text := by
  rw [resolve, resolve, walk_mapFiles, start_mapFiles]

@[simp] theorem leadsToDirectory_mapFiles (text : Text) :
    (t.mapFiles g).leadsToDirectory text = t.leadsToDirectory text := by
  rw [leadsToDirectory, leadsToDirectory, resolve_mapFiles]
  rcases t.resolve text with f | p <;> simp

/-- Real paths do not look into files, either. -/
theorem realWith_mapFiles (follow : Path → List Text → LinkMemo → Except Fault Reached)
    (here : Path) (parts : List Text) (memo : LinkMemo) :
    (t.mapFiles g).realWith follow here parts memo = t.realWith follow here parts memo := by
  induction parts generalizing here memo with
  | nil => rfl
  | cons part rest ih => simp only [realWith, visibleLink?_mapFiles, ih]

theorem realFrom_mapFiles (depth : Nat) : (t.mapFiles g).realFrom depth = t.realFrom depth := by
  funext here parts memo
  induction depth generalizing here parts memo with
  | zero => rw [realFrom, realFrom, realWith_mapFiles]
  | succ depth ih =>
    have hsame : (t.mapFiles g).realFrom depth = t.realFrom depth :=
      funext fun p ↦ funext fun parts ↦ funext (ih p parts)
    rw [realFrom, realFrom, realWith_mapFiles, hsame]

@[simp] theorem realPath_mapFiles (parts : List Text) :
    (t.mapFiles g).realPath parts = t.realPath parts := by
  rw [realPath, realPath, realFrom_mapFiles, linkCount_mapFiles]

@[simp] theorem realPathOf_mapFiles (text : Text) :
    (t.mapFiles g).realPathOf text = t.realPathOf text := by
  rw [realPathOf, realPathOf, realPath_mapFiles, start_mapFiles]

end FileTree

/-! ### Listings -/

namespace Listing

variable (t : FileTree) (g : Path → FileData → FileData)

/-- In a listing a file stays a file. -/
theorem mark_mapFiles (directory : Text) (place : Path) :
    mark (t.mapFiles g) directory place = mark t directory place := by
  funext name
  rw [mark, mark, FileTree.get?_mapFiles]
  rcases t.get? (place ++ [name]) with - | e
  · rfl
  · cases e <;> simp [Entry.mapFile]

/-- **A listing shows nothing of the data of files.** -/
theorem render_mapFiles (directory : Text) :
    render (t.mapFiles g) directory = render t directory := by
  simp only [render, markedNames, markedNamesAt, FileTree.resolve_mapFiles,
    FileTree.isDirectory_mapFiles, FileTree.names_mapFiles, mark_mapFiles]

end Listing

/-! ### Looking up -/

namespace Lookup

variable (v : View) (g : Path → FileData → FileData)

/-- A view of the tree with replaced data. -/
def View.mapFiles (g : Path → FileData → FileData) (v : View) : View :=
  ⟨v.tree.mapFiles g, v.denied⟩

theorem View.isDenied_mapFiles (p : Path) : (v.mapFiles g).isDenied p = v.isDenied p := by
  simp only [isDenied, mapFiles, FileTree.realPathOf_mapFiles]

/-- The place of the entry that the text of a place leads to. -/
def seat (t : FileTree) (p : Path) : Path :=
  match t.resolve (Path.text p) with
  | .ok q => q
  | .error _ => p

/-- What is looked at at a place is what was there, with the other bytes if it is a file. -/
theorem View.entry_mapFiles (p : Path) :
    (v.mapFiles g).entry p = (v.entry p).map (·.mapFile (g (seat v.tree p))) := by
  rw [entry, entry, isDenied_mapFiles, seat]
  split
  · rfl
  rw [mapFiles, FileTree.resolve_mapFiles]
  rcases v.tree.resolve (Path.text p) with f | q
  · rfl
  · simp only [FileTree.get?_mapFiles]
    rcases v.tree.get? q with - | e <;> rfl

/-- What is found, with its data put through a function of the place where it stands. -/
def Found.mapFiles (t : FileTree) (g : Path → FileData → FileData) (found : Found) : Found :=
  ⟨found.place, found.entry.mapFile (g (seat t found.place))⟩

/-- **Looking up depends on the data of a file only by handing it on.** -/
theorem find_mapFiles (root : Path) (parts : List Text) :
    find (v.mapFiles g) root parts = (find v root parts).map (·.map (·.mapFiles v.tree g)) := by
  rw [find, find]
  split
  · rfl
  have htree (ps : List Text) : (v.mapFiles g).tree.realPath ps = v.tree.realPath ps :=
    v.tree.realPath_mapFiles g ps
  rw [htree, htree]
  rcases v.tree.realPath (root ++ parts) with f | place
  · rfl
  rcases v.tree.realPath root with f | realRoot
  · rfl
  simp only [bind, Except.bind]
  split
  · rw [View.entry_mapFiles]
    rcases v.entry place with f | e
    · cases f <;> rfl
    · rfl
  · rfl

end Lookup

end StaticServer
