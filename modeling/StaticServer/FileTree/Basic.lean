import StaticServer.FileTree.Path
import StaticServer.Number.Binary64

/-!
# File trees

A file tree holds regular files, directories and symbolic links by their places, no place
twice. The root of the file system is always a directory. Relative paths start from the
tree's working directory.

A file has a modification time, a whole number of nanoseconds; programs give it and read it as a
binary64 number of seconds. `Timestamp.ofSeconds` and `Timestamp.seconds` are the two conversions,
with the roundings of each step, and `Timestamp.wholeSeconds` is the second that a date shows for
such a number.
-/

namespace StaticServer

/-! ### Modification times -/

namespace Timestamp

/-- The integer part of a rational number, towards zero. -/
def truncate (x : Rat) : Int :=
  if x < 0 then -(-x).floor else x.floor

/-- The nanoseconds of a number of seconds. -/
def ofSeconds (x : Rat) : Int :=
  let whole := truncate x
  whole * 1000000000 + (Binary64.round ((x - whole) * 1000000000)).floor

/-- The number of seconds of some nanoseconds. -/
def seconds (nanoseconds : Int) : Rat :=
  let whole := Int.fdiv nanoseconds (1000000000)
  let rest := Int.fmod nanoseconds (1000000000)
  let fraction := Binary64.round (Binary64.round (1 / 1000000000) * rest)
  Binary64.round (Binary64.round whole + fraction)

/-- The second that a date shows: the number is first rounded to microseconds, a tie going
to the even one. -/
def wholeSeconds (x : Rat) : Int :=
  let whole := truncate x
  let micros := Binary64.roundHalfEven (Binary64.round ((x - whole) * 1000000))
  Int.fdiv (whole * 1000000 + micros) (1000000)

end Timestamp

/-! ### Entries -/

/-- A regular file. -/
structure FileData where
  /-- The bytes it holds. -/
  content : Bytes
  /-- The time of its last modification, in nanoseconds since the start of 1970. -/
  modified : Int
  deriving DecidableEq

/-- What stands at a place. -/
inductive Entry where
  /-- A regular file. -/
  | file (data : FileData)
  /-- A directory; its entries are those whose places are one name longer. -/
  | directory
  /-- A symbolic link to the path that its text gives. -/
  | link (target : Text)
  deriving DecidableEq

/-- Entries by place, no place twice, in the order in which they were made. -/
structure FileTree where
  /-- The entries, the newest last. -/
  entries : List (Path × Entry)
  /-- The directory that relative paths start from. -/
  workingDirectory : Path
  /-- No place has two entries. -/
  nodup : (entries.map Prod.fst).Nodup

namespace FileTree

/-- The tree without entries. -/
def empty (workingDirectory : Path) : FileTree :=
  ⟨[], workingDirectory, List.nodup_nil⟩

/-- The entry at a place. -/
def get? (t : FileTree) (p : Path) : Option Entry :=
  if p.isEmpty then some .directory else t.entries.lookup p

/-- Is there a directory at a place? -/
def isDirectory (t : FileTree) (p : Path) : Bool :=
  t.get? p = some .directory

/-- The target of the link at a place. -/
def linkTarget? (t : FileTree) (p : Path) : Option Text :=
  match t.get? p with
  | some (.link target) => some target
  | _ => none

/-- The places of the links, in the order in which they were made. -/
def links (t : FileTree) : List Path :=
  t.entries.filterMap fun (p, e) ↦ match e with
    | .link _ => some p
    | _ => none

/-- The number of links. -/
def linkCount (t : FileTree) : Nat :=
  t.links.length

/-- The names of the entries of a directory, in the order in which they were made. -/
def names (t : FileTree) (directory : Path) : List Text :=
  t.entries.filterMap fun (p, _) ↦ if p.dropLast = directory then p.getLast? else none

/-- The tree with only the entries at some places. -/
def keepWhere (t : FileTree) (keep : Path → Bool) : FileTree :=
  ⟨t.entries.filter fun (p, _) ↦ keep p, t.workingDirectory,
    t.nodup.sublist (List.filter_sublist.map Prod.fst)⟩

/-- The tree with an entry put at a place, in the place of what was there. -/
def set (t : FileTree) (p : Path) (e : Entry) : FileTree :=
  ⟨(t.entries.filter fun (q, _) ↦ q ≠ p) ++ [(p, e)], t.workingDirectory, by
    rw [List.map_append, List.nodup_append]
    refine ⟨t.nodup.sublist (List.filter_sublist.map Prod.fst), by simp, fun a ha b hb ↦ ?_⟩
    obtain ⟨⟨q, e'⟩, hq, rfl⟩ := List.mem_map.1 ha
    rw [List.map_cons, List.map_nil, List.mem_singleton] at hb
    subst hb
    simpa using (List.mem_filter.1 hq).2⟩

/-! ### What stands where -/

@[simp] theorem get?_nil (t : FileTree) : t.get? [] = some .directory :=
  rfl

/-- What is found at a place below the root is an entry of the tree. -/
theorem mem_entries_of_get? {t : FileTree} {p : Path} {e : Entry} (hp : p ≠ [])
    (h : t.get? p = some e) : (p, e) ∈ t.entries := by
  rw [get?, if_neg (by simpa using hp)] at h
  obtain ⟨front, back, hentries, -⟩ := List.lookup_eq_some_iff.1 h
  rw [hentries]
  exact List.mem_append_right front List.mem_cons_self

/-- Every entry is found at its place, since no place has two. -/
theorem get?_of_mem_entries {t : FileTree} {p : Path} {e : Entry} (hp : p ≠ [])
    (h : (p, e) ∈ t.entries) : t.get? p = some e := by
  obtain ⟨front, back, hentries⟩ := List.append_of_mem h
  rw [get?, if_neg (by simpa using hp), List.lookup_eq_some_iff]
  refine ⟨front, back, hentries, fun x hx ↦ ?_⟩
  have hnodup := t.nodup
  rw [hentries, List.map_append, List.nodup_append] at hnodup
  simpa using (hnodup.2.2 x.1 (List.mem_map_of_mem hx) p (by simp)).symm

theorem linkTarget?_eq_some_iff {t : FileTree} {p : Path} {target : Text} :
    t.linkTarget? p = some target ↔ t.get? p = some (.link target) := by
  rw [linkTarget?]
  split
  · next h => rw [h, Option.some_inj, Option.some_inj, Entry.link.injEq]
  · next h => exact iff_of_false (by simp) (h target)

theorem linkTarget?_eq_none_iff {t : FileTree} {p : Path} :
    t.linkTarget? p = none ↔ ∀ target, t.get? p ≠ some (.link target) := by
  rw [Option.eq_none_iff_forall_ne_some]
  exact forall_congr' fun target ↦ not_congr linkTarget?_eq_some_iff

theorem mem_links_of_linkTarget? {t : FileTree} {p : Path} {target : Text}
    (h : t.linkTarget? p = some target) : p ∈ t.links := by
  have hget := linkTarget?_eq_some_iff.1 h
  have hne : p ≠ [] := by
    rintro rfl
    simp at hget
  exact List.mem_filterMap.2 ⟨(p, .link target), mem_entries_of_get? hne hget, rfl⟩

/-! ### Putting an entry -/

/-- What has been put at a place is found there. -/
theorem get?_set_self {t : FileTree} {p : Path} {e : Entry} (hp : p ≠ []) :
    (t.set p e).get? p = some e := by
  have hnone : (t.entries.filter fun (q, _) ↦ q ≠ p).lookup p = none := by
    rw [List.lookup_eq_none_iff]
    intro q hq
    simpa using Ne.symm (by simpa using (List.mem_filter.1 hq).2 : q.1 ≠ p)
  rw [get?, if_neg (by simpa using hp), set, List.lookup_append, hnone, Option.none_or,
    List.lookup_cons_self]

/-- Putting an entry changes nothing at the other places. -/
theorem get?_set_of_ne {t : FileTree} {p q : Path} {e : Entry} (h : q ≠ p) :
    (t.set p e).get? q = t.get? q := by
  have hlook : ∀ l : List (Path × Entry),
      (l.filter fun (r, _) ↦ r ≠ p).lookup q = l.lookup q := by
    intro l
    induction l with
    | nil => rfl
    | cons x l ih =>
      obtain ⟨r, f⟩ := x
      by_cases hr : r = p
      · rw [List.filter_cons_of_neg (by simpa using hr), ih, List.lookup_cons]
        rw [beq_eq_false_iff_ne.2 (hr ▸ h)]
      · rw [List.filter_cons_of_pos (by simpa using hr), List.lookup_cons, List.lookup_cons, ih]
  have hone : [(p, e)].lookup q = none := by
    rw [List.lookup_cons, beq_eq_false_iff_ne.2 h]
    rfl
  rw [get?, get?, set, List.lookup_append, hlook, hone, Option.or_none]

/-- The names of a directory are those of the entries one name below it. -/
theorem mem_names_iff {t : FileTree} {directory : Path} {name : Text} :
    name ∈ t.names directory ↔ ∃ e, (directory ++ [name], e) ∈ t.entries := by
  rw [names, List.mem_filterMap]
  constructor
  · rintro ⟨⟨p, e⟩, hmem, h⟩
    rw [Option.ite_none_right_eq_some] at h
    obtain ⟨rfl, hlast⟩ := h
    obtain ⟨front, rfl⟩ := List.getLast?_eq_some_iff.1 hlast
    exact ⟨e, by rwa [List.dropLast_concat]⟩
  · rintro ⟨e, hmem⟩
    exact ⟨(directory ++ [name], e), hmem, by simp⟩

/-- The place where a text's path starts. -/
def start (t : FileTree) (text : Text) : Path :=
  if Path.isAbsolute text then [] else t.workingDirectory

/-- The place that a text leads to lexically, from the working directory. -/
def absolute (t : FileTree) (text : Text) : Path :=
  Path.normalize (t.start text ++ Path.parts text)

end FileTree

end StaticServer
