import StaticServer.FileTree.Edit

/-!
# What changes of a tree leave as it is

Whatever is put into a tree and whatever is removed, relative paths go on starting from the same
directory. A change is made in several steps, each of which may fail, so this is said of the outcome
of a change (`FileTree.StartsFrom`) and carried from step to step.
-/

namespace StaticServer.FileTree

variable {t : FileTree} {d : Path} {ε : Type}

/-- Relative paths start from a directory in the tree that a change results in, if it succeeds. -/
def StartsFrom (d : Path) (x : Except ε FileTree) : Prop :=
  ∀ u, x = .ok u → u.workingDirectory = d

theorem startsFrom_error (e : ε) : StartsFrom d (.error e) :=
  fun _ h ↦ nomatch h

theorem startsFrom_ok (h : t.workingDirectory = d) : StartsFrom d (.ok t : Except ε FileTree) := by
  intro u hu
  rw [← Except.ok.inj hu]
  exact h

/-- The working directory stays along changes one after another. -/
theorem StartsFrom.bind {x : Except ε FileTree} {f : FileTree → Except ε FileTree}
    (hx : StartsFrom d x) (hf : ∀ u : FileTree, u.workingDirectory = d → StartsFrom d (f u)) :
    StartsFrom d (x >>= f) := by
  rcases x with e | u
  · exact startsFrom_error e
  · exact hf u (hx u rfl)

/-! ### Directories -/

theorem startsFrom_makeDirectory (h : t.workingDirectory = d) (text : Text) :
    StartsFrom d (t.makeDirectory text) := by
  rw [makeDirectory]
  rcases t.newPlace (Path.dropSlashes text) with f | p
  · exact startsFrom_error f
  · exact startsFrom_ok h

/-- The directory itself, which may be there, in a tree with the directories on the way to it. -/
theorem startsFrom_last (h : t.workingDirectory = d) (text : Text) (kept : Bool)
    (e : EditFault → EditError) : StartsFrom d (match t.makeDirectory text with
      | .ok v => .ok v
      | .error f => if kept = true then .ok t else .error (e f)) := by
  split
  · next v hv => exact startsFrom_ok (startsFrom_makeDirectory h text v hv)
  · split
    · exact startsFrom_ok h
    · exact startsFrom_error _

/-- It stays when a directory is made with those on the way to it. -/
theorem startsFrom_makeDirectories (h : t.workingDirectory = d) (depth : Nat) (text : Text) :
    StartsFrom d (t.makeDirectories depth text) := by
  induction depth generalizing text with
  | zero => exact startsFrom_error _
  | succ depth ih =>
    have hway : StartsFrom d (if ((Path.splitLast (Path.dropSlashes text)).1.isEmpty ||
        (t.resolve (Path.splitLast (Path.dropSlashes text)).1).isOk) = true then .ok t
        else t.makeDirectories depth (Path.splitLast (Path.dropSlashes text)).1) := by
      split
      · exact startsFrom_ok h
      · exact ih _
    simp only [makeDirectories, bind, Except.bind]
    split
    · split
      · exact startsFrom_last h text _ _
      · exact startsFrom_error _
    · next u hu => exact startsFrom_last (hway u hu) text _ _

theorem startsFrom_makeParent (h : t.workingDirectory = d) (text : Text) :
    StartsFrom d (t.makeParent text) := by
  rw [makeParent]
  split
  · exact startsFrom_ok h
  · exact startsFrom_makeDirectories h _ _

/-! ### Entries -/

theorem startsFrom_putDirectory (h : t.workingDirectory = d) (text : Text) :
    StartsFrom d (t.putDirectory text) :=
  startsFrom_makeDirectories h _ text

theorem startsFrom_putFile (h : t.workingDirectory = d) (text : Text) (data : FileData) :
    StartsFrom d (t.putFile text data) := by
  refine (startsFrom_makeParent h text).bind fun u hu ↦ ?_
  dsimp only
  split
  · exact startsFrom_error _
  · exact startsFrom_ok hu

theorem startsFrom_putLink (h : t.workingDirectory = d) (text target : Text) :
    StartsFrom d (t.putLink text target) := by
  refine (startsFrom_makeParent h text).bind fun u hu ↦ ?_
  dsimp only
  split
  · exact startsFrom_error _
  · exact startsFrom_ok hu

theorem workingDirectory_remove (t : FileTree) (text : Text) :
    (t.remove text).workingDirectory = t.workingDirectory := by
  rw [remove]
  split
  · rfl
  · rfl

end StaticServer.FileTree
