import StaticServer.Site.Listing

/-!
# When a directory can be listed

A directory has a listing exactly when each of its entries can be marked (`exists_render_iff`), and
an entry can be marked unless it is a link that cannot be followed for another reason than that it
leads nowhere (`exists_mark_iff`). One such link is enough to leave the whole directory without a
listing.
-/

namespace StaticServer.Listing

variable {t : FileTree} {directory name : Text} {place : Path}

/-- An entry can be marked: it is no link, or following it ends somewhere or nowhere. -/
def CanMark (t : FileTree) (directory : Text) (place : Path) (name : Text) : Prop :=
  ∀ target, t.get? (place ++ [name]) = some (.link target) →
    ∀ f, t.resolve (Path.joinText directory name) = .error f → f = .missing

/-- A name is marked exactly if it can be looked at. -/
theorem exists_mark_iff :
    (∃ marked, mark t directory place name = .ok marked) ↔ CanMark t directory place name := by
  rw [mark, CanMark]
  rcases t.get? (place ++ [name]) with - | e
  · simp
  · cases e with
    | file data => simp
    | directory => simp
    | link target =>
      simp only [Option.some.injEq, Entry.link.injEq, forall_eq']
      rcases t.resolve (Path.joinText directory name) with f | p
      · cases f <;> simp
      · simp

instance : Decidable (CanMark t directory place name) :=
  decidable_of_iff ((mark t directory place name).isOk = true) (by
    rw [← exists_mark_iff]
    rcases mark t directory place name with f | marked <;> simp [Except.isOk, Except.toBool])

theorem exists_mapM_iff {α β ε : Type} {f : α → Except ε β} {l : List α} :
    (∃ ys, l.mapM f = .ok ys) ↔ ∀ x ∈ l, ∃ y, f x = .ok y := by
  induction l with
  | nil => simp [pure, Except.pure]
  | cons x l ih =>
    rw [List.forall_mem_cons, ← ih, List.mapM_cons]
    rcases f x with e | y
    · simp [bind, Except.bind]
    · rcases l.mapM f with e | ys <;> simp [bind, Except.bind, pure, Except.pure]

/-- **A directory has a listing exactly when each of its entries can be marked.** -/
theorem exists_render_iff (hresolve : t.resolve directory = .ok place)
    (hdir : t.isDirectory place = true) :
    (∃ page, render t directory = .ok page) ↔
      ∀ name ∈ t.names place, CanMark t directory place name := by
  have hmarks : (∃ page, render t directory = .ok page) ↔
      ∃ marked, (t.names place).mapM (mark t directory place) = .ok marked := by
    simp only [render, markedNames, hresolve, hdir, if_true, markedNamesAt, bind, Except.bind]
    rcases (t.names place).mapM (mark t directory place) with e | marked <;> simp [Except.map]
  rw [hmarks, exists_mapM_iff]
  exact forall₂_congr fun name _ ↦ exists_mark_iff

end StaticServer.Listing
