import StaticServer.Proofs.FileTree.Settled
import StaticServer.Program.Create

/-!
# Applications in use

An application comes from settings, for a directory of a tree, and is then asked one request after
another while the tree changes in any way (`App.Reached`). All that it has of its past is its root,
which is a list of names (`App.Reached.isPlain`), and whether that root has been found.
-/

namespace StaticServer

namespace Path

/-! ### Lexical places -/

/-- What is pushed onto a path is neither a part that stays nor one that goes up. -/
theorem mem_foldl_push {ps : List Text} {acc : Path} {part : Text} (h : part ∈ ps.foldl push acc) :
    part ∈ acc ∨ part ∈ ps ∧ isStay part = false ∧ part ≠ up := by
  induction ps generalizing acc with
  | nil => exact .inl h
  | cons next rest ih =>
    rcases ih h with hacc | ⟨hrest, hpart⟩
    · rw [push] at hacc
      split at hacc
      · exact .inl hacc
      · next hstay =>
        split at hacc
        · exact .inl (List.dropLast_subset acc hacc)
        · next hup =>
          rcases List.mem_append.1 hacc with hacc | hnext
          · exact .inl hacc
          · rw [List.mem_singleton.1 hnext]
            exact .inr ⟨List.mem_cons_self, by simpa using hstay, hup⟩
    · exact .inr ⟨List.mem_cons_of_mem next hrest, hpart⟩

/-- A lexical place is a list of names when no part has a slash or the character NUL in it. -/
theorem isPlain_normalize {ps : List Text} (hslash : ∀ part ∈ ps, '/' ∉ part)
    (hnul : ∀ part ∈ normalize ps, '\x00' ∉ part) : (normalize ps).IsPlain := by
  intro part hpart
  rcases mem_foldl_push hpart with hnil | ⟨hmem, hstay, hup⟩
  · exact absurd hnil List.not_mem_nil
  · exact isName_iff.2 ⟨hstay, hup, hslash part hmem, hnul part hpart⟩

theorem mem_text_of_mem {p : Path} {name : Text} {c : Char} (hname : name ∈ p) (hc : c ∈ name) :
    c ∈ text p := by
  refine List.mem_cons_of_mem '/' ?_
  induction p with
  | nil => exact absurd hname List.not_mem_nil
  | cons first p ih =>
    rcases p with - | ⟨next, p⟩
    · rw [Text.join, List.intercalate_singleton, ← List.mem_singleton.1 hname]
      exact hc
    · rw [Text.join, List.intercalate_cons_cons, List.append_assoc, List.mem_append,
        List.mem_append]
      rcases List.mem_cons.1 hname with rfl | hname
      · exact .inl hc
      · exact .inr (.inr (ih hname))

end Path

namespace FileTree

/-- A path with the character NUL in it leads nowhere. -/
theorem nul_not_mem_of_leadsToDirectory {t : FileTree} {text : Text}
    (h : t.leadsToDirectory text = true) : '\x00' ∉ text := by
  intro hmem
  rw [leadsToDirectory, resolve, if_pos (by simpa using hmem)] at h
  cases h

/-- A directory that a text leads to lexically and in fact is at a list of names. -/
theorem isPlain_absolute {t : FileTree} (hplain : t.workingDirectory.IsPlain) {text : Text}
    (h : t.leadsToDirectory (Path.text (t.absolute text)) = true) : (t.absolute text).IsPlain := by
  have hnul := nul_not_mem_of_leadsToDirectory h
  refine Path.isPlain_normalize (fun part hpart ↦ ?_) fun part hpart hmem ↦
    hnul (Path.mem_text_of_mem hpart hmem)
  rcases List.mem_append.1 hpart with hpart | hpart
  · rw [start] at hpart
    split at hpart
    · exact absurd hpart List.not_mem_nil
    · exact Path.slash_not_mem_of_isName (hplain part hpart)
  · exact Path.slash_not_mem_of_mem_parts hpart

end FileTree

namespace App

/-- An application that has come from settings and has been asked some requests, each over any
tree. -/
inductive Reached : App → Prop
  /-- It has just been created. -/
  | created {c : Circumstances} {t : FileTree} {s : Settings} {app : App}
      (hplain : t.workingDirectory.IsPlain) (h : App.create c t s = .ok app) : Reached app
  /-- It has been asked one more request. -/
  | handled {app : App} (t : FileTree) (r : Request) (h : Reached app) :
      Reached (app.handle t r).2

/-- The root of a new application is plain, if the working directory is. -/
theorem isPlain_of_create {c : Circumstances} {t : FileTree} {s : Settings} {app : App}
    (hplain : t.workingDirectory.IsPlain) (h : App.create c t s = .ok app) :
    app.site.root.IsPlain := by
  rw [App.create] at h
  rcases hdirectory : s.directory with - | directory
  · rw [hdirectory] at h
    cases h
  · simp only [hdirectory] at h
    split at h
    · next hthere =>
      cases h
      exact FileTree.isPlain_absolute hplain hthere
    · cases h

/-- **The root of an application is a list of names**, whatever it has been asked. -/
theorem Reached.isPlain {app : App} (h : app.Reached) : app.site.root.IsPlain := by
  induction h with
  | created hplain hcreate => exact isPlain_of_create hplain hcreate
  | handled t r _ ih => exact ih

end App

end StaticServer
