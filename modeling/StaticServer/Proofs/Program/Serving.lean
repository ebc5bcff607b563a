import StaticServer.Proofs.Program.Reached
import StaticServer.Proofs.Site.App

/-!
# Applications that serve

What the rules for files are about is an application in use whose root is a directory, asked for one
line with nothing denied (`App.Serves`). When the path starts with a slash the request is answered
from the files (`App.Serves.handle_eq`); any other path is sent on or not found, so a response with
status 200 is always one from the files (`App.head?_eq_of_status`).
-/

namespace StaticServer

namespace App

/-- An application in use serves a directory that is there, and a request is one line for which
nothing is denied. -/
structure Serves (app : App) (t : FileTree) (r : Request) : Prop where
  /-- The application is in use. -/
  reached : app.Reached
  /-- The root is a directory. -/
  root : t.leadsToDirectory (Path.text app.site.root) = true
  /-- Nothing is denied. -/
  denied : r.denied = []
  /-- The path is one line. -/
  line : '\n' ∉ r.path

/-- A path that starts with a slash and stands on one line has a route. -/
theorem isRoutable_of_head? {path : Text} (hslash : path.head? = some '/') (hline : '\n' ∉ path) :
    isRoutable path = true := by
  obtain ⟨rest, rfl⟩ := List.head?_eq_some_iff.1 hslash
  have hrest : '\n' ∉ rest.dropLast :=
    fun hmem ↦ hline (List.mem_cons_of_mem '/' (List.dropLast_subset rest hmem))
  exact isRoutable_iff.2 ⟨rest, rfl, hrest⟩

variable {app : App} {t : FileTree} {r : Request}

/-- An application that serves is ready for the request. -/
theorem Serves.isReady (h : app.Serves t r) (hslash : r.path.head? = some '/') :
    app.IsReady t r := by
  refine ⟨isRoutable_of_head? hslash h.line, ?_⟩
  rw [Bool.or_eq_true, rootIsThere, h.denied, h.root]
  exact .inr rfl

/-- So what it answers is what the site answers, with the headers put on. -/
theorem Serves.handle_eq (h : app.Serves t r) (hslash : r.path.head? = some '/') :
    (app.handle t r).1 = finish r (app.site.answer t r) := by
  rw [handle_of_isReady (h.isReady hslash)]

/-- A path that cannot be served is sent on or not found. -/
theorem status_reroute (r : Request) : (reroute r).status = 307 ∨ (reroute r).status = 404 := by
  rw [reroute]
  split
  · exact .inl rfl
  · exact .inr rfl

/-- **Status 200 comes from the files.** -/
theorem isReady_of_status (h : (app.handle t r).1.status = 200) : app.IsReady t r := by
  rcases app.isReady_or t r with hready | ⟨hpath, hroot⟩ | hpath
  · exact hready
  · rw [handle_of_rootMissing hpath hroot, status_deliver] at h
    cases h
  · -- any other path is sent on to one with a slash, or it is not found
    rw [handle_of_not_isRoutable hpath, status_deliver, DevHeaders.status_put] at h
    have hreroute := status_reroute r
    omega

/-- Only paths that start with a slash get status 200. -/
theorem head?_eq_of_status (h : (app.handle t r).1.status = 200) : r.path.head? = some '/' :=
  head?_of_isRoutable (isReady_of_status h).1

/-! ### Status 200 -/

/-- The page for missing files is not sent with status 200. -/
theorem status_finish_missingPage (place : Path) (data : FileData) :
    (finish r (Site.sendFile place data (·.whole 404 r))).status ≠ 200 := by
  rcases status_finish_sendFile place data (·.whole 404 r) (r := r) with hstatus | ⟨f, hstatus⟩
  · omega
  · rw [hstatus]
    show 404 ≠ 200
    decide

/-- When the page for missing files is looked for and there is nothing to be listed, the status is
not 200. -/
theorem status_ne_of_missing {parts : List Text}
    (hchoose : app.site.choose ⟨t, r.denied⟩ r = app.site.orMissingPage ⟨t, r.denied⟩ parts r)
    (hlisting : app.site.orListing ⟨t, r.denied⟩ parts r = .error .notFound) :
    (finish r (app.site.answer t r)).status ≠ 200 := by
  rcases Lookup.findsNoFile_cases ⟨t, r.denied⟩ app.site.root [Site.missingName] with
    ⟨f, hpage⟩ | ⟨place, data, hpage⟩ | hpage
  · have hfailed := hchoose.trans (Site.orMissingPage_of_fault hpage)
    rw [Site.answer_of_choose_error hfailed, status_finish_failed]
    decide
  · have hsend := Site.answer_of_choose (hchoose.trans (Site.orMissingPage_of_file hpage))
    rw [hsend]
    exact status_finish_missingPage place data
  · have hnone := hchoose.trans ((Site.orMissingPage_of_findsNoFile hpage).trans hlisting)
    rw [Site.answer_of_choose_error hnone, status_finish_notFound]
    decide

/-- A path by which nothing is found that is served does not get status 200. -/
theorem status_ne_of_absent {o : Option Lookup.Found}
    (hfind : Lookup.find ⟨t, r.denied⟩ app.site.root (Lookup.relativeParts r.path) = .ok o)
    (ho : ∀ found ∈ o, ∃ target, found.entry = .link target) :
    (finish r (app.site.answer t r)).status ≠ 200 :=
  status_ne_of_missing (Site.choose_of_absent hfind ho) (Site.orListing_of_absent hfind ho)

/-- A path that cannot be looked up fails. -/
theorem status_of_fault {f : Fault}
    (hfind : Lookup.find ⟨t, r.denied⟩ app.site.root (Lookup.relativeParts r.path) = .error f)
    (hf : f ≠ .denied) : (finish r (app.site.answer t r)).status = 500 := by
  rw [Site.answer_of_choose_error (Site.choose_of_fault hfind hf), status_finish_failed]

/-- **Status 200 is for what was found**: an entry stands where the path leads, inside the root. -/
theorem exists_stands_of_status {q : Path} (hserves : app.Serves t r)
    (hleads : t.LeadsTo (app.site.root ++ Lookup.relativeParts r.path) q)
    (hstatus : (app.handle t r).1.status = 200) :
    ∃ e, Lookup.isForeign (Lookup.relativeParts r.path) = false ∧
      t.isInside app.site.root q = true ∧ t.Stands q e ∧ t.resolve (Path.text q) = .ok q ∧
      Lookup.find ⟨t, []⟩ app.site.root (Lookup.relativeParts r.path) = .ok (some ⟨q, e⟩) := by
  rw [hserves.handle_eq (head?_eq_of_status hstatus)] at hstatus
  rcases Lookup.find_cases hleads with hfound | ⟨-, hfind⟩ | ⟨-, -, -, hfind⟩
  · exact hfound
  · rw [← hserves.denied] at hfind
    exact absurd hstatus (status_ne_of_absent hfind (by simp))
  · rw [← hserves.denied] at hfind
    rw [status_of_fault hfind (by decide)] at hstatus
    exact absurd hstatus (by decide)

/-! ### A site -/

/-- A tree with nothing but a directory. -/
def siteTree : FileTree :=
  ⟨[(["site"], .directory)], [], by decide⟩

/-- The application for that directory, just created. -/
def siteApp : App :=
  ⟨Settings.defaultProjectName, Settings.defaultVersion, ⟨["site"], []⟩, false⟩

/-- The same application with a boundary as it may be drawn. -/
def boundaryApp : App :=
  { siteApp with site := ⟨["site"], List.replicate 26 '0'⟩ }

theorem siteApp_reached : siteApp.Reached := by
  have hcreate : App.create ⟨[], []⟩ siteTree { directory := some "site" } = .ok siteApp := rfl
  exact .created (by decide) hcreate

theorem serves_siteTree {r : Request} (hdenied : r.denied = []) (hline : '\n' ∉ r.path) :
    siteApp.Serves siteTree r :=
  ⟨siteApp_reached, by decide +kernel, hdenied, hline⟩

end App

end StaticServer
