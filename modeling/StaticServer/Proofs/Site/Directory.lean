import StaticServer.Proofs.Program.Serving
import StaticServer.Proofs.Site.Listing

/-!
# Directories

A path that ends in a slash and leads to a directory inside the root is to be answered with the
directory's index page, byte for byte, and without one with a listing (`App.ShowsDirectory`).
`App.showsDirectory_iff` says when that is so.

The index page is looked up, and with nothing in its way it is sent. The listing is what is left
when two lookups end without a fault and without a file, the one of the index page and the one of
the root's page for missing files: such a page, wherever the directory is, takes the place of every
listing. And the listing itself fails when one entry cannot be marked. `App.FindsDirectory` says
what each lookup has to find, whatever paths are denied, and so it serves for requests on their way
back from a redirect, too.

The tree may have link loops. They matter only in those lookups: following the index page into a
loop is a fault, or ends at what the real path makes of it.
-/

namespace StaticServer

open Lookup

/-- The index page of a directory: a regular file inside the root. -/
structure Site.IsIndex (t : FileTree) (root d q : Path) (data : FileData) : Prop where
  /-- The name of the page leads there. -/
  leads : t.LeadsTo (d ++ [Site.indexName]) q
  /-- It is inside. -/
  inside : t.isInside root q = true
  /-- It is a regular file. -/
  stands : t.Stands q (.file data)

namespace App

variable {app : App} {t : FileTree} {r : Request} {d : Path}

/-- **Index or listing**: a directory is answered with its index page, byte for byte, or without one
with its listing. -/
structure ShowsDirectory (app : App) (t : FileTree) (r : Request) (d : Path) : Prop where
  /-- The index page, when there is one. -/
  index : ∀ q data, Site.IsIndex t app.site.root d q data →
    (app.handle t r).1.status = 200 ∧ (app.handle t r).1.body = data.content
  /-- The listing, when there is none. -/
  listing : (¬ ∃ q data, Site.IsIndex t app.site.root d q data) →
    ∃ page, Listing.render t (Path.text d) = .ok page ∧
      (app.handle t r).1 = finish r (.ok (Response.html page))

/-- What it takes to answer with a directory. -/
structure CanShowDirectory (app : App) (t : FileTree) (r : Request) (d : Path) : Prop where
  /-- The path starts with a slash. -/
  slash : r.path.head? = some '/'
  /-- It is not taken for foreign. -/
  native : isForeign (relativeParts r.path) = false
  /-- The directory can be looked at. -/
  short : t.resolve (Path.text d) = .ok d
  /-- So can the index page, when there is one, and a date can show its modification time. -/
  index : ∀ q data, Site.IsIndex t app.site.root d q data →
    t.resolve (Path.text q) = .ok q ∧ (Validator.ofFile? data).isSome = true
  /-- When there is none, the lookups that come before the listing find no file, and every entry can
  be marked. -/
  listing : (¬ ∃ q data, Site.IsIndex t app.site.root d q data) →
    FindsNoFile ⟨t, []⟩ app.site.root (relativeParts r.path ++ [Site.indexName]) ∧
    FindsNoFile ⟨t, []⟩ app.site.root [Site.missingName] ∧
    ∀ name ∈ t.names d, Listing.CanMark t (Path.text d) d name

theorem ShowsDirectory.status_eq (h : app.ShowsDirectory t r d) :
    (app.handle t r).1.status = 200 := by
  by_cases hindex : ∃ q data, Site.IsIndex t app.site.root d q data
  · obtain ⟨q, data, hindex⟩ := hindex
    exact (h.index q data hindex).1
  · obtain ⟨page, -, hresponse⟩ := h.listing hindex
    rw [hresponse, status_finish_ok]
    rfl

theorem isForeign_concat_indexName (parts : List Text) :
    isForeign (parts ++ [Site.indexName]) = isForeign parts := by
  rw [Bool.eq_iff_iff, isForeign_concat_iff]
  exact or_iff_left fun h ↦ absurd h.2 (by decide)

/-! ### The lookups of a directory -/

/-- What the lookups for a directory have to find for it to be answered with, whatever is denied. -/
structure FindsDirectory (app : App) (t : FileTree) (r : Request) (d : Path) : Prop where
  /-- The request is answered from the files. -/
  ready : app.IsReady t r
  /-- The directory is found. -/
  found : find ⟨t, r.denied⟩ app.site.root (relativeParts r.path) = .ok (some ⟨d, .directory⟩)
  /-- So is the index page, when there is one, and a date can show its modification time. -/
  index : ∀ q data, Site.IsIndex t app.site.root d q data →
    find ⟨t, r.denied⟩ app.site.root (relativeParts r.path ++ [Site.indexName]) =
      .ok (some ⟨q, .file data⟩) ∧ (Validator.ofFile? data).isSome = true
  /-- When there is none, the lookups that come before the listing find no file, and every entry can
  be marked. -/
  listing : (¬ ∃ q data, Site.IsIndex t app.site.root d q data) →
    FindsNoFile ⟨t, r.denied⟩ app.site.root (relativeParts r.path ++ [Site.indexName]) ∧
    FindsNoFile ⟨t, r.denied⟩ app.site.root [Site.missingName] ∧
    ∀ name ∈ t.names d, Listing.CanMark t (Path.text d) d name

/-- A directory that was found is answered by way of its index page. -/
theorem handle_of_index {c : Site.Choice} (hready : app.IsReady t r)
    (hfind : find ⟨t, r.denied⟩ app.site.root (relativeParts r.path) =
      .ok (some ⟨d, .directory⟩))
    (hindex : app.site.index ⟨t, r.denied⟩ (relativeParts r.path) r = .ok c) :
    (app.handle t r).1 = finish r (app.site.present t r c) := by
  rw [handle_of_isReady hready,
    Site.answer_of_choose ((Site.choose_of_directory hfind).trans hindex)]

/-- If the choice of an index page fails, so does the request. -/
theorem status_of_index_failed (hready : app.IsReady t r)
    (hfind : find ⟨t, r.denied⟩ app.site.root (relativeParts r.path) =
      .ok (some ⟨d, .directory⟩))
    (hindex : app.site.index ⟨t, r.denied⟩ (relativeParts r.path) r = .error .failed) :
    (app.handle t r).1.status = 500 := by
  rw [handle_of_isReady hready,
    Site.answer_of_choose_error ((Site.choose_of_directory hfind).trans hindex),
    status_finish_failed]

/-- Where the name of the index page leads from the directory, it leads from the root. -/
theorem leadsTo_index {q : Path} {data : FileData}
    (hleads : t.LeadsTo (app.site.root ++ relativeParts r.path) d)
    (hindex : Site.IsIndex t app.site.root d q data) :
    t.LeadsTo (app.site.root ++ (relativeParts r.path ++ [Site.indexName])) q := by
  rw [← List.append_assoc, hleads.append_iff]
  exact hindex.leads

/-! ### Showing a directory -/

/-- With nothing in the way a directory is answered with its index page or with its listing. -/
theorem FindsDirectory.shows (h : app.FindsDirectory t r d) (hget : r.verb = "GET")
    (hplain : r.IsPlain) (hslash : Site.endsInSlash r.path = true)
    (hleads : t.LeadsTo (app.site.root ++ relativeParts r.path) d) :
    app.ShowsDirectory t r d := by
  obtain ⟨-, -, -, hdir, hshort⟩ := stands_of_find hleads h.found
  have hanswer {c : Site.Choice}
      (hc : app.site.index ⟨t, r.denied⟩ (relativeParts r.path) r = .ok c) :=
    handle_of_index h.ready h.found hc
  constructor
  · intro q data hindex
    obtain ⟨hpage, hdated⟩ := h.index q data hindex
    obtain ⟨f, hcontent, hsend⟩ := Site.sendFile_of_isSome q hdated
    have hresponse := hanswer (Site.index_of_file hslash hpage)
    simp only [Site.present, hsend, f.respond_of_isPlain app.site.boundary hplain] at hresponse
    rw [hresponse, status_finish_ok, body_finish_whole hget]
    exact ⟨rfl, hcontent⟩
  · intro hno
    obtain ⟨hindex, hmissing, hmarks⟩ := h.listing hno
    obtain ⟨page, hpage⟩ := (Listing.exists_render_iff hshort hdir.isDirectory).2 hmarks
    have hresponse := hanswer ((Site.index_of_findsNoFile hindex).trans
      ((Site.orMissingPage_of_findsNoFile hmissing).trans
        (Site.orListing_of_directory hslash h.found)))
    simp only [Site.present, Site.list, hpage] at hresponse
    exact ⟨page, hpage, hresponse⟩

/-! ### What a directory that is shown tells -/

/-- Status 200 needs the lookup of the path to find what stands where it leads. -/
theorem find_of_status (hleads : t.LeadsTo (app.site.root ++ relativeParts r.path) d)
    (hdir : t.Stands d .directory) (hstatus : (app.handle t r).1.status = 200) :
    find ⟨t, r.denied⟩ app.site.root (relativeParts r.path) = .ok (some ⟨d, .directory⟩) := by
  rw [handle_of_isReady (isReady_of_status hstatus)] at hstatus
  rcases find_denied_or ⟨t, r.denied⟩ app.site.root (relativeParts r.path) with hdenied | hsame
  · have hrefused : app.site.choose ⟨t, r.denied⟩ r = .error .unauthorized := by
      simp only [Site.choose, hdenied]
    rw [Site.answer_of_choose_error hrefused, status_finish_unauthorized] at hstatus
    cases hstatus
  rcases find_cases hleads with
    ⟨e, -, -, hstands, -, hfound⟩ | ⟨-, hnone⟩ | ⟨-, -, -, hlong⟩
  · obtain rfl := hdir.unique hstands
    exact hsame.trans hfound
  · exact absurd hstatus (status_ne_of_absent (hsame.trans hnone) (by simp))
  · rw [status_of_fault (hsame.trans hlong) (by decide)] at hstatus
    cases hstatus

section

variable (hslash : Site.endsInSlash r.path = true)
  (hfind : find ⟨t, r.denied⟩ app.site.root (relativeParts r.path) = .ok (some ⟨d, .directory⟩))
  (hstatus : (app.handle t r).1.status = 200)

include hfind hstatus

/-- So with status 200 that choice has not failed. -/
theorem index_ne_failed :
    app.site.index ⟨t, r.denied⟩ (relativeParts r.path) r ≠ .error .failed := by
  intro hindex
  rw [status_of_index_failed (isReady_of_status hstatus) hfind hindex] at hstatus
  exact absurd hstatus (by decide)

include hslash

/-- An index page that was sent has a modification time that a date can show. -/
theorem isSome_of_index {q : Path} {data : FileData}
    (hpage : find ⟨t, r.denied⟩ app.site.root (relativeParts r.path ++ [Site.indexName]) =
      .ok (some ⟨q, .file data⟩)) : (Validator.ofFile? data).isSome = true := by
  by_contra hdated
  have hresponse := handle_of_index (isReady_of_status hstatus) hfind
    (Site.index_of_file hslash hpage)
  rw [Site.present, Site.sendFile_of_isNone (by simpa using hdated)] at hresponse
  rw [hresponse, status_finish_failed] at hstatus
  exact absurd hstatus (by decide)

/-- A listing is sent only when the lookup of the index page finds no file. -/
theorem findsNoFile_index (hplain : r.IsPlain) {page : Text}
    (hresponse : (app.handle t r).1 = finish r (.ok (Response.html page))) :
    FindsNoFile ⟨t, r.denied⟩ app.site.root (relativeParts r.path ++ [Site.indexName]) := by
  rcases findsNoFile_cases ⟨t, r.denied⟩ app.site.root (relativeParts r.path ++ [Site.indexName])
    with ⟨f, hf⟩ | ⟨q, data, hfile⟩ | hnone
  · exact absurd (Site.index_of_fault hf) (index_ne_failed hfind hstatus)
  · -- the page would have been sent as a file, which its headers tell from a listing
    have hother := handle_of_index (isReady_of_status hstatus) hfind
      (Site.index_of_file hslash hfile)
    obtain ⟨f, -, hsend⟩ :=
      Site.sendFile_of_isSome q (isSome_of_index hslash hfind hstatus hfile)
    rw [Site.present, hresponse, hsend, f.respond_of_isPlain app.site.boundary hplain] at hother
    exact absurd hother.symm (finish_whole_ne_html f 200 page)
  · exact hnone

omit hslash

/-- When the lookup of the index page finds no file, status 200 needs the lookup of the page for
missing files to find none. -/
theorem findsNoFile_missingPage
    (hindex : FindsNoFile ⟨t, r.denied⟩ app.site.root
      (relativeParts r.path ++ [Site.indexName])) :
    FindsNoFile ⟨t, r.denied⟩ app.site.root [Site.missingName] := by
  have hsame : app.site.index ⟨t, r.denied⟩ (relativeParts r.path) r =
      app.site.orMissingPage ⟨t, r.denied⟩ (relativeParts r.path) r :=
    Site.index_of_findsNoFile hindex
  rcases findsNoFile_cases ⟨t, r.denied⟩ app.site.root [Site.missingName] with
    ⟨f, hf⟩ | ⟨q, data, hfile⟩ | hnone
  · exact absurd (hsame.trans (Site.orMissingPage_of_fault hf)) (index_ne_failed hfind hstatus)
  · have hother := handle_of_index (isReady_of_status hstatus) hfind
      (hsame.trans (Site.orMissingPage_of_file hfile))
    rw [Site.present] at hother
    rw [hother] at hstatus
    exact absurd hstatus (status_finish_missingPage q data)
  · exact hnone

end

/-- Nothing stands in the way of a directory that is answered with its index page or its listing. -/
theorem ShowsDirectory.finds (h : app.ShowsDirectory t r d) (hplain : r.IsPlain)
    (hslash : Site.endsInSlash r.path = true)
    (hleads : t.LeadsTo (app.site.root ++ relativeParts r.path) d) (hdir : t.Stands d .directory) :
    app.FindsDirectory t r d := by
  have hstatus := h.status_eq
  have hfind := find_of_status hleads hdir hstatus
  obtain ⟨-, hnative, -, -, hshort⟩ := stands_of_find hleads hfind
  refine ⟨isReady_of_status hstatus, hfind, fun q data hindex ↦ ?_, fun hno ↦ ?_⟩
  · have hlookup := find_or_fault (v := ⟨t, r.denied⟩)
      ((isForeign_concat_indexName _).trans hnative) (leadsTo_index hleads hindex) hindex.inside
      hindex.stands
    rcases hlookup with hpage | ⟨f, hf⟩
    · exact ⟨hpage, isSome_of_index hslash hfind hstatus hpage⟩
    · exact absurd (Site.index_of_fault hf) (index_ne_failed hfind hstatus)
  · obtain ⟨page, hpage, hresponse⟩ := h.listing hno
    have hindex := findsNoFile_index hslash hfind hstatus hplain hresponse
    exact ⟨hindex, findsNoFile_missingPage hfind hstatus hindex,
      (Listing.exists_render_iff hshort hdir.isDirectory).1 ⟨page, hpage⟩⟩

/-! ### With nothing denied -/

/-- With nothing denied the lookups find what they have to when there is nothing in the way. -/
theorem CanShowDirectory.finds (h : app.CanShowDirectory t r d) (hserves : app.Serves t r)
    (hleads : t.LeadsTo (app.site.root ++ relativeParts r.path) d) (hdir : t.Stands d .directory)
    (hinside : t.isInside app.site.root d = true) : app.FindsDirectory t r d := by
  refine ⟨hserves.isReady h.slash, ?_, fun q data hindex ↦ ?_, ?_⟩
  · rw [hserves.denied]
    exact find_of_stands h.native hleads hinside hdir h.short
  · obtain ⟨hresolve, hdated⟩ := h.index q data hindex
    rw [hserves.denied]
    exact ⟨find_of_stands ((isForeign_concat_indexName _).trans h.native)
      (leadsTo_index hleads hindex) hindex.inside hindex.stands hresolve, hdated⟩
  · rw [hserves.denied]
    exact h.listing

/-- Where nothing stands in the way, a directory is shown, -/
theorem CanShowDirectory.shows (h : app.CanShowDirectory t r d) (hserves : app.Serves t r)
    (hget : r.verb = "GET") (hplain : r.IsPlain) (hslash : Site.endsInSlash r.path = true)
    (hleads : t.LeadsTo (app.site.root ++ relativeParts r.path) d) (hdir : t.Stands d .directory)
    (hinside : t.isInside app.site.root d = true) : app.ShowsDirectory t r d :=
  (h.finds hserves hleads hdir hinside).shows hget hplain hslash hleads

/-- What the lookups have found with nothing denied can be looked at. -/
theorem FindsDirectory.canShow (h : app.FindsDirectory t r d) (hserves : app.Serves t r)
    (hleads : t.LeadsTo (app.site.root ++ relativeParts r.path) d) :
    app.CanShowDirectory t r d := by
  obtain ⟨-, hnative, -, -, hshort⟩ := stands_of_find hleads h.found
  refine ⟨head?_of_isRoutable h.ready.1, hnative, hshort, fun q data hindex ↦ ?_, ?_⟩
  · obtain ⟨hpage, hdated⟩ := h.index q data hindex
    obtain ⟨-, -, -, -, hresolve⟩ := stands_of_find (leadsTo_index hleads hindex) hpage
    exact ⟨hresolve, hdated⟩
  · have hlisting := h.listing
    rwa [hserves.denied] at hlisting

/-- and where it is shown, nothing has stood in the way. -/
theorem ShowsDirectory.canShow (h : app.ShowsDirectory t r d) (hserves : app.Serves t r)
    (hplain : r.IsPlain) (hslash : Site.endsInSlash r.path = true)
    (hleads : t.LeadsTo (app.site.root ++ relativeParts r.path) d) (hdir : t.Stands d .directory) :
    app.CanShowDirectory t r d :=
  (h.finds hplain hslash hleads hdir).canShow hserves hleads

/-! ### The condition for a directory -/

/-- **When a directory is answered with its index page or its listing.** -/
theorem showsDirectory_iff (hserves : app.Serves t r) (hget : r.verb = "GET") (hplain : r.IsPlain)
    (hslash : Site.endsInSlash r.path = true)
    (hleads : t.LeadsTo (app.site.root ++ relativeParts r.path) d) (hdir : t.Stands d .directory)
    (hinside : t.isInside app.site.root d = true) :
    app.ShowsDirectory t r d ↔ app.CanShowDirectory t r d :=
  ⟨fun h ↦ h.canShow hserves hplain hslash hleads hdir,
    fun h ↦ h.shows hserves hget hplain hslash hleads hdir hinside⟩

/-- A directory with a file, a link that leads nowhere and one that leads out, beside a loop. -/
def packageTree : FileTree :=
  ⟨[(["site"], .directory), (["site", "pkg"], .directory),
    (["site", "pkg", "a.txt"], .file ⟨[], 0⟩), (["site", "pkg", "gone"], .link "nowhere"),
    (["site", "pkg", "out"], .link "../.."), (["site", "loop"], .link "loop")], [], by decide⟩

/-- The case of a directory without an index page. -/
theorem showsDirectory_packageTree :
    siteApp.ShowsDirectory packageTree ⟨"GET", "/pkg/", [], []⟩ ["site", "pkg"] := by
  have hserves : siteApp.Serves packageTree ⟨"GET", "/pkg/", [], []⟩ :=
    ⟨siteApp_reached, by decide +kernel, rfl, by decide +kernel⟩
  have hleads : packageTree.LeadsTo (siteApp.site.root ++
      relativeParts (Request.path ⟨"GET", "/pkg/", [], []⟩)) ["site", "pkg"] :=
    (FileTree.destination?_eq_some_iff (by decide +kernel)).1 (by decide +kernel)
  refine (showsDirectory_iff hserves (by decide) ⟨rfl, rfl, rfl⟩ (by decide +kernel) hleads
    (by decide +kernel) (by decide +kernel)).2 ?_
  refine ⟨by decide +kernel, by decide +kernel, by decide +kernel, ?_, ?_⟩
  · intro q data hindex
    have hreal : packageTree.realPath ["site", "pkg", "index.html"] =
      .ok ["site", "pkg", "index.html"] := by decide +kernel
    obtain rfl := hindex.leads.eq_of_realPath hreal
    have hnot : ¬ packageTree.Stands ["site", "pkg", "index.html"] (.file data) := by
      intro hstands
      have hnone : packageTree.get? ["site", "pkg", "index.html"] = none := by decide
      cases hnone.symm.trans hstands.entry
    exact absurd hindex.stands hnot
  · intro _
    exact ⟨⟨none, by decide +kernel, by simp⟩, ⟨none, by decide +kernel, by simp⟩,
      by decide +kernel⟩

/-- A directory with a file, and a page for missing files in the root. -/
def pageTree : FileTree :=
  ⟨[(["site"], .directory), (["site", "404.html"], .file ⟨[], 0⟩), (["site", "pkg"], .directory),
    (["site", "pkg", "a.txt"], .file ⟨[], 0⟩)], [], by decide⟩

/-- A directory with a file and a link to itself. -/
def entryTree : FileTree :=
  ⟨[(["site"], .directory), (["site", "pkg"], .directory),
    (["site", "pkg", "a.txt"], .file ⟨[], 0⟩), (["site", "pkg", "loop"], .link "loop")], [],
    by decide⟩

/-- A request for a directory inside the root that is answered with neither its index page nor its
listing. -/
structure LosesDirectory (app : App) (t : FileTree) (r : Request) (d : Path) : Prop where
  /-- The application serves, and nothing is denied. -/
  serves : app.Serves t r
  /-- The method is `GET`. -/
  get : r.verb = "GET"
  /-- There is no range and no condition. -/
  plain : r.IsPlain
  /-- The path ends in a slash. -/
  slash : Site.endsInSlash r.path = true
  /-- It leads to the place. -/
  leads : t.LeadsTo (app.site.root ++ relativeParts r.path) d
  /-- There is a directory. -/
  stands : t.Stands d .directory
  /-- It is inside. -/
  inside : t.isInside app.site.root d = true
  /-- It is not shown. -/
  lost : ¬ app.ShowsDirectory t r d

/-- **A directory can be without its listing**, because of a page for missing files elsewhere or
because of one entry. -/
theorem losesDirectory_pageTree_entryTree :
    siteApp.LosesDirectory pageTree ⟨"GET", "/pkg/", [], []⟩ ["site", "pkg"] ∧
      siteApp.LosesDirectory entryTree ⟨"GET", "/pkg/", [], []⟩ ["site", "pkg"] := by
  constructor
  all_goals
    refine ⟨⟨siteApp_reached, by decide +kernel, rfl, by decide +kernel⟩, by decide,
      ⟨rfl, rfl, rfl⟩, by decide +kernel,
      (FileTree.destination?_eq_some_iff (by decide +kernel)).1 (by decide +kernel),
      by decide +kernel, by decide +kernel, fun h ↦ ?_⟩
    have hstatus := h.status_eq
    revert hstatus
    decide +kernel

end App

end StaticServer
