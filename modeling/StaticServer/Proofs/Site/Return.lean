import StaticServer.Proofs.Site.Directory
import StaticServer.Proofs.Site.Redirect

/-!
# Redirects of directories

A path without a slash at its end that leads to a directory is sent on to the one with a slash, and
that is to lead back to the directory (`App.LeadsBack`): to the same path with a slash, the same
query, and the index page or the listing.

What becomes of the path and of the query has nothing to do with the tree (`App.exists_address`).
The path is decoded when it is asked for again, though it has been decoded before and nobody has
encoded its percent signs, so it is kept only if there is no escape in it. For the directory, most
of what has to be found has been found before the redirect (`App.opensDirectory_of_slash`); what is
left is that the index page has a date, or that there is none and every entry can be marked.
`App.leadsBack_iff` puts the two together.
-/

namespace StaticServer

open Lookup

namespace App

variable {app : App} {t : FileTree} {r q : Request} {d : Path} {address : Text}

/-! ### What it means to lead back -/

/-- An address is that of the directory that a path without a slash leads to: the path is kept, with
a slash behind it, and so is the query, and whoever asks for them gets the directory. -/
structure ReturnsBy (app : App) (t : FileTree) (r : Request) (d : Path) (address : Text) :
    Prop where
  /-- The path is the same with a slash. -/
  path : (r.sentTo address).path = r.path ++ ['/']
  /-- The query is the same, written as an address writes it. -/
  query : (r.sentTo address).query = Text.Percent.encode Location.isKept r.query
  /-- A plain request for both is answered with the index page or the listing. -/
  shows : ∀ q : Request, q.verb = "GET" → q.IsPlain → q.target = (r.sentTo address).target →
    q.denied = r.denied → (app.handle t r).2.ShowsDirectory t q d

/-- **A redirect leads back to a directory** when the address that it gives does. -/
def LeadsBack (app : App) (t : FileTree) (r : Request) (d : Path) : Prop :=
  ∃ address, (app.handle t r).1.location? = some address ∧ app.ReturnsBy t r d address

/-- A directory can be opened by a path: the lookups of the path and of the index page come to an
end without a fault, and so does that of the page for missing files if it is needed. -/
structure OpensDirectory (app : App) (t : FileTree) (r : Request) (d : Path) : Prop where
  /-- The root has been found or is there. -/
  root : (app.checked || rootIsThere app.site ⟨t, r.denied⟩) = true
  /-- The directory is found. -/
  found : find ⟨t, r.denied⟩ app.site.root (relativeParts r.path) = .ok (some ⟨d, .directory⟩)
  /-- The lookup of the index page ends without a fault. -/
  index : ∃ o, find ⟨t, r.denied⟩ app.site.root (relativeParts r.path ++ [Site.indexName]) = .ok o
  /-- If that finds no file, there is no page for missing files. -/
  missing : FindsNoFile ⟨t, r.denied⟩ app.site.root (relativeParts r.path ++ [Site.indexName]) →
    FindsNoFile ⟨t, r.denied⟩ app.site.root [Site.missingName]

/-- What it takes for a redirect to lead back to a directory. -/
structure CanLeadBack (app : App) (t : FileTree) (r : Request) (d : Path) : Prop where
  /-- There is no tab and no line break in the path. -/
  breaks : ¬ Location.HasBreak r.path
  /-- There is no escape in it, after it has been decoded. -/
  escapes : ¬ Text.Percent.HasEscape r.path
  /-- There is no fragment behind the query. -/
  fragment : '#' ∉ r.query
  /-- There is no tab and no line break in the query, unless there is no path at all. -/
  queryBreaks : r.path ≠ [] → ¬ Location.HasBreak r.query
  /-- A date can show the modification time of the index page, when there is one. -/
  index : ∀ q data, Site.IsIndex t app.site.root d q data → (Validator.ofFile? data).isSome = true
  /-- When there is none, none is found, and every entry can be marked. -/
  listing : (¬ ∃ q data, Site.IsIndex t app.site.root d q data) →
    FindsNoFile ⟨t, r.denied⟩ app.site.root (relativeParts r.path ++ [Site.indexName]) ∧
    ∀ name ∈ t.names d, Listing.CanMark t (Path.text d) d name
  /-- If there is no path at all, the root can be opened. -/
  empty : r.path = [] → app.OpensDirectory t r d

/-! ### The path and the query -/

/-- A redirect of a path without a slash at its end is one by the files, or that of no path at
all. -/
theorem redirect_cases_of_noSlash (hslash : Site.endsInSlash r.path = false)
    (hstatus : (app.handle t r).1.status = 307) :
    (app.IsReady t r ∧ app.site.choose ⟨t, r.denied⟩ r = .ok .slash ∧
      (app.handle t r).1.location? = some (Location.withSlash r)) ∨
    r.path = [] ∧ (app.handle t r).1.location? = some (Location.withPath r ['/']) := by
  rcases redirect_cases hstatus with hfiles | ⟨hpath, hother, hlocation⟩
  · exact .inl hfiles
  · rcases otherPath_cases hpath hother with hempty | ⟨hends, -, -⟩
    · rw [hempty] at hlocation
      exact .inr ⟨hempty, hlocation⟩
    · rw [hslash] at hends
      cases hends

/-- **What is kept of the path and the query.** -/
theorem exists_address (hslash : Site.endsInSlash r.path = false)
    (hstatus : (app.handle t r).1.status = 307) :
    ∃ address, (app.handle t r).1.location? = some address ∧
      ((r.sentTo address).path = r.path ++ ['/'] ↔
        ¬ Location.HasBreak r.path ∧ ¬ Text.Percent.HasEscape r.path) ∧
      ((r.sentTo address).query = Text.Percent.encode Location.isKept r.query ↔
        '#' ∉ r.query ∧ (r.path ≠ [] → ¬ Location.HasBreak r.query)) := by
  rcases redirect_cases_of_noSlash hslash hstatus with
    ⟨hready, -, hlocation⟩ | ⟨hempty, hlocation⟩
  · have hhead := head?_of_isRoutable hready.1
    have hne : r.path ≠ [] := by
      intro hempty
      rw [hempty] at hhead
      cases hhead
    obtain ⟨hpath, hquery⟩ := Request.path_query_withSlash hhead
    refine ⟨_, hlocation, ?_, ?_⟩
    · rw [hpath, List.append_left_inj, Location.decode_dropBreaks_eq_self_iff]
    · rw [hquery, Location.encode_cut_dropBreaks_eq_iff, imp_iff_right hne]
  · have hhead : (['/'] : Text).head? = some '/' := rfl
    obtain ⟨hpath, hquery⟩ := Request.path_query_withPath (r := r) hhead
    refine ⟨_, hlocation, ?_, ?_⟩
    · rw [hpath, hempty]
      have hbreak : ¬ Location.HasBreak [] := by
        rintro (h | h | h) <;> exact absurd h List.not_mem_nil
      have hescape : ¬ Text.Percent.HasEscape [] := Text.Percent.decode_eq_self_iff.1 rfl
      exact iff_of_true rfl ⟨hbreak, hescape⟩
    · rw [hquery, Location.encode_cut_eq_iff]
      exact ⟨fun h ↦ ⟨h, fun hne ↦ absurd hempty hne⟩, fun h ↦ h.1⟩

/-! ### The directory -/

/-- Whoever is sent on from a directory that the files have found can open it. -/
theorem opensDirectory_of_slash (hready : app.IsReady t r)
    (hchoose : app.site.choose ⟨t, r.denied⟩ r = .ok .slash)
    (hleads : t.LeadsTo (app.site.root ++ relativeParts r.path) d) : app.OpensDirectory t r d := by
  obtain ⟨-, place, hfound, hindex⟩ := Site.choose_eq_slash hchoose
  obtain ⟨rfl, -⟩ := stands_of_find hleads hfound
  refine ⟨hready.2, hfound, ?_, fun hnone ↦ ?_⟩
  · rcases hindex with ⟨q, data, hfile⟩ | ⟨⟨o, hnone, -⟩, -⟩
    · exact ⟨_, hfile⟩
    · exact ⟨o, hnone⟩
  · rcases hindex with ⟨q, data, hfile⟩ | ⟨-, hmissing⟩
    · exact (hnone.not_file hfile).elim
    · exact hmissing

/-- What a redirect leaves: the same site, with the root found if it is there. -/
theorem handle_snd_of_status (hslash : Site.endsInSlash r.path = false)
    (hstatus : (app.handle t r).1.status = 307) :
    (app.handle t r).2.site = app.site ∧
      ((app.handle t r).2.checked || rootIsThere app.site ⟨t, r.denied⟩) =
        (app.checked || rootIsThere app.site ⟨t, r.denied⟩) := by
  refine ⟨rfl, ?_⟩
  rcases redirect_cases_of_noSlash hslash hstatus with ⟨hready, -, -⟩ | ⟨hempty, -⟩
  · rw [handle_of_isReady hready, hready.2]
    rfl
  · have hpath : isRoutable r.path = false := by
      rw [hempty]
      rfl
    rw [handle_of_not_isRoutable hpath]

/-- The path with a slash has a route where the one without it was redirected, unless that one
breaks a line. -/
theorem isRoutable_concat_slash (hslash : Site.endsInSlash r.path = false)
    (hstatus : (app.handle t r).1.status = 307) (hbreaks : ¬ Location.HasBreak r.path) :
    isRoutable (r.path ++ ['/']) = true := by
  have hline : '\n' ∉ r.path ++ ['/'] := by
    rw [List.mem_append]
    rintro (h | h)
    · exact hbreaks (.inr (.inl h))
    · exact absurd h (by decide)
  refine isRoutable_of_head? ?_ hline
  -- a path is redirected with a slash at its start, or it is empty and the new slash is the first one
  rcases redirect_cases_of_noSlash hslash hstatus with ⟨hready, -, -⟩ | ⟨hempty, -⟩
  · rw [List.head?_append, head?_of_isRoutable hready.1]
    rfl
  · rw [hempty]
    rfl

/-- **What the lookups for the directory find** when the path with a slash is asked for. -/
theorem findsDirectory_iff (hslash : Site.endsInSlash r.path = false)
    (hstatus : (app.handle t r).1.status = 307) (hbreaks : ¬ Location.HasBreak r.path)
    (hleads : t.LeadsTo (app.site.root ++ relativeParts r.path) d)
    (hpath : q.path = r.path ++ ['/']) (hdenied : q.denied = r.denied) :
    (app.handle t r).2.FindsDirectory t q d ↔ app.OpensDirectory t r d ∧
      (∀ p data, Site.IsIndex t app.site.root d p data →
        (Validator.ofFile? data).isSome = true) ∧
      ((¬ ∃ p data, Site.IsIndex t app.site.root d p data) →
        FindsNoFile ⟨t, r.denied⟩ app.site.root (relativeParts r.path ++ [Site.indexName]) ∧
        ∀ name ∈ t.names d, Listing.CanMark t (Path.text d) d name) := by
  obtain ⟨hsite, hroot⟩ := handle_snd_of_status hslash hstatus
  have hparts : relativeParts q.path = relativeParts r.path := by
    rw [hpath, relativeParts_concat_slash]
  have hroutable : isRoutable q.path = true := by
    rw [hpath]
    exact isRoutable_concat_slash hslash hstatus hbreaks
  have hready : (app.handle t r).2.IsReady t q ↔
      (app.checked || rootIsThere app.site ⟨t, r.denied⟩) = true := by
    rw [IsReady, hsite, hdenied, hroot]
    exact and_iff_right hroutable
  constructor
  · -- with an index page its lookup ends in that file, without one in no file
    rintro ⟨hfrom, hfound, hindex, hlisting⟩
    rw [hsite, hparts, hdenied] at hfound hindex hlisting
    refine ⟨⟨hready.1 hfrom, hfound, ?_, fun hnone ↦ ?_⟩, fun p data hp ↦ (hindex p data hp).2,
      fun hno ↦ ⟨(hlisting hno).1, (hlisting hno).2.2⟩⟩
    · by_cases hpage : ∃ p data, Site.IsIndex t app.site.root d p data
      · obtain ⟨p, data, hp⟩ := hpage
        exact ⟨_, (hindex p data hp).1⟩
      · obtain ⟨o, ho, -⟩ := (hlisting hpage).1
        exact ⟨o, ho⟩
    · by_cases hpage : ∃ p data, Site.IsIndex t app.site.root d p data
      · obtain ⟨p, data, hp⟩ := hpage
        exact (hnone.not_file (hindex p data hp).1).elim
      · exact (hlisting hpage).2.1
  · rintro ⟨⟨hthere, hfound, ⟨o, ho⟩, hmissing⟩, hdated, hlisting⟩
    obtain ⟨-, hnative, -⟩ := stands_of_find hleads hfound
    refine ⟨hready.2 hthere, ?_, fun p data hp ↦ ?_, fun hno ↦ ?_⟩
    · rw [hsite, hparts, hdenied]
      exact hfound
    · -- the lookup of an index page that is there finds it or is a fault, and it is none
      rw [hsite] at hp
      rw [hsite, hparts, hdenied]
      refine ⟨?_, hdated p data hp⟩
      have hlookup := find_or_fault (v := ⟨t, r.denied⟩)
        ((isForeign_concat_indexName _).trans hnative) (leadsTo_index hleads hp) hp.inside hp.stands
      rcases hlookup with hpage | ⟨f, hf⟩
      · exact hpage
      · rw [hf] at ho
        cases ho
    · rw [hsite] at hno
      rw [hsite, hparts, hdenied]
      obtain ⟨hnone, hmarks⟩ := hlisting hno
      exact ⟨hnone, hmissing hnone, hmarks⟩

/-! ### When a redirect leads back -/

/-- **When a redirect leads back to the directory** that the path leads to. -/
theorem leadsBack_iff (hslash : Site.endsInSlash r.path = false)
    (hleads : t.LeadsTo (app.site.root ++ relativeParts r.path) d) (hdir : t.Stands d .directory)
    (hstatus : (app.handle t r).1.status = 307) : app.LeadsBack t r d ↔ app.CanLeadBack t r d := by
  obtain ⟨address, hlocation, hkeepsPath, hkeepsQuery⟩ := exists_address hslash hstatus
  have hsame {q : Request} (htarget : q.target = (r.sentTo address).target) :
      q.path = (r.sentTo address).path := by
    rw [Request.path, htarget, Request.path]
  have hends {q : Request} (hpath : q.path = r.path ++ ['/']) : Site.endsInSlash q.path = true := by
    rw [hpath, Site.endsInSlash, List.getLast?_concat]
    rfl
  have hagain {q : Request} (hpath : q.path = r.path ++ ['/']) :
      t.LeadsTo ((app.handle t r).2.site.root ++ relativeParts q.path) d := by
    rw [hpath, relativeParts_concat_slash]
    exact hleads
  constructor
  · rintro ⟨other, hother, hpath, hquery, hshows⟩
    obtain rfl : other = address := Option.some_inj.1 (hother.symm.trans hlocation)
    obtain ⟨hbreaks, hescapes⟩ := hkeepsPath.1 hpath
    obtain ⟨hfragment, hqueryBreaks⟩ := hkeepsQuery.1 hquery
    -- one request without further headers tells what there is to find
    let q : Request := ⟨"GET", (r.sentTo other).target, [], r.denied⟩
    have hq : q.path = r.path ++ ['/'] := (hsame rfl).trans hpath
    have hshown : (app.handle t r).2.ShowsDirectory t q d :=
      hshows q rfl ⟨rfl, rfl, rfl⟩ rfl rfl
    have hfinds := hshown.finds ⟨rfl, rfl, rfl⟩ (hends hq) (hagain hq) hdir
    obtain ⟨hopens, hdated, hlisting⟩ :=
      (findsDirectory_iff hslash hstatus hbreaks hleads hq rfl).1 hfinds
    exact ⟨hbreaks, hescapes, hfragment, hqueryBreaks, hdated, hlisting, fun _ ↦ hopens⟩
  · intro h
    have hpath := hkeepsPath.2 ⟨h.breaks, h.escapes⟩
    refine ⟨address, hlocation, hpath, hkeepsQuery.2 ⟨h.fragment, h.queryBreaks⟩,
      fun q hget hplain htarget hdenied ↦ ?_⟩
    have hq : q.path = r.path ++ ['/'] := (hsame htarget).trans hpath
    -- the files would not have sent on from a directory that cannot be opened
    have hopens : app.OpensDirectory t r d := by
      rcases redirect_cases_of_noSlash hslash hstatus with ⟨hready, hchoose, -⟩ | ⟨hempty, -⟩
      · exact opensDirectory_of_slash hready hchoose hleads
      · exact h.empty hempty
    have hfinds := (findsDirectory_iff hslash hstatus h.breaks hleads hq hdenied).2
      ⟨hopens, h.index, h.listing⟩
    exact hfinds.shows hget hplain (hends hq) (hagain hq)

/-- A request for a directory without a slash, with a query. -/
def packageRequest : Request :=
  ⟨"GET", "/pkg?v=1", [], []⟩

/-- The case of a name that encoding leaves as it is. -/
theorem leadsBack_packageTree : siteApp.LeadsBack packageTree packageRequest ["site", "pkg"] := by
  have hleads : packageTree.LeadsTo (siteApp.site.root ++ relativeParts packageRequest.path)
      ["site", "pkg"] :=
    (FileTree.destination?_eq_some_iff (by decide +kernel)).1 (by decide +kernel)
  have hreal : packageTree.realPath ["site", "pkg", "index.html"] =
    .ok ["site", "pkg", "index.html"] := by decide +kernel
  have hnone : packageTree.get? ["site", "pkg", "index.html"] = none := by decide
  refine (leadsBack_iff (by decide +kernel) hleads (by decide +kernel) (by decide +kernel)).2 ?_
  refine ⟨by decide +kernel, ?_, by decide +kernel, fun _ ↦ by decide +kernel, ?_, fun _ ↦ ?_, ?_⟩
  · exact Text.Percent.decode_eq_self_iff.1 (by decide +kernel)
  · intro q data hindex
    obtain rfl := hindex.leads.eq_of_realPath hreal
    cases hnone.symm.trans hindex.stands.entry
  · exact ⟨⟨none, by decide +kernel, by simp⟩, by decide +kernel⟩
  · intro hempty
    exact absurd hempty (by decide +kernel)

/-- A directory with an escape in its name. -/
def escapeTree : FileTree :=
  ⟨[(["site"], .directory), (["site", "a%41"], .directory)], [], by decide⟩

/-- A request for that directory. -/
def escapeRequest : Request :=
  ⟨"GET", "/a%2541", [], []⟩

/-- **A redirect can lead astray**: an escape in the name of a directory is decoded once more. -/
theorem not_leadsBack_escapeTree : siteApp.Reached ∧
    Site.endsInSlash escapeRequest.path = false ∧
    escapeTree.LeadsTo (siteApp.site.root ++ relativeParts escapeRequest.path) ["site", "a%41"] ∧
    escapeTree.Stands ["site", "a%41"] .directory ∧
    escapeTree.isInside siteApp.site.root ["site", "a%41"] = true ∧
    (siteApp.handle escapeTree escapeRequest).1.status = 307 ∧
    ¬ siteApp.LeadsBack escapeTree escapeRequest ["site", "a%41"] := by
  refine ⟨siteApp_reached, by decide +kernel,
    (FileTree.destination?_eq_some_iff (by decide +kernel)).1 (by decide +kernel),
    by decide +kernel, by decide +kernel, by decide +kernel, ?_⟩
  rintro ⟨address, hlocation, hreturns⟩
  have haddress : (siteApp.handle escapeTree escapeRequest).1.location? =
    some "http://127.0.0.1:7070/a%41/" := by decide +kernel
  obtain rfl := Option.some_inj.1 (haddress.symm.trans hlocation)
  have hpath : (escapeRequest.sentTo "http://127.0.0.1:7070/a%41/").path = "/aA/" := by
    decide +kernel
  have hother := hreturns.path
  rw [hpath] at hother
  exact absurd hother (by decide +kernel)

end App

end StaticServer
