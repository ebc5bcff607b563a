import StaticServer.Proofs.Program.Serving

/-!
# Permission errors fail closed

Denying a request more directories makes no lookup find anything else: a lookup ends as before or
with the fault that what is looked at is denied (`Lookup.find_of_subset`). Each step of the choice
hands that fault on as a refusal and not to the step behind it, so what is chosen under denial is
what was chosen without, and otherwise the choice is refused (`Site.choose_of_subset`).

`App.fails_closed` says so of responses: under denial a response is the same, byte for byte, or it
has status 401 or 500. In between stand the ways in which denial could open something: a file or an
index page that cannot be looked at might be taken for one that is not there, and the directory be
listed in its place. No listing comes about in that way.
-/

namespace StaticServer

/-- A request with other directories denied. -/
def Request.withDenied (r : Request) (denied : List Text) : Request :=
  { r with denied := denied }

namespace Site

open Lookup

variable {s : Site} {t : FileTree} {denied more parts : List Text} {r : Request}

/-! ### One step after another -/

/-- Under more denial the last lookup fails or leads to the same choice, -/
theorem orListing_of_subset (h : denied ⊆ more) :
    s.orListing ⟨t, more⟩ parts r = .error .failed ∨
      s.orListing ⟨t, more⟩ parts r = s.orListing ⟨t, denied⟩ parts r := by
  rcases find_of_subset h s.root parts with hfind | hfind
  · exact .inl (by rw [orListing, hfind])
  · exact .inr (by rw [orListing, orListing, hfind])

/-- so does the one of the page for missing files, -/
theorem orMissingPage_of_subset (h : denied ⊆ more) :
    s.orMissingPage ⟨t, more⟩ parts r = .error .failed ∨
      s.orMissingPage ⟨t, more⟩ parts r = s.orMissingPage ⟨t, denied⟩ parts r := by
  rcases find_of_subset h s.root [missingName] with hfind | hfind
  · exact .inl (orMissingPage_of_fault hfind)
  rw [orMissingPage, orMissingPage, hfind]
  split
  · exact .inl rfl
  · exact .inr rfl
  · exact orListing_of_subset h

/-- and so does that of the index page. A lookup that is denied ends the request, so that no later
one turns its failure into another choice. -/
theorem index_of_subset (h : denied ⊆ more) :
    s.index ⟨t, more⟩ parts r = .error .failed ∨
      s.index ⟨t, more⟩ parts r = s.index ⟨t, denied⟩ parts r := by
  rcases find_of_subset h s.root (parts ++ [indexName]) with hfind | hfind
  · exact .inl (index_of_fault hfind)
  rw [index, index, hfind]
  split
  · exact .inl rfl
  · exact .inr rfl
  · exact orMissingPage_of_subset h

/-- **Denying more leaves a choice as it is or refuses it.** -/
theorem choose_of_subset (h : denied ⊆ more) (r : Request) :
    (∃ refusal, s.choose ⟨t, more⟩ r = .error refusal ∧ refusal ≠ .notFound) ∨
      s.choose ⟨t, more⟩ r = s.choose ⟨t, denied⟩ r := by
  have hfailed {a b : Except Refusal Choice} (hab : a = .error .failed ∨ a = b) :
      (∃ refusal, a = .error refusal ∧ refusal ≠ .notFound) ∨ a = b :=
    hab.imp_left fun ha ↦ ⟨.failed, ha, by decide⟩
  rcases find_of_subset (t := t) h s.root (relativeParts r.path) with hfind | hfind
  · refine .inl ⟨.unauthorized, ?_, by decide⟩
    simp only [choose, hfind]
  -- the first lookup ends as before, and what comes behind it is one of the steps above
  simp only [choose, hfind]
  split
  · exact .inr rfl
  · exact hfailed (orListing_of_subset h)
  · exact hfailed (orListing_of_subset h)
  · exact .inr rfl
  · exact .inr rfl
  · exact hfailed (index_of_subset h)
  · exact hfailed (orMissingPage_of_subset h)

/-- What is chosen under denial is chosen without. -/
theorem choose_ok_of_subset (h : denied ⊆ more) {c : Choice}
    (hchoose : s.choose ⟨t, more⟩ r = .ok c) : s.choose ⟨t, denied⟩ r = .ok c := by
  rcases choose_of_subset h r with ⟨refusal, hrefused, -⟩ | hsame
  · rw [hchoose] at hrefused
    cases hrefused
  · rw [← hsame, hchoose]

/-! ### What has to be missing for a listing -/

/-- A listing is chosen only when the lookup of the index page finds no file. -/
theorem findsNoFile_of_index_listing {v : View} {place : Path}
    (h : s.index v parts r = .ok (.listing place)) :
    FindsNoFile v s.root (parts ++ [indexName]) := by
  rcases findsNoFile_cases v s.root (parts ++ [indexName]) with
    ⟨f, hfault⟩ | ⟨q, data, hfile⟩ | hnone
  · rw [index_of_fault hfault] at h
    cases h
  · rw [index, hfile] at h
    dsimp only at h
    split_ifs at h <;> cases h
  · exact hnone

/-- It comes from the last lookup. -/
theorem orListing_of_orMissingPage_listing {v : View} {place : Path}
    (h : s.orMissingPage v parts r = .ok (.listing place)) :
    s.orListing v parts r = .ok (.listing place) := by
  rcases findsNoFile_cases v s.root [missingName] with ⟨f, hfault⟩ | ⟨q, data, hfile⟩ | hnone
  · rw [orMissingPage_of_fault hfault] at h
    cases h
  · rw [orMissingPage_of_file hfile] at h
    cases h
  · rwa [orMissingPage_of_findsNoFile hnone] at h

/-- What is listed is found as a directory by the path. -/
theorem exists_directory_of_choose_listing {v : View} {place : Path}
    (h : s.choose v r = .ok (.listing place)) :
    ∃ d, find v s.root (relativeParts r.path) = .ok (some ⟨d, .directory⟩) := by
  have hpresent {o : Option Found} (hfind : find v s.root (relativeParts r.path) = .ok o)
      (ho : ∀ found ∈ o, ∃ target, found.entry = .link target) : False := by
    rw [choose_of_absent hfind ho] at h
    have hlisting := orListing_of_orMissingPage_listing h
    rw [orListing_of_absent hfind ho] at hlisting
    cases hlisting
  rcases hfind : find v s.root (relativeParts r.path) with f | - | ⟨d, e⟩
  · by_cases hf : f = .denied
    · subst hf
      simp only [choose, hfind] at h
      cases h
    · rw [choose_of_fault hfind hf] at h
      cases h
  · exact (hpresent hfind (by simp)).elim
  · cases e with
    | file data =>
      simp only [choose, hfind] at h
      cases h
    | directory => exact ⟨d, rfl⟩
    | link target => exact (hpresent hfind (by simp)).elim

/-- The place that is listed is the one that is found by the path. -/
theorem find_of_choose_listing {v : View} {place : Path}
    (h : s.choose v r = .ok (.listing place)) :
    find v s.root (relativeParts r.path) = .ok (some ⟨place, .directory⟩) := by
  obtain ⟨d, hfind⟩ := exists_directory_of_choose_listing h
  rw [choose_of_directory hfind] at h
  rw [index_of_findsNoFile (findsNoFile_of_index_listing h)] at h
  exact find_of_orListing (orListing_of_orMissingPage_listing h) rfl

/-- **A directory is listed only when the lookup of its index page ends without a file**, and not
when that lookup fails. -/
theorem findsNoFile_of_choose_listing {v : View} {place : Path}
    (h : s.choose v r = .ok (.listing place)) :
    FindsNoFile v s.root (relativeParts r.path ++ [indexName]) := by
  obtain ⟨d, hfind⟩ := exists_directory_of_choose_listing h
  rw [choose_of_directory hfind] at h
  exact findsNoFile_of_index_listing h

end Site

namespace App

open Lookup

variable {app : App} {t : FileTree} {r : Request} {more : List Text}

theorem rootIsThere_of_subset {s : Site} {denied : List Text} (h : denied ⊆ more)
    (hthere : rootIsThere s ⟨t, more⟩ = true) : rootIsThere s ⟨t, denied⟩ = true := by
  simp only [rootIsThere, Bool.and_eq_true, Bool.not_eq_true'] at hthere ⊢
  refine ⟨Bool.eq_false_iff.2 fun hdenied ↦ ?_, hthere.2⟩
  rw [View.isDenied_of_subset h hdenied] at hthere
  cases hthere.1

/-- Denying more leaves the answer as it is or refuses it. -/
theorem answer_withDenied (s : Site) (t : FileTree) (h : r.denied ⊆ more) :
    (∃ refusal, s.answer t (r.withDenied more) = .error refusal ∧ refusal ≠ .notFound) ∨
      s.answer t (r.withDenied more) = s.answer t r := by
  rcases Site.choose_of_subset (s := s) (t := t) h r with ⟨refusal, hrefused, hne⟩ | hsame
  · exact .inl ⟨refusal, Site.answer_of_choose_error hrefused, hne⟩
  · refine .inr ?_
    have hchoose : s.choose ⟨t, (r.withDenied more).denied⟩ (r.withDenied more) =
        s.choose ⟨t, r.denied⟩ r := hsame
    rw [Site.answer, Site.answer, hchoose]
    rfl

/-- Denying more leaves the response as it is, or it has a status that says that it was refused. -/
theorem handle_withDenied (app : App) (t : FileTree) (h : r.denied ⊆ more) :
    (app.handle t (r.withDenied more)).1 = (app.handle t r).1 ∨
      (app.handle t (r.withDenied more)).1.status = 401 ∨
      (app.handle t (r.withDenied more)).1.status = 500 := by
  rcases app.isReady_or t (r.withDenied more) with hready | ⟨hpath, hmissing⟩ | hpath
  · have hready' : app.IsReady t r := by
      refine ⟨hready.1, Bool.or_eq_true_iff.2 ?_⟩
      exact (Bool.or_eq_true_iff.1 hready.2).imp_right (rootIsThere_of_subset h)
    rw [handle_of_isReady hready, handle_of_isReady hready']
    rcases answer_withDenied app.site t h with ⟨refusal, hrefused, hne⟩ | hsame
    · rw [hrefused]
      cases refusal with
      | notFound => exact absurd rfl hne
      | unauthorized => exact .inr (.inl status_finish_unauthorized)
      | failed => exact .inr (.inr status_finish_failed)
    · rw [hsame]
      exact .inl rfl
  · rw [handle_of_rootMissing hpath hmissing, status_deliver]
    exact .inr (.inr rfl)
  · have hpath' : isRoutable r.path = false := hpath
    rw [handle_of_not_isRoutable hpath, handle_of_not_isRoutable hpath']
    exact .inl rfl

/-- **Permission errors fail closed.** For every application, tree and request, and for all
directories that are denied besides those that are denied anyway: the response is the one without
that denial, or it has status 401 or 500. What an answer is made of under denial is what it is made
of without. And a listing is sent only of a directory in which, with nothing denied at all, the
lookup of the index page ends without a file. -/
theorem fails_closed (app : App) (t : FileTree) (r : Request) (more : List Text)
    (h : r.denied ⊆ more) :
    ((app.handle t (r.withDenied more)).1 = (app.handle t r).1 ∨
      (app.handle t (r.withDenied more)).1.status = 401 ∨
      (app.handle t (r.withDenied more)).1.status = 500) ∧
    (∀ c, app.site.choose ⟨t, more⟩ r = .ok c → app.site.choose ⟨t, r.denied⟩ r = .ok c) ∧
    ∀ place, app.site.choose ⟨t, more⟩ r = .ok (.listing place) →
      FindsNoFile ⟨t, []⟩ app.site.root (relativeParts r.path ++ [Site.indexName]) := by
  refine ⟨handle_withDenied app t h, fun c ↦ Site.choose_ok_of_subset h, fun place hlisting ↦ ?_⟩
  exact Site.findsNoFile_of_choose_listing
    (Site.choose_ok_of_subset (List.nil_subset more) hlisting)

/-- A directory with an index page, and one without. -/
def sectionsTree : FileTree :=
  ⟨[(["site"], .directory), (["site", "docs"], .directory),
    (["site", "docs", "index.html"], .file ⟨Text.Utf8.encode "hi", 0⟩),
    (["site", "pkg"], .directory), (["site", "pkg", "a.txt"], .file ⟨Text.Utf8.encode "a", 0⟩)],
    [], by decide⟩

/-- An index page below a denied directory makes the request fail, and the directory is not listed.
The listing of another directory is sent as before. -/
theorem fails_closed_sectionsTree :
    ((siteApp.handle sectionsTree ⟨"GET", "/docs/", [], []⟩).1.status = 200 ∧
      (siteApp.handle sectionsTree ⟨"GET", "/docs/", [], ["site/docs"]⟩).1.status = 500) ∧
    (siteApp.handle sectionsTree ⟨"GET", "/pkg/", [], ["site/docs"]⟩).1 =
      (siteApp.handle sectionsTree ⟨"GET", "/pkg/", [], []⟩).1 ∧
    FindsNoFile ⟨sectionsTree, []⟩ ["site"] (relativeParts "/pkg/" ++ [Site.indexName]) := by
  obtain ⟨hresponse, -, hlisting⟩ :=
    fails_closed siteApp sectionsTree ⟨"GET", "/pkg/", [], []⟩ ["site/docs"] (by decide)
  refine ⟨by decide +kernel, hresponse.resolve_right ?_, hlisting ["site", "pkg"] ?_⟩
  · decide +kernel
  · decide +kernel

end App

end StaticServer
