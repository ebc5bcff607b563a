import StaticServer.Proofs.Program.Serving

/-!
# Paths with nothing behind them

A path behind which there is nothing is to be answered with status 404 and the headers for
development. `App.notFound_iff` says when that is so: exactly when both the path and the page for
missing files can be looked up, and that page, if there is one, can be sent.

The lookup of such a path finds nothing or ends with a fault. In the first case there is no other
way than the page for missing files or the refusal, which both have status 404. In the second case
the fault is met again when the path is looked up as a directory to be listed, and the answer fails:
that happens to a path with the character NUL in it and to one that is too long.
-/

namespace StaticServer

/-! ### Nothing behind a path -/

/-- A relative path leads to no file and to no directory inside the root. -/
def Lookup.LeadsNowhere (t : FileTree) (root : Path) (parts : List Text) : Prop :=
  isForeign parts = true ∨ ∀ q, t.LeadsTo (root ++ parts) q → t.isInside root q = true →
    (∀ data, ¬ t.Stands q (.file data)) ∧ ¬ t.Stands q .directory

namespace Lookup

variable {t : FileTree} {root q : Path} {parts : List Text}

/-- A path leads nowhere if nothing stands at its real path. -/
theorem leadsNowhere_of_realPath (hreal : t.realPath (root ++ parts) = .ok q)
    (hget : t.get? q = none) : LeadsNowhere t root parts := by
  have hnot (e : Entry) : ¬ t.Stands q e := by
    intro hstands
    rw [hstands.entry] at hget
    cases hget
  refine .inr fun p hp _ ↦ ?_
  obtain rfl := hp.eq_of_realPath hreal
  exact ⟨fun data ↦ hnot (.file data), hnot .directory⟩

/-- It can be looked up if its real path is not too long. -/
theorem canLookUp_of_realPath (hnul : ∀ part ∈ parts, '\x00' ∉ part)
    (hreal : t.realPath (root ++ parts) = .ok q)
    (hshort : t.resolve (Path.text q) ≠ .error .nameTooLong) : CanLookUp t root parts := by
  refine .inr ⟨hnul, fun p hp _ ↦ ?_⟩
  obtain rfl := hp.eq_of_realPath hreal
  exact hshort

end Lookup

namespace Site

open Lookup

variable {s : Site} {t : FileTree} {r : Request} {parts : List Text}

/-- What a lookup of a path that leads nowhere ends with, if not with a fault: nothing that is
served. -/
theorem find_of_leadsNowhere (hloop : t.LoopFree) (hroot : s.root.IsPlain)
    (hslash : ∀ part ∈ parts, '/' ∉ part) (hnowhere : LeadsNowhere t s.root parts)
    {o : Option Found} (hfind : find ⟨t, []⟩ s.root parts = .ok o) :
    ∀ found ∈ o, ∃ target, found.entry = .link target := by
  rintro ⟨place, e⟩ hmem
  rw [Option.mem_def.1 hmem] at hfind
  obtain ⟨hforeign, hleads, hinside, hstands, -⟩ :=
    (find_eq_ok_some_iff_stands hloop hroot hslash).1 hfind
  have hnot := hnowhere.resolve_left (by simp [hforeign]) place hleads hinside
  cases e with
  | file data => exact absurd hstands (hnot.1 data)
  | directory => exact absurd hstands hnot.2
  | link target => exact ⟨target, rfl⟩

end Site

/-! ### The page for missing files -/

namespace Lookup

/-- The page for missing files can be looked up, and if there is one it can be sent. -/
def CanSendMissingPage (t : FileTree) (root : Path) : Prop :=
  CanLookUp t root [Site.missingName] ∧
    ∀ q data, t.LeadsTo (root ++ [Site.missingName]) q → t.isInside root q = true →
      t.Stands q (.file data) → (Validator.ofFile? data).isSome = true

theorem slash_not_mem_missingName : ∀ part ∈ [Site.missingName], '/' ∉ part := by
  decide

variable {t : FileTree} {root : Path}

/-- A page whose lookup fails cannot be sent. -/
theorem not_canSendMissingPage_of_fault (hloop : t.LoopFree) (hroot : root.IsPlain) {f : Fault}
    (hpage : find ⟨t, []⟩ root [Site.missingName] = .error f) : ¬ CanSendMissingPage t root := by
  rintro ⟨hcan, -⟩
  obtain ⟨o, ho⟩ := (exists_find_iff hloop hroot slash_not_mem_missingName).2 hcan
  rw [hpage] at ho
  cases ho

/-- A page that is found can be sent when a date can show its modification time. -/
theorem canSendMissingPage_of_file (hloop : t.LoopFree) (hroot : root.IsPlain) {place : Path}
    {data : FileData}
    (hpage : find ⟨t, []⟩ root [Site.missingName] = .ok (some ⟨place, .file data⟩)) :
    CanSendMissingPage t root ↔ (Validator.ofFile? data).isSome = true := by
  obtain ⟨-, hleads, hinside, hstands, -⟩ :=
    (find_eq_ok_some_iff_stands hloop hroot slash_not_mem_missingName).1 hpage
  refine ⟨fun h ↦ h.2 place data hleads hinside hstands, fun hdated ↦ ?_⟩
  refine ⟨(exists_find_iff hloop hroot slash_not_mem_missingName).1 ⟨_, hpage⟩, ?_⟩
  intro q data' hq _ hstands'
  obtain rfl := hq.unique hleads
  cases hstands'.unique hstands
  exact hdated

/-- Nothing has to be sent when there is no page. -/
theorem canSendMissingPage_of_findsNoFile (hloop : t.LoopFree) (hroot : root.IsPlain)
    (hpage : FindsNoFile ⟨t, []⟩ root [Site.missingName]) : CanSendMissingPage t root := by
  obtain ⟨o, hfind, ho⟩ := hpage
  have hcan := (exists_find_iff hloop hroot slash_not_mem_missingName).1 ⟨o, hfind⟩
  refine ⟨hcan, fun q data hq hinside hstands ↦ ?_⟩
  have hfile := hcan.find_eq (by decide) hq hinside hstands
  exact absurd (Except.ok.inj (hfind.symm.trans hfile)) (ho q data)

end Lookup

namespace App

variable {app : App} {t : FileTree} {r : Request}

/-- A response says that nothing was found, on its own or with the page for missing files. -/
def IsMissing (r : Request) (a : Response) : Prop :=
  a = finish r (.error .notFound) ∨ ∃ f : ServedFile, a = finish r (.ok (f.whole 404 r))

theorem IsMissing.status_eq {a : Response} (h : IsMissing r a) :
    a.status = 404 ∧ a.HasDevHeaders := by
  rcases h with rfl | ⟨f, rfl⟩
  · exact ⟨status_finish_notFound, hasDevHeaders_finish_notFound⟩
  · exact ⟨status_finish_ok _, hasDevHeaders_finish_ok _⟩

/-- Where the page for missing files is looked for, a response says that nothing was found, or the
page cannot be sent and the answer fails. -/
theorem missing_or_failed {parts : List Text} (hroot : app.site.root.IsPlain) (hloop : t.LoopFree)
    (hdenied : r.denied = [])
    (hlisting : app.site.orListing ⟨t, []⟩ parts r = .error .notFound)
    (hchoose : app.site.choose ⟨t, []⟩ r = app.site.orMissingPage ⟨t, []⟩ parts r) :
    (Lookup.CanSendMissingPage t app.site.root ∧ IsMissing r (finish r (app.site.answer t r))) ∨
    (¬ Lookup.CanSendMissingPage t app.site.root ∧ app.site.answer t r = .error .failed) := by
  rcases Lookup.findsNoFile_cases ⟨t, []⟩ app.site.root [Site.missingName] with
    ⟨f, hpage⟩ | ⟨place, data, hpage⟩ | hpage
  · rw [Site.orMissingPage_of_fault hpage, ← hdenied] at hchoose
    exact .inr ⟨Lookup.not_canSendMissingPage_of_fault hloop hroot hpage,
      Site.answer_of_choose_error hchoose⟩
  · have hsend := Lookup.canSendMissingPage_of_file hloop hroot hpage
    rw [Site.orMissingPage_of_file hpage, ← hdenied] at hchoose
    rw [hsend, Site.answer_of_choose hchoose, Site.present]
    rcases hdated : (Validator.ofFile? data).isSome with - | -
    · exact .inr ⟨Bool.false_ne_true, Site.sendFile_of_isNone hdated⟩
    · obtain ⟨f, -, hf⟩ := Site.sendFile_of_isSome place hdated
      exact .inl ⟨rfl, .inr ⟨f, by rw [hf]⟩⟩
  · rw [Site.orMissingPage_of_findsNoFile hpage, hlisting, ← hdenied] at hchoose
    refine .inl ⟨Lookup.canSendMissingPage_of_findsNoFile hloop hroot hpage, .inl ?_⟩
    rw [Site.answer_of_choose_error hchoose]

/-- **A path with nothing behind it is answered with status 404** and the headers for development
exactly when it can be looked up, and the page for missing files can be looked up and sent. -/
theorem notFound_iff (hserves : app.Serves t r) (hloop : t.LoopFree)
    (hslash : r.path.head? = some '/')
    (hnowhere : Lookup.LeadsNowhere t app.site.root (Lookup.relativeParts r.path)) :
    (app.handle t r).1.status = 404 ∧ (app.handle t r).1.HasDevHeaders ↔
      Lookup.CanLookUp t app.site.root (Lookup.relativeParts r.path) ∧
        Lookup.CanSendMissingPage t app.site.root := by
  have hroot := hserves.reached.isPlain
  have hparts : ∀ part ∈ Lookup.relativeParts r.path, '/' ∉ part :=
    fun _ hpart ↦ Site.slash_not_mem_of_mem_relativeParts hpart
  have hends := Lookup.exists_find_iff hloop hroot hparts
  have hfailed (h : app.site.answer t r = .error .failed) :
      ¬ ((app.handle t r).1.status = 404 ∧ (app.handle t r).1.HasDevHeaders) := by
    rw [hserves.handle_eq hslash, h, status_finish_failed]
    exact fun hstatus ↦ absurd hstatus.1 (by decide)
  rcases hfind : Lookup.find ⟨t, []⟩ app.site.root (Lookup.relativeParts r.path) with f | o
  · have hf : f ≠ .denied := by
      rcases Lookup.find_eq_error hloop hroot hparts hfind with rfl | rfl <;> decide
    -- the lookup for a listing meets the same fault once more
    have hchoose := Site.choose_of_fault hfind hf
    rw [← hserves.denied] at hchoose
    refine iff_of_false (hfailed (Site.answer_of_choose_error hchoose)) fun ⟨hcan, _⟩ ↦ ?_
    obtain ⟨o, ho⟩ := hends.2 hcan
    rw [hfind] at ho
    cases ho
  · have habsent := Site.find_of_leadsNowhere hloop hroot hparts hnowhere hfind
    have hlisting : app.site.orListing ⟨t, []⟩ (Lookup.relativeParts r.path) r = .error .notFound :=
      Site.orListing_of_absent hfind habsent
    rcases missing_or_failed hroot hloop hserves.denied hlisting
        (Site.choose_of_absent hfind habsent) with ⟨hsend, hmissing⟩ | ⟨hsend, herror⟩
    · rw [← hserves.handle_eq hslash] at hmissing
      exact iff_of_true hmissing.status_eq ⟨hends.1 ⟨o, hfind⟩, hsend⟩
    · exact iff_of_false (hfailed herror) fun h ↦ hsend h.2

/-- There are no links in the tree, so a name leads to the place that it spells. -/
theorem realPath_siteTree (name : Text) (h : Path.isName name = true) :
    siteTree.realPath (siteApp.site.root ++ [name]) = .ok (siteApp.site.root ++ [name]) := by
  have hsettled := FileTree.isSettled_of_links_eq_nil (t := siteTree) (by decide)
  exact (hsettled _).realPath_eq (Path.IsPlain.concat (by decide) h)

/-- The case of a name that is not there. -/
theorem notFound_siteTree :
    (siteApp.handle siteTree ⟨"GET", "/nope", [], []⟩).1.status = 404 ∧
      (siteApp.handle siteTree ⟨"GET", "/nope", [], []⟩).1.HasDevHeaders := by
  have hparts : Lookup.relativeParts (Request.path ⟨"GET", "/nope", [], []⟩) =
      [("nope" : Text)] := by
    decide +kernel
  have hnope := realPath_siteTree "nope" (by decide)
  have hpage := realPath_siteTree Site.missingName (by decide)
  have hmissing : siteTree.resolve "/site/nope" = .error .missing := rfl
  have hmissing' : siteTree.resolve "/site/404.html" = .error .missing := rfl
  refine (notFound_iff (serves_siteTree rfl (by decide +kernel)) (by decide +kernel)
    (by decide +kernel) ?_).2 ?_
  · rw [hparts]
    exact Lookup.leadsNowhere_of_realPath hnope rfl
  · rw [hparts]
    refine ⟨Lookup.canLookUp_of_realPath (by decide) hnope fun h ↦ ?_,
      Lookup.canLookUp_of_realPath (by decide) hpage fun h ↦ ?_, fun q data hq _ hstands ↦ ?_⟩
    · cases hmissing.symm.trans h
    · cases hmissing'.symm.trans h
    · obtain rfl := hq.eq_of_realPath hpage
      have hget := hstands.entry
      cases hget

/-- A request whose path leads nowhere, and which is answered with a failure. -/
structure FailsForNothing (app : App) (t : FileTree) (r : Request) : Prop where
  /-- The application serves, and nothing is denied. -/
  serves : app.Serves t r
  /-- There are no link loops. -/
  loopFree : t.LoopFree
  /-- The path starts with a slash. -/
  slash : r.path.head? = some '/'
  /-- There is nothing behind it. -/
  nowhere : Lookup.LeadsNowhere t app.site.root (Lookup.relativeParts r.path)
  /-- The answer fails. -/
  failed : (app.handle t r).1.status = 500

/-- A NUL gets past the first lookup and not past the second one. -/
theorem failsForNothing_nul : siteApp.FailsForNothing siteTree ⟨"GET", "/a%00b", [], []⟩ := by
  refine ⟨serves_siteTree rfl (by decide +kernel), by decide +kernel, by decide +kernel,
    .inr fun q hq ↦ ?_, by decide +kernel⟩
  have hnul : siteTree.realPath ["site", "a\x00b"] = .error .nulCharacter := rfl
  cases hnul.symm.trans hq.realPath_eq

/-- So does a name of 256 bytes. -/
theorem failsForNothing_long :
    siteApp.FailsForNothing siteTree ⟨"GET", '/' :: List.replicate 256 'a', [], []⟩ := by
  refine ⟨serves_siteTree rfl (by decide +kernel), by decide +kernel, by decide +kernel, ?_,
    by decide +kernel⟩
  have hparts : Lookup.relativeParts
      (Request.path ⟨"GET", '/' :: List.replicate 256 'a', [], []⟩) =
        [List.replicate 256 'a'] := by
    decide +kernel
  rw [hparts]
  exact Lookup.leadsNowhere_of_realPath (realPath_siteTree _ (by decide +kernel))
    (by decide +kernel)

/-- **Nothing behind a path can be a failure**: a path with the character NUL in it and one that is
too long are not answered with status 404. -/
theorem failsForNothing_siteTree :
    siteApp.FailsForNothing siteTree ⟨"GET", "/a%00b", [], []⟩ ∧
      siteApp.FailsForNothing siteTree ⟨"GET", '/' :: List.replicate 256 'a', [], []⟩ :=
  ⟨failsForNothing_nul, failsForNothing_long⟩

end App

end StaticServer
