import StaticServer.Proofs.Program.Serving

/-!
# Confinement to the root

A response is confined to the root (`App.IsConfined`) when nothing in the files outside the real
root has an influence on it, and when a listing that it shows is that of a directory inside. The
first is a statement about two trees; it holds exactly when the one entry that the response is made
of stands inside (`App.isConfined_iff`), since the lookups before hand the data of files on without
reading it.

The lookups compare the real path with that of the root, but look at the entry by following the real
path once more. In a tree without link loops a real path has no links in it, the second way stays
where the first one ended, and every response is confined. A loop cuts the first way short: what is
left of the path is taken as it stands, so that the real path can end in a link that leads outside,
which only the second way follows.
-/

namespace StaticServer.App

variable {app : App} {t : FileTree} {r : Request} {q : Path}

/-! ### What a response shows -/

/-- The response to a request is made of the entry at a place. -/
inductive Shows (app : App) (t : FileTree) (r : Request) : Path → Prop
  /-- A file. -/
  | file {place q : Path} {data : FileData} (hready : app.IsReady t r)
      (hchoose : app.site.choose ⟨t, r.denied⟩ r = .ok (.file place data))
      (hresolve : t.resolve (Path.text place) = .ok q) : Shows app t r q
  /-- The page for missing files. -/
  | missingPage {place q : Path} {data : FileData} (hready : app.IsReady t r)
      (hchoose : app.site.choose ⟨t, r.denied⟩ r = .ok (.missingPage place data))
      (hresolve : t.resolve (Path.text place) = .ok q) : Shows app t r q
  /-- A directory, with the page that lists it. -/
  | listing {place q : Path} {page : Text} (hready : app.IsReady t r)
      (hchoose : app.site.choose ⟨t, r.denied⟩ r = .ok (.listing place))
      (hresolve : t.resolve (Path.text place) = .ok q)
      (hpage : Listing.render t (Path.text place) = .ok page) : Shows app t r q

/-- **Root confinement** of the response to a request. -/
structure IsConfined (app : App) (t : FileTree) (r : Request) : Prop where
  /-- Whatever bytes and times the files outside the real root have, the response is the same. -/
  files : ∀ g, app.handle (t.replaceOutside app.site.root g) r = app.handle t r
  /-- A listing is the page of a directory inside the real root. -/
  listings : ∀ place page, app.IsReady t r →
    app.site.choose ⟨t, r.denied⟩ r = .ok (.listing place) →
    Listing.render t (Path.text place) = .ok page →
    (app.handle t r).1 = finish r (.ok (Response.html page)) ∧
      ∃ d, t.resolve (Path.text place) = .ok d ∧ t.isDirectory d = true ∧
        t.isInside app.site.root d = true

/-! ### Showing only what is inside -/

/-- The entry that was found for a choice stands where the text of its place leads. -/
theorem exists_resolve_of_choose {s : Site} {v : Lookup.View} {c : Site.Choice}
    {found : Lookup.Found} (h : s.choose v r = .ok c) (hfound : c.found? = some found) :
    ∃ q, v.tree.resolve (Path.text found.place) = .ok q ∧ v.tree.get? q = some found.entry := by
  obtain ⟨parts, -, hfind⟩ := Site.exists_find_of_choose h hfound
  obtain ⟨-, -, -, hentry⟩ := Lookup.find_eq_ok_some_iff.1 hfind
  exact (Lookup.View.entry_eq_ok_iff.1 hentry).2

theorem seat_eq {place : Path} (h : t.resolve (Path.text place) = .ok q) :
    Lookup.seat t place = q := by
  rw [Lookup.seat, h]

/-- A choice that shows only what is inside is presented in the same way when the data of files
outside is replaced. -/
theorem present_replaceOutside {c : Site.Choice} (hready : app.IsReady t r)
    (hchoose : app.site.choose ⟨t, r.denied⟩ r = .ok c)
    (hinside : ∀ q, app.Shows t r q → t.isInside app.site.root q = true)
    (g : Path → FileData → FileData) :
    app.site.present (t.replaceOutside app.site.root g) r
        (c.mapFiles t fun p data ↦ if t.isInside app.site.root p then data else g p data) =
      app.site.present t r c := by
  cases c with
  | file place data =>
    obtain ⟨q, hresolve, -⟩ := exists_resolve_of_choose hchoose rfl
    have hq := hinside q (.file hready hchoose hresolve)
    rw [Site.Choice.mapFiles, seat_eq hresolve, if_pos hq]
    rfl
  | missingPage place data =>
    obtain ⟨q, hresolve, -⟩ := exists_resolve_of_choose hchoose rfl
    have hq := hinside q (.missingPage hready hchoose hresolve)
    rw [Site.Choice.mapFiles, seat_eq hresolve, if_pos hq]
    rfl
  | listing place =>
    rw [Site.Choice.mapFiles, Site.present, Site.present, Site.list, Site.list,
      FileTree.replaceOutside, Listing.render_mapFiles]
  | slash => rfl

theorem rootIsThere_mapFiles (s : Site) (g : Path → FileData → FileData) :
    rootIsThere s ⟨t.mapFiles g, r.denied⟩ = rootIsThere s ⟨t, r.denied⟩ := by
  have hdenied := (Lookup.View.mk t r.denied).isDenied_mapFiles g s.root
  rw [Lookup.View.mapFiles] at hdenied
  rw [rootIsThere, rootIsThere, hdenied, FileTree.leadsToDirectory_mapFiles]

/-- If all that is shown stands inside, other bytes outside change no response. -/
theorem isConfined_of_shows (hinside : ∀ q, app.Shows t r q → t.isInside app.site.root q = true) :
    app.IsConfined t r := by
  constructor
  · intro g
    have hroot : rootIsThere app.site ⟨t.replaceOutside app.site.root g, r.denied⟩ =
        rootIsThere app.site ⟨t, r.denied⟩ := rootIsThere_mapFiles app.site _
    by_cases hready : app.IsReady t r
    · have hready' : app.IsReady (t.replaceOutside app.site.root g) r := by
        rw [IsReady, hroot]
        exact hready
      -- the choice is the same up to the bytes of a file, and those are the same inside
      have hchoose := app.site.choose_mapFiles ⟨t, r.denied⟩ r
        fun p data ↦ if t.isInside app.site.root p then data else g p data
      have hanswer : app.site.answer (t.replaceOutside app.site.root g) r =
          app.site.answer t r := by
        rw [Site.answer, Site.answer]
        rw [Lookup.View.mapFiles, ← FileTree.replaceOutside] at hchoose
        rw [hchoose]
        rcases hc : app.site.choose ⟨t, r.denied⟩ r with refusal | c
        · rfl
        · exact present_replaceOutside hready hc hinside g
      rw [handle_of_isReady hready, handle_of_isReady hready', hanswer]
    · exact handle_congr hready hroot
  · intro place page hready hchoose hpage
    obtain ⟨d, hresolve, hget⟩ := exists_resolve_of_choose hchoose rfl
    refine ⟨?_, d, hresolve, by simpa [FileTree.isDirectory] using hget,
      hinside d (.listing hready hchoose hresolve hpage)⟩
    rw [handle_of_isReady hready, Site.answer, hchoose]
    simp only [Site.present, Site.list, hpage]

/-! ### Telling what is outside -/

/-- A file that is sent with a status of its own gets the status of a failure exactly when no date
can show its modification time. -/
theorem status_finish_sendFile_eq_iff (place : Path) (data : FileData)
    {make : ServedFile → Response} (hmake : ∀ f, (make f).status ≠ 500) :
    (finish r (Site.sendFile place data make)).status = 500 ↔
      (Validator.ofFile? data).isSome = false := by
  rcases hsome : (Validator.ofFile? data).isSome with - | -
  · rw [Site.sendFile_of_isNone hsome, status_finish_failed]
    exact iff_of_true rfl rfl
  · obtain ⟨f, -, hsend⟩ := Site.sendFile_of_isSome place hsome
    rw [hsend, status_finish_ok]
    exact iff_of_false (hmake f) (by simp)

/-- A file outside has an influence on the response that is made of it: with another modification
time there is a failure where there was none, or none where there was one. -/
theorem not_isConfined_of_outside {place : Path} {data : FileData} (make : ServedFile → Response)
    (c : FileData → Site.Choice) (hmake : ∀ f, (make f).status ≠ 500)
    (hready : app.IsReady t r) (hchoose : app.site.choose ⟨t, r.denied⟩ r = .ok (c data))
    (hmap : ∀ g, (c data).mapFiles t g = c (g q data))
    (hpresent : ∀ u data, app.site.present u r (c data) = Site.sendFile place data make)
    (houtside : t.isInside app.site.root q = false) : ¬ app.IsConfined t r := by
  intro hconfined
  -- a modification time that can be shown exactly when the present one cannot
  obtain ⟨modified, hmodified⟩ :=
    Validator.exists_modified data !(Validator.ofFile? data).isSome
  let g : Path → FileData → FileData := fun _ data ↦ { data with modified := modified }
  have hroot : rootIsThere app.site ⟨t.replaceOutside app.site.root g, r.denied⟩ =
      rootIsThere app.site ⟨t, r.denied⟩ := rootIsThere_mapFiles app.site _
  have hready' : app.IsReady (t.replaceOutside app.site.root g) r := by
    rw [IsReady, hroot]
    exact hready
  have hchoose' : app.site.choose ⟨t.replaceOutside app.site.root g, r.denied⟩ r =
      .ok (c { data with modified := modified }) := by
    have hmapped := app.site.choose_mapFiles ⟨t, r.denied⟩ r
      fun p data ↦ if t.isInside app.site.root p then data else g p data
    rw [Lookup.View.mapFiles, ← FileTree.replaceOutside, hchoose] at hmapped
    rw [hmapped, Except.map, hmap, houtside]
    rfl
  have hsame := congrArg (fun x ↦ x.1.status) (hconfined.files g)
  simp only [handle_of_isReady hready, handle_of_isReady hready', Site.answer, hchoose, hchoose',
    hpresent] at hsame
  have hiff := status_finish_sendFile_eq_iff place data hmake (r := r)
  have hiff' :=
    status_finish_sendFile_eq_iff place { data with modified := modified } hmake (r := r)
  rw [hsame, hiff, hmodified] at hiff'
  generalize (Validator.ofFile? data).isSome = dated at hiff'
  cases dated <;> simp at hiff'

/-- Of what stands outside nothing is shown, if a response does not change with it. -/
theorem IsConfined.isInside (h : app.IsConfined t r) (hq : app.Shows t r q) :
    t.isInside app.site.root q = true := by
  by_contra houtside
  rw [Bool.not_eq_true] at houtside
  cases hq with
  | @file place _ data hready hchoose hresolve =>
    refine not_isConfined_of_outside (·.respond app.site.boundary r) (.file place)
      (fun f ↦ f.respond_status_ne app.site.boundary r) hready hchoose (fun g ↦ ?_)
      (fun _ _ ↦ rfl) houtside h
    rw [Site.Choice.mapFiles, seat_eq hresolve]
  | @missingPage place _ data hready hchoose hresolve =>
    refine not_isConfined_of_outside (·.whole 404 r) (.missingPage place)
      (fun f hstatus ↦ ?_) hready hchoose (fun g ↦ ?_) (fun _ _ ↦ rfl) houtside h
    · exact absurd (show 404 = 500 from hstatus) (by decide)
    · rw [Site.Choice.mapFiles, seat_eq hresolve]
  | @listing place _ page hready hchoose hresolve hpage =>
    obtain ⟨-, d, hd, -, hinside⟩ := h.listings place page hready hchoose hpage
    obtain rfl : q = d := Except.ok.inj (hresolve.symm.trans hd)
    rw [hinside] at houtside
    cases houtside

/-! ### Trees without loops -/

/-- What is chosen in a tree without loops is looked at where it was found, inside the root. -/
theorem isInside_of_choose {s : Site} {denied : List Text} {c : Site.Choice}
    {found : Lookup.Found} (hroot : s.root.IsPlain) (hloop : t.LoopFree)
    (hchoose : s.choose ⟨t, denied⟩ r = .ok c) (hfound : c.found? = some found)
    (hresolve : t.resolve (Path.text found.place) = .ok q) : t.isInside s.root q = true := by
  obtain ⟨parts, hslash, hfind⟩ := Site.exists_find_of_choose hchoose hfound
  obtain ⟨-, hplace, ⟨directory, hdirectory, hwithin⟩, -⟩ := Lookup.find_eq_ok_some_iff.1 hfind
  have hleads := hloop.leadsTo_of_realPath (Lookup.slash_not_mem_of_mem_append hroot hslash) hplace
  obtain rfl := hleads.settled.eq_of_resolve_text hleads.plain hresolve
  exact (hleads.settled.isInside_iff hleads.plain).2 ⟨directory, hdirectory, hwithin⟩

/-- In a tree without loops of links all that is shown stands inside. -/
theorem isInside_of_shows (hroot : app.site.root.IsPlain) (hloop : t.LoopFree)
    (hq : app.Shows t r q) : t.isInside app.site.root q = true := by
  cases hq with
  | file hready hchoose hresolve => exact isInside_of_choose hroot hloop hchoose rfl hresolve
  | missingPage hready hchoose hresolve =>
    exact isInside_of_choose hroot hloop hchoose rfl hresolve
  | listing hready hchoose hresolve hpage =>
    exact isInside_of_choose hroot hloop hchoose rfl hresolve

/-! ### The condition for confinement -/

/-- **A response is confined to the root exactly when what it shows is inside**, for every
application in use, every tree and every request; and that is so in every tree without loops. -/
theorem isConfined_iff (h : app.Reached) :
    (app.IsConfined t r ↔ ∀ q, app.Shows t r q → t.isInside app.site.root q = true) ∧
      (t.LoopFree → app.IsConfined t r) := by
  refine ⟨⟨fun hconfined q hq ↦ hconfined.isInside hq, isConfined_of_shows⟩, fun hloop ↦ ?_⟩
  exact isConfined_of_shows fun q hq ↦ isInside_of_shows h.isPlain hloop hq

/-- A file beside the directory that is served, and a link out of that directory to it. -/
def linkedTree : FileTree :=
  ⟨[(["secret.txt"], .file ⟨Text.Utf8.encode "top secret", 1700000000000000000⟩),
    (["site"], .directory), (["site", "out"], .link "../secret.txt")], [], by decide⟩

/-- The same with a link to itself and a path through that link to the one that leads out. -/
def loopTree : FileTree :=
  ⟨[(["secret.txt"], .file ⟨Text.Utf8.encode "top secret", 1700000000000000000⟩),
    (["site"], .directory), (["site", "out"], .link "../secret.txt"),
    (["site", "loop"], .link "loop"), (["site", "a"], .link "loop/../out")], [], by decide⟩

/-- The case of a link that leads out of the root. -/
theorem isConfined_linkedTree : siteApp.Reached ∧ linkedTree.LoopFree ∧
    siteApp.IsConfined linkedTree ⟨"GET", "/out", [], []⟩ := by
  have hloop : linkedTree.LoopFree := by decide +kernel
  exact ⟨siteApp_reached, hloop, (isConfined_iff siteApp_reached).2 hloop⟩

/-- **A loop opens a way out**: a file outside the root is served, with whatever bytes it has. -/
theorem not_isConfined_loopTree : siteApp.Reached ∧
    ¬ siteApp.IsConfined loopTree ⟨"GET", "/a", [], []⟩ := by
  refine ⟨siteApp_reached, fun h ↦ ?_⟩
  have hsame := congrArg (fun x ↦ x.1.body)
    (h.files fun _ data ↦ { data with content := Text.Utf8.encode "changed" })
  revert hsame
  decide +kernel

end StaticServer.App
