import Mathlib.Algebra.Group.Int.Defs
import StaticServer.Proofs.Program.Serving
import StaticServer.Proofs.Text.Percent

/-!
# Files, however their path is written

A request whose path leads to a regular file inside the root gets exactly the bytes of that file,
and a request that gets status 200 without a directory behind its path has such a file behind it
(`App.file_service`). The file has to be one that can be sent: its real path is short enough to be
looked at, and a date can show its modification time (`App.Reaches`).

What the path leads to is decided by its lexical normal form alone. So every way to write the path
is the same: with other characters percent-encoded (`Text.Percent.Spells`), and with more or fewer
of the parts that the normal form drops (`Path.Reduces`).
-/

namespace StaticServer

/-- The path part of a target that spells a text is that text. -/
theorem Request.path_eq_of_spells {r : Request} {p : Text}
    (h : Text.Percent.Spells (Text.cut '?' r.target).1 p) : r.path = p :=
  h.decode_eq

namespace App

open Lookup

variable {app : App} {t : FileTree} {r : Request} {q : Path} {data : FileData}

/-- The path of a request leads to a regular file inside the root. -/
structure LeadsToFile (app : App) (t : FileTree) (r : Request) (q : Path) (data : FileData) :
    Prop where
  /-- The path is not taken for foreign. -/
  native : isForeign (relativeParts r.path) = false
  /-- Its normal form leads there from the root. -/
  leads : t.LeadsTo (app.site.root ++ relativeParts r.path) q
  /-- It is inside. -/
  inside : t.isInside app.site.root q = true
  /-- It is a regular file. -/
  stands : t.Stands q (.file data)

/-- The path of a request leads to a regular file inside the root that can be sent. -/
structure Reaches (app : App) (t : FileTree) (r : Request) (q : Path) (data : FileData) : Prop
    extends LeadsToFile app t r q data where
  /-- It can be looked at by its real path. -/
  short : t.resolve (Path.text q) = .ok q
  /-- A date can show its modification time. -/
  dated : (Validator.ofFile? data).isSome = true

/-- A path of a reached file in the same normal form reaches it, too. -/
theorem Reaches.congr {r' : Request} (h : app.Reaches t r q data)
    (hparts : relativeParts r'.path = relativeParts r.path) : app.Reaches t r' q data := by
  obtain ⟨⟨hnative, hleads, hinside, hstands⟩, hshort, hdated⟩ := h
  rw [← hparts] at hnative hleads
  exact ⟨⟨hnative, hleads, hinside, hstands⟩, hshort, hdated⟩

/-- A request for which files are served whole, and whose path starts with a slash. -/
structure AsksPlainly (app : App) (t : FileTree) (r : Request) : Prop where
  /-- The application serves, and nothing is denied. -/
  serves : app.Serves t r
  /-- The method is `GET`. -/
  get : r.verb = "GET"
  /-- There is no range and no condition. -/
  plain : r.IsPlain
  /-- The path starts with a slash. -/
  slash : r.path.head? = some '/'

theorem choose_of_file (hfind : find ⟨t, r.denied⟩ app.site.root (relativeParts r.path) =
      .ok (some ⟨q, .file data⟩)) :
    app.site.choose ⟨t, r.denied⟩ r = .ok (.file q data) := by
  simp only [Site.choose, hfind]

/-- A file that is found is served whole, with exactly its bytes, if a date can show its
modification time, and otherwise the request fails. -/
theorem served_iff_of_find (hready : app.IsReady t r) (hget : r.verb = "GET") (hplain : r.IsPlain)
    (hfind : find ⟨t, r.denied⟩ app.site.root (relativeParts r.path) =
      .ok (some ⟨q, .file data⟩)) :
    (app.handle t r).1.status = 200 ∧ (app.handle t r).1.body = data.content ↔
      (Validator.ofFile? data).isSome = true := by
  rw [handle_of_isReady hready, Site.answer_of_choose (choose_of_file hfind), Site.present]
  constructor
  · rintro ⟨hstatus, -⟩
    by_contra hdated
    rw [Site.sendFile_of_isNone (by simpa using hdated), status_finish_failed] at hstatus
    exact absurd hstatus (by decide)
  · intro hdated
    obtain ⟨f, hcontent, hsend⟩ := Site.sendFile_of_isSome q hdated
    rw [hsend, f.respond_of_isPlain app.site.boundary hplain, status_finish_ok,
      body_finish_whole hget]
    exact ⟨rfl, hcontent⟩

/-- **A file that is reached is served whole**, with exactly its bytes. -/
theorem Reaches.served (h : app.Reaches t r q data) (hasks : app.AsksPlainly t r) :
    (app.handle t r).1.status = 200 ∧ (app.handle t r).1.body = data.content := by
  have hfind := find_of_stands h.native h.leads h.inside h.stands h.short
  rw [← hasks.serves.denied] at hfind
  exact (served_iff_of_find (hasks.serves.isReady hasks.slash) hasks.get hasks.plain hfind).2
    h.dated

/-- The path of a request with status 200 leads somewhere. -/
theorem exists_leadsTo_of_status (hserves : app.Serves t r) (hloop : t.LoopFree)
    (hstatus : (app.handle t r).1.status = 200) :
    ∃ q, t.LeadsTo (app.site.root ++ relativeParts r.path) q := by
  have hroot := hserves.reached.isPlain
  have hslash : ∀ part ∈ relativeParts r.path, '/' ∉ part :=
    fun _ hpart ↦ Site.slash_not_mem_of_mem_relativeParts hpart
  rw [hserves.handle_eq (head?_eq_of_status hstatus)] at hstatus
  rcases hfind : find ⟨t, r.denied⟩ app.site.root (relativeParts r.path) with f | o
  · have hf : f ≠ .denied := by
      rw [hserves.denied] at hfind
      rcases find_eq_error hloop hroot hslash hfind with rfl | rfl <;> decide
    rw [status_of_fault hfind hf] at hstatus
    exact absurd hstatus (by decide)
  rcases (exists_find_iff hloop hroot hslash).1 ⟨o, hserves.denied ▸ hfind⟩ with
    hforeign | ⟨hnul, -⟩
  · exact absurd hstatus (status_ne_of_absent (find_of_isForeign hforeign) (by simp))
  · exact hloop.exists_leadsTo (slash_not_mem_of_mem_append hroot hslash)
      (nul_not_mem_of_mem_append hroot hnul)

/-- **Status 200 without a directory is for a file that is reached.** -/
theorem exists_reaches_of_status (hserves : app.Serves t r) (hloop : t.LoopFree)
    (hstatus : (app.handle t r).1.status = 200)
    (hdir : ∀ d, t.LeadsTo (app.site.root ++ relativeParts r.path) d → ¬ t.Stands d .directory) :
    ∃ q data, app.Reaches t r q data := by
  obtain ⟨q, hleads⟩ := exists_leadsTo_of_status hserves hloop hstatus
  obtain ⟨e, hnative, hinside, hstands, hshort, hfind⟩ :=
    exists_stands_of_status hserves hleads hstatus
  rw [hserves.handle_eq (head?_eq_of_status hstatus)] at hstatus
  rw [← hserves.denied] at hfind
  cases e with
  | file data =>
    refine ⟨q, data, ⟨hnative, hleads, hinside, hstands⟩, hshort, ?_⟩
    by_contra hdated
    rw [Site.answer_of_choose (choose_of_file hfind), Site.present,
      Site.sendFile_of_isNone (by simpa using hdated), status_finish_failed] at hstatus
    exact absurd hstatus (by decide)
  | directory => exact absurd hstands (hdir q hleads)
  | link target =>
    refine absurd hstatus (status_ne_of_absent hfind ?_)
    rintro found ⟨⟩
    exact ⟨target, rfl⟩

/-- **Exact file service, however the path is written.** A request gets the bytes of the file that
its path reaches; status 200 without a directory means that there is one; and requests whose targets
spell paths with the same simplifications get the same body when one of them reaches a file. -/
theorem file_service (hasks : app.AsksPlainly t r) (hloop : t.LoopFree) :
    (∀ q data, app.Reaches t r q data →
      (app.handle t r).1.status = 200 ∧ (app.handle t r).1.body = data.content) ∧
    ((app.handle t r).1.status = 200 →
      (∀ d, t.LeadsTo (app.site.root ++ relativeParts r.path) d → ¬ t.Stands d .directory) →
      ∃ q data, app.Reaches t r q data) ∧
    ∀ r' p p', app.AsksPlainly t r' →
      Text.Percent.Spells (Text.cut '?' r.target).1 p →
      Text.Percent.Spells (Text.cut '?' r'.target).1 p' →
      Relation.EqvGen Path.Reduces (Path.parts p) (Path.parts p') →
      (∃ q data, app.Reaches t r q data) →
      (app.handle t r').1.body = (app.handle t r).1.body := by
  refine ⟨fun q data h ↦ h.served hasks,
    fun hstatus hdir ↦ exists_reaches_of_status hasks.serves hloop hstatus hdir, ?_⟩
  rintro r' p p' hasks' hp hp' hsame ⟨q, data, h⟩
  have hparts : relativeParts r'.path = relativeParts r.path := by
    rw [relativeParts, relativeParts, Request.path_eq_of_spells hp, Request.path_eq_of_spells hp',
      Path.eqvGen_reduces_iff.1 hsame]
  rw [((h.congr hparts).served hasks').2, (h.served hasks).2]

/-- A file and a link to it. -/
def noteTree : FileTree :=
  ⟨[(["site"], .directory), (["site", "note.txt"], .file ⟨Text.Utf8.encode "hi", 0⟩),
    (["site", "n"], .link "note.txt")], [], by decide⟩

theorem asksPlainly_noteTree (target : Text)
    (hpath : Text.Percent.decode (Text.cut '?' target).1 ∈ [("/n" : Text), "/x/..//./n/"]) :
    siteApp.AsksPlainly noteTree ⟨"GET", target, [], []⟩ := by
  have hone : '\n' ∉ Text.Percent.decode (Text.cut '?' target).1 ∧
      (Text.Percent.decode (Text.cut '?' target).1).head? = some '/' := by
    rcases List.mem_cons.1 hpath with h | h
    · rw [h]
      decide
    · rw [List.mem_singleton.1 h]
      decide
  have hget : Text.asciiUpper "GET" = "GET" := by decide
  exact ⟨⟨siteApp_reached, by decide +kernel, rfl, hone.1⟩, hget, ⟨rfl, rfl, rfl⟩, hone.2⟩

/-- The case of a file and of another spelling of its address. -/
theorem file_service_noteTree :
    (siteApp.handle noteTree ⟨"GET", "/n", [], []⟩).1.status = 200 ∧
    (siteApp.handle noteTree ⟨"GET", "/n", [], []⟩).1.body = Text.Utf8.encode "hi" ∧
    (siteApp.handle noteTree ⟨"GET", "/x/..//./%6e/?q", [], []⟩).1.body =
      Text.Utf8.encode "hi" := by
  have hasks := asksPlainly_noteTree "/n" (by decide +kernel)
  have hasks' := asksPlainly_noteTree "/x/..//./%6e/?q" (by decide +kernel)
  have hreaches : siteApp.Reaches noteTree ⟨"GET", "/n", [], []⟩ ["site", "note.txt"]
      ⟨Text.Utf8.encode "hi", 0⟩ :=
    ⟨⟨by decide +kernel,
      (FileTree.destination?_eq_some_iff (by decide +kernel)).1 (by decide +kernel),
      by decide +kernel, by decide +kernel⟩, by decide +kernel, by decide +kernel⟩
  obtain ⟨hserved, -, hspelled⟩ := file_service hasks (by decide +kernel)
  obtain ⟨hstatus, hbody⟩ := hserved _ _ hreaches
  have hplain {c : Char} {t p : Text} (hc : c ≠ '%') (h : Text.Percent.Spells t p) :
      Text.Percent.Spells (c :: t) (c :: p) := .keep (fun heq ↦ absurd heq hc) h
  have hescaped : Text.Percent.Escapes (String.utf8EncodeChar 'n') "%6e" :=
    .cons (x := 6) (y := 14) rfl rfl .nil
  refine ⟨hstatus, hbody, ?_⟩
  refine (hspelled _ "/n" "/x/..//./n/" hasks' ?_ ?_ ?_ ⟨_, _, hreaches⟩).trans hbody
  · exact hplain (by decide) (hplain (by decide) .nil)
  · have hlast : Text.Percent.Spells ("%6e" ++ ['/']) ['n', '/'] :=
      .escape hescaped (hplain (by decide) .nil)
    iterate 9 refine hplain (by decide) ?_
    exact hlast
  · exact Path.eqvGen_reduces_iff.2 (by decide)

/-- A name that takes 252 bytes. -/
def longName : Text :=
  List.replicate 63 '𐍈'

/-- A file whose real path takes more than 4096 bytes. -/
def deepFile : Path :=
  ("site" : Text) :: (List.replicate 18 longName ++ [("f.txt" : Text)])

/-- A tree with that file, and links by which a short path leads to it. -/
def deepTree : FileTree :=
  ⟨(deepFile, .file ⟨Text.Utf8.encode "hi", 0⟩) ::
    (["site", "s"], .link (Text.join "/" (List.replicate 9 longName))) ::
    (["site", "u"], .link (Text.join "/" ("s" :: List.replicate 9 longName))) ::
    (List.range 19).map fun n ↦ ("site" :: List.replicate n longName, .directory), [],
    by decide +kernel⟩

/-- A tree with a file that was last modified later than a date can show. -/
def lateTree : FileTree :=
  ⟨[(["site"], .directory), (["site", "u"], .directory),
    (["site", "u", "f.txt"], .file ⟨Text.Utf8.encode "hi", 10 ^ 21⟩)], [], by decide⟩

/-- **A file can be out of reach** because its real path is too long, or because no date can show
when it was modified, although a short path leads to it. -/
theorem not_served_deepTree_lateTree :
    (siteApp.AsksPlainly deepTree ⟨"GET", "/u/f.txt", [], []⟩ ∧ deepTree.LoopFree ∧
      siteApp.LeadsToFile deepTree ⟨"GET", "/u/f.txt", [], []⟩ deepFile
        ⟨Text.Utf8.encode "hi", 0⟩ ∧
      (siteApp.handle deepTree ⟨"GET", "/u/f.txt", [], []⟩).1.status = 500) ∧
    siteApp.AsksPlainly lateTree ⟨"GET", "/u/f.txt", [], []⟩ ∧ lateTree.LoopFree ∧
      siteApp.LeadsToFile lateTree ⟨"GET", "/u/f.txt", [], []⟩ ["site", "u", "f.txt"]
        ⟨Text.Utf8.encode "hi", 10 ^ 21⟩ ∧
      (siteApp.handle lateTree ⟨"GET", "/u/f.txt", [], []⟩).1.status = 500 := by
  constructor
  all_goals
    exact ⟨⟨⟨siteApp_reached, by decide +kernel, rfl, by decide +kernel⟩, by decide,
      ⟨rfl, rfl, rfl⟩, by decide +kernel⟩, by decide +kernel, ⟨by decide +kernel,
      (FileTree.destination?_eq_some_iff (by decide +kernel)).1 (by decide +kernel),
      by decide +kernel, by decide +kernel⟩, by decide +kernel⟩

end App

end StaticServer
