import StaticServer.Proofs.Http.Validator
import StaticServer.Proofs.Program.Independence
import StaticServer.Proofs.Site.Confinement
import StaticServer.Proofs.Site.Denial
import StaticServer.Proofs.Site.Inner

/-!
# Asking again for a file

A client that has been sent a whole file keeps its tag and its date, and sends them back when it
asks for the same target again (`App.Validates`, `Request.AsksAgain`). What happens in between is
any steps of a session.

As long as the tree is the same, so is the choice, and the file that is chosen is found to be the
one that the client has: before the method and the ranges of a request are looked at, it is answered
with the tag alone. In the other direction, a client that sends tags is told that its version is the
current one only when the tag of the file as it is now is among them. A file of another size, or
with a modification time that is another number of seconds, has another tag, unless the digests
collide, and so is sent again (`Session.revalidation`).

Modification times are finer than the numbers that tags are made of: two of them can be the same
number of seconds, and then the new content of a file is never sent to a client that has the old one
(`Session.not_renewed_instantSession`).
-/

namespace StaticServer

/-- What is chosen for a request depends on its path alone. -/
theorem Site.choose_congr (s : Site) (v : Lookup.View) {r other : Request}
    (hpath : other.path = r.path) : s.choose v other = s.choose v r := by
  have hlocation : Location.path other = Location.path r := by
    rw [Location.path, Location.path, hpath]
  simp only [choose, index, orMissingPage, orListing, hpath, hlocation]

namespace App

variable {app : App} {t : FileTree} {r : Request} {place : Path} {data : FileData} {v : Validator}

/-! ### From the version of a file to the response -/

/-- The response made of a file that is chosen. -/
theorem handle_of_file (hready : app.IsReady t r)
    (hchoose : app.site.choose ⟨t, r.denied⟩ r = .ok (.file place data))
    (hv : Validator.ofFile? data = some v) :
    ∃ f : ServedFile, f.content = data.content ∧ f.validator = v ∧
      (app.handle t r).1 = finish r (.ok (f.respond app.site.boundary r)) := by
  obtain ⟨f, hfile, hcontent, hvalidator⟩ : ∃ f,
      ServedFile.of? (place.getLast?.getD []) data = some f ∧ f.content = data.content ∧
        f.validator = v :=
    ⟨⟨_, data.content, v⟩, by rw [ServedFile.of?, hv, Option.map_some], rfl, rfl⟩
  refine ⟨f, hcontent, hvalidator, ?_⟩
  rw [handle_of_isReady hready, Site.answer_of_choose hchoose, Site.present,
    Site.sendFile_of_eq_some hfile]

/-- A client that has the version is sent the tag and nothing else. -/
theorem notModified_of_isFresh (hready : app.IsReady t r)
    (hchoose : app.site.choose ⟨t, r.denied⟩ r = .ok (.file place data))
    (hv : Validator.ofFile? data = some v) (hfresh : v.isFresh r = true) :
    (app.handle t r).1.status = 304 ∧ (app.handle t r).1.body = [] ∧
      (app.handle t r).1.headers.valuesOf "etag" = [v.etag] ∧
      (app.handle t r).1.HasDevHeaders := by
  obtain ⟨f, -, rfl, hresponse⟩ := handle_of_file hready hchoose hv
  rw [hresponse, f.respond_of_isFresh app.site.boundary hfresh]
  refine ⟨status_finish_ok _, ?_, ?_, hasDevHeaders_finish_ok _⟩
  · rw [finish, body_deliver_put, deliver]
    split <;> rfl
  · rw [finish, headers_deliver, DevHeaders.valuesOf_put (by decide) (by decide) (by decide)]
    rfl

/-- A client that has not is sent the file with its tag. -/
theorem whole_of_not_isFresh (hready : app.IsReady t r)
    (hchoose : app.site.choose ⟨t, r.denied⟩ r = .ok (.file place data))
    (hv : Validator.ofFile? data = some v) (hfresh : v.isFresh r = false)
    (hrange : r.header? "range" = none) :
    (app.handle t r).1.status = 200 ∧
      (app.handle t r).1.body = ServedFile.bodyFor r data.content ∧
      (app.handle t r).1.headers.valuesOf "etag" = [v.etag] := by
  obtain ⟨f, hcontent, rfl, hresponse⟩ := handle_of_file hready hchoose hv
  rw [hresponse, f.respond_of_not_isFresh app.site.boundary hfresh hrange]
  refine ⟨status_finish_ok _, ?_, ?_⟩
  · rw [finish, body_deliver_put, ← hcontent, deliver]
    split
    · next hmethod =>
      have hverb : r.verb = "HEAD" := by
        rw [Request.verb, hmethod]
        decide
      exact (ServedFile.bodyFor_of_head hverb f.content).symm
    · rfl
  · rw [finish, headers_deliver, DevHeaders.valuesOf_put (by decide) (by decide) (by decide)]
    rfl

/-- **Status 304 is for a file** of which the client has the version that is there. -/
theorem exists_isFresh_of_status (h : (app.handle t r).1.status = 304) :
    ∃ place data v, app.site.choose ⟨t, r.denied⟩ r = .ok (.file place data) ∧
      Validator.ofFile? data = some v ∧ v.isFresh r = true := by
  obtain ⟨a, -, hmakes, hstatus⟩ := exists_makes_of_status (by decide) h
  cases hmakes with
  | file _ hchoose hfile =>
    obtain ⟨v, hv, rfl⟩ := Option.map_eq_some_iff.1 hfile
    exact ⟨_, _, v, hchoose, hv, ServedFile.isFresh_of_status hstatus⟩
  | _ => cases hstatus

/-! ### The first request -/

/-- A request without range and conditions gets a whole file, with a tag and a date for it. -/
structure Validates (app : App) (t : FileTree) (r : Request) (etag date : Text) : Prop where
  /-- It asks for no range and sets no condition. -/
  plain : r.IsPlain
  /-- It is answered with success. -/
  status : (app.handle t r).1.status = 200
  /-- The response has the tag. -/
  tag : (app.handle t r).1.headers.valuesOf "etag" = [etag]
  /-- The response has the date. -/
  date : (app.handle t r).1.headers.valuesOf "last-modified" = [date]

/-- A tag and a date come from a file that is chosen. -/
theorem Validates.exists_file {etag date : Text} (h : app.Validates t r etag date) :
    ∃ place data v, app.site.choose ⟨t, r.denied⟩ r = .ok (.file place data) ∧
      Validator.ofFile? data = some v ∧ v.etag = etag ∧ v.lastModified = date := by
  obtain ⟨hplain, hstatus, htag, hdate⟩ := h
  obtain ⟨a, hinner, hmakes, hstatus⟩ := exists_makes_of_status (by decide) hstatus
  rw [handle_of_inner? hinner, headers_deliver,
    DevHeaders.valuesOf_put (by decide) (by decide) (by decide)] at htag hdate
  cases hmakes with
  | @file place data f _ hchoose hfile =>
    rw [f.respond_of_isPlain app.site.boundary hplain] at htag hdate
    obtain ⟨v, hv, rfl⟩ := Option.map_eq_some_iff.1 hfile
    exact ⟨place, data, v, hchoose, hv, (List.cons.inj htag).1, (List.cons.inj hdate).1⟩
  -- a listing has no tag, and all other responses have other statuses
  | listing => cases htag
  | _ => cases hstatus

end App

namespace Session

variable {s now : Session} {r : Request} {etag date : Text}

/-! ### Later requests -/

/-- The response to a request at some time in a session. -/
def answer (s : Session) (r : Request) : Response :=
  (s.app.handle s.tree r).1

/-- After a request that is answered from the files it is never asked again whether the root is
there. -/
theorem app_after_of_isReady (h : s.app.IsReady s.tree r) (steps : List Step) :
    (s.after (.ask r :: steps)).app = { s.app with checked := true } := by
  obtain ⟨b, hb⟩ := (s.step (.ask r)).1.exists_app_after steps
  have hfirst : (s.step (.ask r)).1.app = { s.app with checked := true } :=
    congrArg Prod.snd (App.handle_of_isReady h)
  rw [after, hb, hfirst, App.found, Bool.true_or]

/-- A later request for the same target is answered from the files of the same site. -/
theorem isReady_after (h : s.app.IsReady s.tree r) {steps : List Step}
    (hnow : s.after (.ask r :: steps) = now) {again : Request} (hpath : again.path = r.path) :
    now.app.site = s.app.site ∧ now.app.IsReady now.tree again := by
  have happ : now.app = { s.app with checked := true } := by
    rw [← hnow, app_after_of_isReady h]
  rw [happ]
  refine ⟨rfl, ?_, Bool.true_or _⟩
  rw [hpath]
  exact h.1

/-- **Asking again for a file.** In any session, let a request get a whole file with a tag and a
date; let any steps follow, and then any request for the same target.

If the tree is the same and nothing more is denied, and the request sends back the tag, or a star,
or without any tags the date, then it is answered with status 304, without a body, with the tag and
with the headers for development, whatever its method and its ranges are.

If it sends tags, and no star, then only a list that names the tag of the file that is there now is
answered with status 304.

If a file is there, and can be dated, that has another size or another number of seconds as its
modification time, and the digests do not collide, then a request for the whole file with the old
tag alone gets it, with its new tag, whatever date it sends. -/
theorem revalidation (h : s.app.Validates s.tree r etag date) {steps : List Step}
    (hnow : s.after (.ask r :: steps) = now) (again : Request) (htarget : again.target = r.target) :
    (now.tree = s.tree → again.denied ⊆ r.denied → again.AsksAgain etag date →
      (now.answer again).status = 304 ∧ (now.answer again).body = [] ∧
        (now.answer again).headers.valuesOf "etag" = [etag] ∧
        (now.answer again).HasDevHeaders) ∧
    (∀ tags, again.header? "if-none-match" = some tags → tags ≠ [] → Text.trim tags ≠ "*" →
      (now.answer again).status = 304 →
      ∃ place q data, now.app.site.choose ⟨now.tree, again.denied⟩ again =
          .ok (.file place data) ∧
        now.tree.resolve (Path.text place) = .ok q ∧ now.tree.get? q = some (.file data) ∧
        Validator.NamesTag (Validator.etagOf data) tags) ∧
    ∃ place data, s.app.site.choose ⟨s.tree, r.denied⟩ r = .ok (.file place data) ∧
      etag = Validator.etagOf data ∧
      ∀ place' data', now.app.site.choose ⟨now.tree, again.denied⟩ again =
          .ok (.file place' data') → (Validator.ofFile? data').isSome = true →
        (Timestamp.seconds data'.modified ≠ Timestamp.seconds data.modified ∨
          data'.content.length ≠ data.content.length) →
        (Md5.hexDigest (Validator.fingerprint data') = Md5.hexDigest (Validator.fingerprint data) →
          Validator.fingerprint data' = Validator.fingerprint data) →
        again.header? "if-none-match" = some etag → again.header? "range" = none →
        (now.answer again).status = 200 ∧
          (now.answer again).body = ServedFile.bodyFor again data'.content ∧
          (now.answer again).headers.valuesOf "etag" = [Validator.etagOf data'] := by
  have hpath : again.path = r.path := by rw [Request.path, Request.path, htarget]
  obtain ⟨hsite, hready⟩ := isReady_after (App.isReady_of_status h.status) hnow hpath
  obtain ⟨place, data, v, hchoose, hv, rfl, rfl⟩ := h.exists_file
  refine ⟨fun htree hdenied hasks ↦ ?_, fun tags htags hne hstar hstatus ↦ ?_, place, data, hchoose,
    (Validator.ofFile?_eq_some hv).1, ?_⟩
  · -- the same file is chosen again
    have hagain : now.app.site.choose ⟨now.tree, again.denied⟩ again = .ok (.file place data) := by
      rw [Site.choose_congr _ _ hpath, hsite, htree]
      exact Site.choose_ok_of_subset hdenied hchoose
    exact App.notModified_of_isFresh hready hagain hv (Validator.isFresh_of_asksAgain hv hasks)
  · obtain ⟨place', data', v', hchoose', hv', hfresh⟩ := App.exists_isFresh_of_status hstatus
    obtain ⟨q, hresolve, hentry⟩ := App.exists_resolve_of_choose hchoose' rfl
    have hnamed := (Validator.isFresh_iff hv' htags hne).1 hfresh
    exact ⟨place', q, data', hchoose', hresolve, hentry, hnamed.resolve_left hstar⟩
  · intro place' data' hchoose' hdated hchanged hdigest htags hrange
    obtain ⟨v', hv'⟩ := Option.isSome_iff_exists.1 hdated
    have hversion : Validator.fingerprint data' ≠ Validator.fingerprint data := by
      rw [ne_eq, Validator.fingerprint_inj, not_and_or]
      exact hchanged
    rw [(Validator.ofFile?_eq_some hv).1] at htags
    rw [← (Validator.ofFile?_eq_some hv').1]
    exact App.whole_of_not_isFresh hready hchoose' hv'
      (Validator.isFresh_eq_false hv' htags hversion hdigest) hrange

/-- A session with a file of one byte. -/
def instantSession : Session :=
  ⟨App.siteApp, ⟨[(["site"], .directory),
    (["site", "a.txt"], .file ⟨Text.Utf8.encode "a", 9000000000000026⟩)], [], by decide⟩⟩

/-- A request for that file. -/
def instantRequest (method : Text) (headers : Headers) : Request :=
  ⟨method, "/a.txt", headers, []⟩

/-- The tag of the file. -/
def instantTag : Text :=
  "\x22c77446d21491ec5c572b52cf1541e4b9\x22"

/-- The date of the file. -/
def instantDate : Text :=
  "Wed, 15 Apr 1970 04:00:00 GMT"

/-- The session after a request for the file and after the file is written anew. -/
def rewrittenSession (data : FileData) : Session :=
  instantSession.after [.ask (instantRequest "GET" []), .putFile "site/a.txt" data]

/-- A request in another way, with a list of tags and a range. -/
def listRequest : Request :=
  instantRequest "POST" [("if-none-match", "\x22x\x22, W/" ++ instantTag), ("range", "bytes=0-0")]

/-- A request with the tag and the date. -/
def tagRequest : Request :=
  instantRequest "GET" [("if-none-match", instantTag), ("if-modified-since", instantDate)]

/-- The file is asked for with a list of tags, and is not sent; it is written anew with another
size, and is sent again although the date is the same. -/
theorem revalidation_instantSession :
    ((instantSession.after [.ask (instantRequest "GET" [])]).answer listRequest).status = 304 ∧
    ((rewrittenSession ⟨Text.Utf8.encode "bc", 9000000000000026⟩).answer tagRequest).body =
      Text.Utf8.encode "bc" := by
  have hfirst : instantSession.app.Validates instantSession.tree (instantRequest "GET" [])
      instantTag instantDate :=
    ⟨⟨rfl, rfl, rfl⟩, by decide +kernel, by decide +kernel, by decide +kernel⟩
  constructor
  · obtain ⟨hsame, -⟩ := revalidation hfirst
      (rfl : instantSession.after [.ask (instantRequest "GET" [])] = _) listRequest rfl
    exact (hsame rfl (List.Subset.refl _) (.inl ⟨_, rfl, .inr (by decide +kernel)⟩)).1
  · have hnow : instantSession.after [.ask (instantRequest "GET" []), .putFile "site/a.txt"
        ⟨Text.Utf8.encode "bc", 9000000000000026⟩] = rewrittenSession _ := rfl
    obtain ⟨-, -, place, data, hchoose, -, hrenewed⟩ := revalidation hfirst hnow tagRequest rfl
    have hfile : instantSession.app.site.choose ⟨instantSession.tree, []⟩
        (instantRequest "GET" []) =
          .ok (.file ["site", "a.txt"] ⟨Text.Utf8.encode "a", 9000000000000026⟩) := by
      decide +kernel
    obtain ⟨rfl, rfl⟩ := Site.Choice.file.inj (Except.ok.inj (hchoose.symm.trans hfile))
    exact (hrenewed ["site", "a.txt"] ⟨Text.Utf8.encode "bc", 9000000000000026⟩
      (by decide +kernel) (by decide +kernel) (.inr (by decide)) (by decide +kernel) rfl rfl).2.1

/-- **A file can be written anew and keep its tag**, with another modification time that is the same
number of seconds: a client that has the old content is told that it is not modified. And with a
modification time that no date can show it is not sent at all. -/
theorem not_renewed_instantSession :
    instantSession.app.Validates instantSession.tree (instantRequest "GET" []) instantTag
      instantDate ∧
    (rewrittenSession ⟨Text.Utf8.encode "b", 9000000000000027⟩).tree.get? ["site", "a.txt"] =
      some (.file ⟨Text.Utf8.encode "b", 9000000000000027⟩) ∧
    ((rewrittenSession ⟨Text.Utf8.encode "b", 9000000000000027⟩).answer
      (instantRequest "GET" [("if-none-match", instantTag)])).status = 304 ∧
    ((rewrittenSession ⟨Text.Utf8.encode "b", 10 ^ 21⟩).answer
      (instantRequest "GET" [("if-none-match", instantTag)])).status = 500 :=
  ⟨⟨⟨rfl, rfl, rfl⟩, by decide +kernel, by decide +kernel, by decide +kernel⟩, by decide +kernel,
    by decide +kernel, by decide +kernel⟩

end Session

end StaticServer
