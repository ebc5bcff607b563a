import StaticServer.Proofs.Site.Choice
import StaticServer.Site.App

/-!
# What an application answers

An application answers from its files when the path can be served and the root has been found
(`IsReady`); the response is then what `finish` makes of the answer of its site
(`handle_of_isReady`). The status of a response tells the cases apart: only a failure has status 500
(`status_finish_ne`), and only a failure is without the headers for development
(`hasDevHeaders_finish`).
-/

namespace StaticServer

/-! ### The headers for development -/

/-- A response has each of the headers for development exactly once. -/
def Response.HasDevHeaders (a : Response) : Prop :=
  a.headers.valuesOf "cache-control" = [("no-cache" : Text)] ∧
    a.headers.valuesOf "access-control-allow-origin" = [("*" : Text)]

namespace DevHeaders

/-- The two headers are there once, whatever was there before. -/
theorem valuesOf_withAlways (h : Headers) :
    (withAlways h).valuesOf "cache-control" = [("no-cache" : Text)] ∧
      (withAlways h).valuesOf "access-control-allow-origin" = [("*" : Text)] := by
  have hset : withAlways h = Headers.set "access-control-allow-origin" "*"
      (Headers.set "cache-control" "no-cache" h) := rfl
  rw [hset]
  refine ⟨?_, Headers.valuesOf_set_self _ _ _⟩
  rw [Headers.valuesOf_set_of_ne (by decide), Headers.valuesOf_set_self]

@[simp] theorem status_put (r : Request) (a : Response) : (put r a).status = a.status := by
  rw [put]
  split <;> rfl

@[simp] theorem body_put (r : Request) (a : Response) : (put r a).body = a.body := by
  rw [put]
  split <;> rfl

/-- **Every response that the headers are put on has each of them once.** -/
theorem hasDevHeaders_put (r : Request) (a : Response) : (put r a).HasDevHeaders := by
  obtain ⟨hcache, horigin⟩ := valuesOf_withAlways a.headers
  rw [put]
  split
  · constructor
    · exact (Headers.valuesOf_set_of_ne (by decide) _ _).trans hcache
    · exact (Headers.valuesOf_set_of_ne (by decide) _ _).trans horigin
  · exact ⟨hcache, horigin⟩

/-- A header that is neither for development nor the type has the values that it had. -/
theorem valuesOf_put {name : Text} (hcache : name ≠ "cache-control")
    (horigin : name ≠ "access-control-allow-origin") (htype : name ≠ "content-type") (r : Request)
    (a : Response) : (put r a).headers.valuesOf name = a.headers.valuesOf name := by
  have halways : (withAlways a.headers).valuesOf name = a.headers.valuesOf name := by
    have hset : withAlways a.headers = Headers.set "access-control-allow-origin" "*"
        (Headers.set "cache-control" "no-cache" a.headers) := rfl
    rw [hset, Headers.valuesOf_set_of_ne horigin, Headers.valuesOf_set_of_ne hcache]
  rw [put]
  split
  · exact (Headers.valuesOf_set_of_ne htype _ _).trans halways
  · exact halways

end DevHeaders

/-! ### Paths that can be served -/

/-- A path has a route if it starts with a slash and breaks no line before its last character. -/
theorem isRoutable_iff {path : Text} :
    isRoutable path = true ↔ ∃ rest, path = '/' :: rest ∧ '\n' ∉ rest.dropLast := by
  constructor
  · intro h
    unfold isRoutable at h
    split at h
    · next rest => exact ⟨rest, rfl, by simpa using h⟩
    · cases h
  · rintro ⟨rest, rfl, hrest⟩
    rw [isRoutable]
    simpa using hrest

theorem head?_of_isRoutable {path : Text} (h : isRoutable path = true) : path.head? = some '/' := by
  obtain ⟨rest, rfl, -⟩ := isRoutable_iff.1 h
  rfl

namespace App

variable {app : App} {t : FileTree} {r : Request}

/-! ### From an answer to a response -/

@[simp] theorem status_deliver (r : Request) (a : Response) : (deliver r a).status = a.status := by
  rw [deliver]
  split <;> rfl

@[simp] theorem headers_deliver (r : Request) (a : Response) :
    (deliver r a).headers = a.headers := by
  rw [deliver]
  split <;> rfl

theorem deliver_of_ne (hverb : r.verb ≠ "HEAD") (a : Response) : deliver r a = a := by
  refine if_neg fun hhead ↦ hverb ?_
  rw [Request.verb, hhead]
  decide

theorem ne_head_of_get (hget : r.verb = "GET") : r.verb ≠ "HEAD" := by
  rw [hget]
  decide

/-- The response that is sent for an answer of the files or for its refusal. -/
def finish (r : Request) : Except Refusal Response → Response
  | .ok a => deliver r (DevHeaders.put r a)
  | .error refusal => deliver r (((ofRefusal? refusal).map (DevHeaders.put r)).getD failure)

@[simp] theorem status_finish_ok (a : Response) : (finish r (.ok a)).status = a.status := by
  rw [finish, status_deliver, DevHeaders.status_put]

@[simp] theorem status_finish_failed : (finish r (.error .failed)).status = 500 := by
  rw [finish, status_deliver]
  rfl

@[simp] theorem status_finish_notFound : (finish r (.error .notFound)).status = 404 := by
  rw [finish, status_deliver]
  exact DevHeaders.status_put r _

@[simp] theorem status_finish_unauthorized : (finish r (.error .unauthorized)).status = 401 := by
  rw [finish, status_deliver]
  exact DevHeaders.status_put r _

/-- What the site answers gets the headers, -/
theorem hasDevHeaders_finish_ok (a : Response) : (finish r (.ok a)).HasDevHeaders := by
  rw [finish, Response.HasDevHeaders, headers_deliver]
  exact DevHeaders.hasDevHeaders_put r a

/-- and so does the answer that nothing was found, -/
theorem hasDevHeaders_finish_notFound : (finish r (.error .notFound)).HasDevHeaders := by
  rw [finish, Response.HasDevHeaders, headers_deliver]
  exact DevHeaders.hasDevHeaders_put r _

/-- and the one that a file may not be read. For a failure no such lemma holds. -/
theorem hasDevHeaders_finish_unauthorized : (finish r (.error .unauthorized)).HasDevHeaders := by
  rw [finish, Response.HasDevHeaders, headers_deliver]
  exact DevHeaders.hasDevHeaders_put r _

/-- A file that is to be sent is sent with the status that it is sent with, or fails. -/
theorem status_finish_sendFile (place : Path) (data : FileData) (make : ServedFile → Response) :
    (finish r (Site.sendFile place data make)).status = 500 ∨
      ∃ f, (finish r (Site.sendFile place data make)).status = (make f).status := by
  rcases hsome : (Validator.ofFile? data).isSome with - | -
  · rw [Site.sendFile_of_isNone hsome, status_finish_failed]
    exact .inl rfl
  · obtain ⟨f, -, hsend⟩ := Site.sendFile_of_isSome place hsome
    rw [hsend, status_finish_ok]
    exact .inr ⟨f, rfl⟩

/-- A whole file is sent to `GET` with exactly its bytes. -/
theorem body_finish_whole (hget : r.verb = "GET") (f : ServedFile) (status : Nat) :
    (finish r (.ok (f.whole status r))).body = f.content := by
  have hne := ne_head_of_get hget
  rw [finish, deliver_of_ne hne, DevHeaders.body_put, ServedFile.whole,
    ServedFile.bodyFor_of_ne hne]

theorem body_finish_html (hget : r.verb = "GET") (page : Text) :
    (finish r (.ok (Response.html page))).body = Text.Utf8.encode page := by
  rw [finish, deliver_of_ne (ne_head_of_get hget), DevHeaders.body_put]
  rfl

/-- A file is never sent as the page that lists a directory is sent: it says that it can be sent in
ranges. -/
theorem finish_whole_ne_html (f : ServedFile) (status : Nat) (page : Text) :
    finish r (.ok (f.whole status r)) ≠ finish r (.ok (Response.html page)) := by
  intro h
  have hvalues := congrArg (fun a ↦ a.headers.valuesOf "accept-ranges") h
  simp only [finish, headers_deliver] at hvalues
  rw [DevHeaders.valuesOf_put (by decide) (by decide) (by decide),
    DevHeaders.valuesOf_put (by decide) (by decide) (by decide)] at hvalues
  cases hvalues

/-! ### Answering from the files -/

/-- Is a request answered from the files? Its path can be served, and the root has been found or is
there. -/
def IsReady (app : App) (t : FileTree) (r : Request) : Prop :=
  isRoutable r.path = true ∧ (app.checked || rootIsThere app.site ⟨t, r.denied⟩) = true

/-- **A request that the application is ready for** is answered by the site, and the application has
found its root. -/
theorem handle_of_isReady (h : app.IsReady t r) :
    app.handle t r = (finish r (app.site.answer t r), { app with checked := true }) := by
  rw [handle, if_pos h.1, serve, if_pos h.2, fromFiles?]
  rcases app.site.answer t r with refusal | a <;> rfl

/-- A path that is not one line that starts with a slash is sent on or not found. -/
theorem handle_of_not_isRoutable (h : isRoutable r.path = false) :
    app.handle t r = (deliver r (DevHeaders.put r (reroute r)), app) := by
  rw [handle, if_neg (Bool.not_eq_true _ ▸ h)]
  rfl

/-- As long as the root is not there, a path that can be served fails. -/
theorem handle_of_rootMissing (hpath : isRoutable r.path = true)
    (hroot : (app.checked || rootIsThere app.site ⟨t, r.denied⟩) = false) :
    app.handle t r = (deliver r failure, app) := by
  have hchecked : app.checked = false := (Bool.or_eq_false_iff.1 hroot).1
  rw [handle, if_pos hpath, serve, if_neg (by rw [hroot]; exact Bool.false_ne_true)]
  show (deliver r failure, { app with checked := false }) = (deliver r failure, app)
  rw [← hchecked]

/-- **The three ways to answer a request**: from the files, with a failure, or by its path alone. -/
theorem isReady_or (app : App) (t : FileTree) (r : Request) : app.IsReady t r ∨
    isRoutable r.path = true ∧ (app.checked || rootIsThere app.site ⟨t, r.denied⟩) = false ∨
    isRoutable r.path = false := by
  rcases hpath : isRoutable r.path with - | -
  · exact .inr (.inr rfl)
  rcases hroot : app.checked || rootIsThere app.site ⟨t, r.denied⟩ with - | -
  · exact .inr (.inl ⟨rfl, rfl⟩)
  · exact .inl ⟨hpath, hroot⟩

/-- A request that is not answered from the files is answered in the same way over every tree in
which the root is there or not there alike. -/
theorem handle_congr {u : FileTree} (h : ¬ app.IsReady t r)
    (hroot : rootIsThere app.site ⟨u, r.denied⟩ = rootIsThere app.site ⟨t, r.denied⟩) :
    app.handle u r = app.handle t r := by
  rw [handle, handle]
  by_cases hpath : isRoutable r.path = true
  · have hmissing : ¬ (app.checked || rootIsThere app.site ⟨t, r.denied⟩) = true :=
      fun hthere ↦ h ⟨hpath, hthere⟩
    rw [if_pos hpath, if_pos hpath, serve, serve, hroot, if_neg hmissing, if_neg hmissing]
  · rw [if_neg hpath, if_neg hpath]

end App

end StaticServer
