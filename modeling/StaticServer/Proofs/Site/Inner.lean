import StaticServer.Proofs.Program.Serving

/-!
# The response inside the headers for development

An application makes a response, unless it fails, and then the headers for development are put on it
(`App.handle_of_inner?`). What can be made is listed by `App.Makes`, one case for each kind of
response with all that has led to it; whatever holds of these kinds and is kept by the headers for
development holds of every response but a failure (`App.makes_of_inner?`).

The headers for development are all that is changed on the way (`App.handle_keeps_inner`): two of
them are set on every response, the type of a module is set where the address names one and the
response is no error, and all other headers stay as they are, in their order.
-/

namespace StaticServer

/-! ### Setting a header -/

/-- Setting a header changes no other header, nor their order. -/
theorem Headers.filter_set (keep : Text → Bool) {name : Text} (hname : keep name = false)
    (value : Text) (h : Headers) :
    (h.set name value).filter (fun e ↦ keep e.1) = h.filter fun e ↦ keep e.1 := by
  induction h with
  | nil => simp [set, hname]
  | cons e rest ih =>
    obtain ⟨n, v⟩ := e
    rw [set]
    split
    · next hn =>
      subst hn
      rw [List.filter_cons_of_neg (by simp [hname]), List.filter_cons_of_neg (by simp [hname]),
        List.filter_filter]
      refine List.filter_congr fun e _ ↦ ?_
      by_cases he : e.1 = n
      · simp [he, hname]
      · simp [he]
    · rw [List.filter_cons, List.filter_cons, ih]

namespace DevHeaders

/-- The names of the headers that are set for development. -/
def names : List Text :=
  ["cache-control", "access-control-allow-origin", "content-type"]

/-- The headers that are not set for development. -/
def others (h : Headers) : Headers :=
  h.filter fun e ↦ !names.contains e.1

theorem others_set {name : Text} (hname : name ∈ names) (value : Text) (h : Headers) :
    others (h.set name value) = others h :=
  Headers.filter_set (fun n ↦ !names.contains n) (by simpa using hname) value h

theorem others_withAlways (h : Headers) : others (withAlways h) = others h := by
  have hset : withAlways h = Headers.set "access-control-allow-origin" "*"
      (Headers.set "cache-control" "no-cache" h) := rfl
  rw [hset, others_set (by decide), others_set (by decide)]

/-- All other headers stay as they are. -/
theorem others_put (r : Request) (a : Response) : others (put r a).headers = others a.headers := by
  rw [put]
  split
  · exact (others_set (by decide) _ _).trans (others_withAlways a.headers)
  · exact others_withAlways a.headers

/-- **The type of a response**: that of a module where the address names one and the response is no
error, and otherwise the one that it had. -/
theorem valuesOf_type_put (r : Request) (a : Response) :
    (put r a).headers.valuesOf "content-type" =
      if wasmSuffix <:+ Location.path r ∧ a.status < 400 then [MediaType.wasm]
      else a.headers.valuesOf "content-type" := by
  have halways : (withAlways a.headers).valuesOf "content-type" =
      a.headers.valuesOf "content-type" := by
    have hset : withAlways a.headers = Headers.set "access-control-allow-origin" "*"
        (Headers.set "cache-control" "no-cache" a.headers) := rfl
    rw [hset, Headers.valuesOf_set_of_ne (by decide), Headers.valuesOf_set_of_ne (by decide)]
  have hcond : (isForWasm r && a.status < 400) = true ↔
      wasmSuffix <:+ Location.path r ∧ a.status < 400 := by
    rw [Bool.and_eq_true, isForWasm, List.isSuffixOf_iff_suffix, decide_eq_true_eq]
  rw [put]
  by_cases h : wasmSuffix <:+ Location.path r ∧ a.status < 400
  · rw [if_pos (hcond.2 h), if_pos h]
    exact Headers.valuesOf_set_self _ _ _
  · rw [if_neg (fun htrue ↦ h (hcond.1 htrue)), if_neg h]
    exact halways

end DevHeaders

namespace App

variable {app : App} {t : FileTree} {r : Request} {a : Response}

/-! ### What is made of a request -/

/-- The response that the headers for development are put on; there is none when the application
fails. -/
def inner? (app : App) (t : FileTree) (r : Request) : Option Response :=
  if isRoutable r.path then (app.serve t r).1 else some (reroute r)

/-- A response is what is made, with the headers put on, or else the failure. -/
theorem handle_eq_inner? (app : App) (t : FileTree) (r : Request) : (app.handle t r).1 =
    deliver r (((app.inner? t r).map (DevHeaders.put r)).getD failure) := by
  rw [handle, inner?]
  by_cases hpath : isRoutable r.path = true
  · rw [if_pos hpath, if_pos hpath]
  · rw [if_neg hpath, if_neg hpath]

/-- What is made gets the headers, -/
theorem handle_of_inner? (h : app.inner? t r = some a) :
    (app.handle t r).1 = deliver r (DevHeaders.put r a) := by
  rw [handle_eq_inner?, h]
  rfl

/-- and the failure does not. -/
theorem handle_of_inner?_none (h : app.inner? t r = none) :
    (app.handle t r).1 = deliver r failure := by
  rw [handle_eq_inner?, h]
  rfl

/-- **The responses that an application makes**, each with what has led to it. -/
inductive Makes (app : App) (t : FileTree) (r : Request) : Response → Prop
  /-- The file that the path leads to, or an index page, as far as the request asks for it. -/
  | file {place : Path} {data : FileData} {f : ServedFile} (hpath : isRoutable r.path = true)
      (hchoose : app.site.choose ⟨t, r.denied⟩ r = .ok (.file place data))
      (hfile : ServedFile.of? (place.getLast?.getD []) data = some f) :
      Makes app t r (f.respond app.site.boundary r)
  /-- The page for missing files. -/
  | missingPage {place : Path} {data : FileData} {f : ServedFile} (hpath : isRoutable r.path = true)
      (hchoose : app.site.choose ⟨t, r.denied⟩ r = .ok (.missingPage place data))
      (hfile : ServedFile.of? (place.getLast?.getD []) data = some f) :
      Makes app t r (f.whole 404 r)
  /-- The page that lists a directory. -/
  | listing {place : Path} {page : Text} (hpath : isRoutable r.path = true)
      (hchoose : app.site.choose ⟨t, r.denied⟩ r = .ok (.listing place))
      (hpage : Listing.render t (Path.text place) = .ok page) : Makes app t r (Response.html page)
  /-- A redirect to the path with a slash. -/
  | slash (hpath : isRoutable r.path = true)
      (hchoose : app.site.choose ⟨t, r.denied⟩ r = .ok .slash) :
      Makes app t r (Response.redirect (Location.withSlash r))
  /-- A redirect to the path that is tried in the place of one that cannot be served. -/
  | otherPath (hpath : isRoutable r.path = false)
      (hother : isRoutable (otherPath r.path) = true) :
      Makes app t r (Response.redirect (Location.withPath r (StaticServer.otherPath r.path)))
  /-- There is nothing behind the path, or it cannot be served. -/
  | notFound : Makes app t r (Response.detail 404 "Not Found")
  /-- What is behind the path may not be looked at. -/
  | unauthorized : Makes app t r (Response.detail 401 "Unauthorized")

/-- What the site answers is one of the responses that are made. -/
theorem makes_of_answer (hpath : isRoutable r.path = true) (h : app.site.answer t r = .ok a) :
    app.Makes t r a := by
  rcases hchoose : app.site.choose ⟨t, r.denied⟩ r with refusal | choice
  · rw [Site.answer_of_choose_error hchoose] at h
    cases h
  rw [Site.answer_of_choose hchoose] at h
  cases choice with
  | file place data =>
    obtain ⟨f, hfile, rfl⟩ := Site.exists_of_sendFile h
    exact .file hpath hchoose hfile
  | missingPage place data =>
    obtain ⟨f, hfile, rfl⟩ := Site.exists_of_sendFile h
    exact .missingPage hpath hchoose hfile
  | listing place =>
    rw [Site.present, Site.list] at h
    split at h
    · next page hpage =>
      obtain rfl := Except.ok.inj h
      exact .listing hpath hchoose hpage
    · cases h
  | slash =>
    obtain rfl := Except.ok.inj h
    exact .slash hpath hchoose

/-- **What the headers for development are put on is one of these responses.** -/
theorem makes_of_inner? (h : app.inner? t r = some a) : app.Makes t r a := by
  rw [inner?] at h
  split at h
  · next hpath =>
    rw [serve] at h
    split at h
    · rw [fromFiles?] at h
      rcases hanswer : app.site.answer t r with refusal | b
      · rw [hanswer] at h
        cases refusal with
        | notFound =>
          obtain rfl := Option.some_inj.1 h
          exact .notFound
        | unauthorized =>
          obtain rfl := Option.some_inj.1 h
          exact .unauthorized
        | failed => cases h
      · rw [hanswer] at h
        obtain rfl := Option.some_inj.1 h
        exact makes_of_answer hpath hanswer
    · cases h
  · next hpath =>
    obtain rfl := Option.some_inj.1 h
    rw [reroute]
    split
    · next hother => exact .otherPath (Bool.eq_false_iff.2 hpath) hother
    · exact .notFound

/-- A response with another status than a failure has been made. -/
theorem exists_makes_of_status {status : Nat} (hne : status ≠ 500)
    (h : (app.handle t r).1.status = status) :
    ∃ a, app.inner? t r = some a ∧ app.Makes t r a ∧ a.status = status := by
  rcases hinner : app.inner? t r with - | a
  · rw [handle_of_inner?_none hinner, status_deliver] at h
    exact absurd h.symm hne
  · rw [handle_of_inner? hinner, status_deliver, DevHeaders.status_put] at h
    exact ⟨a, rfl, makes_of_inner? hinner, h⟩

/-- What holds of every response that is made, with the headers for development on it, and of a
failure holds of every response. -/
theorem handle_cases {P : Response → Prop} (hfailure : P failure)
    (hmakes : ∀ a, app.Makes t r a → P (DevHeaders.put r a)) :
    ∃ b, P b ∧ (app.handle t r).1 = deliver r b := by
  rcases hinner : app.inner? t r with - | a
  · exact ⟨failure, hfailure, handle_of_inner?_none hinner⟩
  · exact ⟨_, hmakes a (makes_of_inner? hinner), handle_of_inner? hinner⟩

/-! ### What is kept of it -/

/-- The headers for development leave the body that is sent as it is. -/
theorem body_deliver_put (r : Request) (a : Response) :
    (deliver r (DevHeaders.put r a)).body = (deliver r a).body := by
  rw [deliver, deliver]
  split
  · rfl
  · exact DevHeaders.body_put r a

/-- **The headers for development change nothing else.** The response that is sent has the status
and the body of the response that was made, each of the two headers for development once, the type
of a module if the address names one and the response is no error and otherwise the type that it
had, and all its other headers in their order. -/
theorem handle_keeps_inner (h : app.inner? t r = some a) :
    (app.handle t r).1.status = a.status ∧ (app.handle t r).1.body = (deliver r a).body ∧
    (app.handle t r).1.HasDevHeaders ∧
    (app.handle t r).1.headers.valuesOf "content-type" =
      (if DevHeaders.wasmSuffix <:+ Location.path r ∧ a.status < 400 then [MediaType.wasm]
        else a.headers.valuesOf "content-type") ∧
    DevHeaders.others (app.handle t r).1.headers = DevHeaders.others a.headers := by
  rw [handle_of_inner? h, status_deliver, DevHeaders.status_put, Response.HasDevHeaders,
    headers_deliver]
  exact ⟨rfl, body_deliver_put r a, DevHeaders.hasDevHeaders_put r a,
    DevHeaders.valuesOf_type_put r a, DevHeaders.others_put r a⟩

/-- A tree with a directory that is named like a module. -/
def moduleTree : FileTree :=
  ⟨[(["site"], .directory), (["site", "d.wasm"], .directory)], [], by decide⟩

/-- The redirect to that directory has no body, and is given the type of a module all the same. -/
theorem handle_keeps_inner_moduleTree :
    siteApp.inner? moduleTree ⟨"GET", "/d.wasm", [], []⟩ =
      some (Response.redirect "http://127.0.0.1:7070/d.wasm/") ∧
    (siteApp.handle moduleTree ⟨"GET", "/d.wasm", [], []⟩).1.status = 307 ∧
    (siteApp.handle moduleTree ⟨"GET", "/d.wasm", [], []⟩).1.headers.valuesOf "content-type" =
      [MediaType.wasm] ∧
    DevHeaders.others (siteApp.handle moduleTree ⟨"GET", "/d.wasm", [], []⟩).1.headers =
      (Response.redirect "http://127.0.0.1:7070/d.wasm/").headers := by
  have hinner : siteApp.inner? moduleTree ⟨"GET", "/d.wasm", [], []⟩ =
      some (Response.redirect "http://127.0.0.1:7070/d.wasm/") := by decide +kernel
  have hwasm : DevHeaders.wasmSuffix <:+ Location.path ⟨"GET", "/d.wasm", [], []⟩ ∧
      (Response.redirect "http://127.0.0.1:7070/d.wasm/").status < 400 := by decide +kernel
  obtain ⟨hstatus, -, -, htype, hothers⟩ := handle_keeps_inner hinner
  exact ⟨hinner, hstatus, htype.trans (if_pos hwasm), hothers⟩

end App

end StaticServer
