import StaticServer.FileTree.Edit
import StaticServer.Proofs.Program.Serving
import StaticServer.Program.Run

/-!
# Sessions

A session is an application in use and the tree that it serves from: requests are answered one after
another, and in between files, directories and links are put into the tree and entries are removed
(`Session.responses`). Without changes of the tree these are the responses of the serving loop
(`Session.responses_map_ask`).

What holds of every response of a session rests on one request at a time. There are nine statuses
(`App.status_handle`), and the headers for development are on all responses but those with status
500 (`App.hasDevHeaders_handle_iff`): a failure ends the way on which they are put on.
-/

namespace StaticServer

/-- The statuses of responses. -/
def statuses : List Nat :=
  [200, 206, 304, 307, 400, 401, 404, 416, 500]

namespace App

variable {app : App} {t : FileTree} {r : Request}

/-! ### One request -/

theorem not_hasDevHeaders_failure (r : Request) : ¬ (deliver r failure).HasDevHeaders := by
  intro h
  have hcache := h.1
  rw [headers_deliver] at hcache
  exact absurd hcache (by decide)

/-- An answer of the files has another status than a failure. -/
theorem status_of_answer {s : Site} {a : Response} (h : s.answer t r = .ok a) :
    a.status ∈ statuses ∧ a.status ≠ 500 := by
  rcases Site.answer_cases h with ⟨f, rfl⟩ | ⟨f, rfl⟩ | ⟨page, rfl⟩ | ⟨-, rfl⟩
  · have hstatus := f.respond_status s.boundary r
    have hsub : [200, 206, 304, 400, 416] ⊆ statuses := by decide
    exact ⟨hsub hstatus, f.respond_status_ne s.boundary r⟩
  · show 404 ∈ statuses ∧ 404 ≠ 500
    decide
  · show 200 ∈ statuses ∧ 200 ≠ 500
    decide
  · show 307 ∈ statuses ∧ 307 ≠ 500
    decide

/-- What is made of an answer has one of the statuses, and the headers for development unless it is
a failure. -/
theorem finish_answer (app : App) (t : FileTree) (r : Request) :
    (finish r (app.site.answer t r)).status ∈ statuses ∧
      ((finish r (app.site.answer t r)).HasDevHeaders ↔
        (finish r (app.site.answer t r)).status ≠ 500) := by
  rcases hanswer : app.site.answer t r with refusal | a
  · cases refusal with
    | notFound =>
      rw [status_finish_notFound]
      exact ⟨by decide, iff_of_true hasDevHeaders_finish_notFound (by decide)⟩
    | unauthorized =>
      rw [status_finish_unauthorized]
      exact ⟨by decide, iff_of_true hasDevHeaders_finish_unauthorized (by decide)⟩
    | failed =>
      rw [status_finish_failed]
      exact ⟨by decide, iff_of_false (not_hasDevHeaders_failure r) (by decide)⟩
  · obtain ⟨hmem, hne⟩ := status_of_answer hanswer
    rw [status_finish_ok]
    exact ⟨hmem, iff_of_true (hasDevHeaders_finish_ok a) hne⟩

/-- **The responses to one request**: they have one of the statuses, and the headers for development
unless they are failures. -/
theorem handle_status_headers (app : App) (t : FileTree) (r : Request) :
    (app.handle t r).1.status ∈ statuses ∧
      ((app.handle t r).1.HasDevHeaders ↔ (app.handle t r).1.status ≠ 500) := by
  rcases app.isReady_or t r with hready | ⟨hpath, hroot⟩ | hpath
  · rw [handle_of_isReady hready]
    exact finish_answer app t r
  · -- a missing root is a failure, as one in the files is
    rw [handle_of_rootMissing hpath hroot, status_deliver]
    exact ⟨by decide, iff_of_false (not_hasDevHeaders_failure r) (by decide)⟩
  · -- a path that is not served is sent on or not found, and both on the way through the headers
    rw [handle_of_not_isRoutable hpath, status_deliver, DevHeaders.status_put]
    have hput : (deliver r (DevHeaders.put r (reroute r))).HasDevHeaders := by
      rw [Response.HasDevHeaders, headers_deliver]
      exact DevHeaders.hasDevHeaders_put r (reroute r)
    rcases status_reroute r with hstatus | hstatus
    · rw [hstatus]
      exact ⟨by decide, iff_of_true hput (by decide)⟩
    · rw [hstatus]
      exact ⟨by decide, iff_of_true hput (by decide)⟩

end App

/-! ### One step after another -/

/-- An application in use and the tree that it serves from. -/
structure Session where
  /-- The application. -/
  app : App
  /-- The tree. -/
  tree : FileTree

namespace Session

/-- One step of a session: a request, or a change of the tree. -/
inductive Step where
  /-- A request is answered. -/
  | ask (r : Request)
  /-- A file is written. -/
  | putFile (path : Text) (data : FileData)
  /-- A directory is made. -/
  | putDirectory (path : Text)
  /-- A link is made. -/
  | putLink (path target : Text)
  /-- An entry is removed, with all that is below it. -/
  | remove (path : Text)

/-- The session with a changed tree; a change that fails leaves it as it is. -/
def change (s : Session) (edit : FileTree → Except EditError FileTree) : Session :=
  match edit s.tree with
  | .ok t => { s with tree := t }
  | .error _ => s

/-- The session after one step, and the response if it is a request. -/
def step (s : Session) : Step → Session × Option Response
  | .ask r =>
    let (response, app) := s.app.handle s.tree r
    ({ s with app := app }, some response)
  | .putFile path data => (s.change (·.putFile path data), none)
  | .putDirectory path => (s.change (·.putDirectory path), none)
  | .putLink path target => (s.change (·.putLink path target), none)
  | .remove path => ({ s with tree := s.tree.remove path }, none)

/-- The responses to the requests of a session, in order. -/
def responses : Session → List Step → List Response
  | _, [] => []
  | s, first :: rest =>
    let (next, response?) := s.step first
    response?.toList ++ next.responses rest

/-- The session after some steps. -/
def after : Session → List Step → Session
  | s, [] => s
  | s, first :: rest => (s.step first).1.after rest

theorem responses_cons (s : Session) (first : Step) (rest : List Step) :
    s.responses (first :: rest) = (s.step first).2.toList ++ (s.step first).1.responses rest :=
  rfl

/-- A session that is cut in two goes on from where the first part ends. -/
theorem responses_append (s : Session) (front back : List Step) :
    s.responses (front ++ back) = s.responses front ++ (s.after front).responses back := by
  induction front generalizing s with
  | nil => rfl
  | cons first rest ih =>
    rw [List.cons_append, responses_cons, responses_cons, ih, after, List.append_assoc]

/-- Without changes of the tree a session is the serving loop. -/
theorem responses_map_ask (s : Session) (requests : List Request) :
    s.responses (requests.map .ask) = s.app.respondAll s.tree requests := by
  induction requests generalizing s with
  | nil => rfl
  | cons r rest ih => exact congrArg (_ :: ·) (ih _)

/-- A response of one step has one of the statuses, and the headers for development unless it is a
failure. -/
theorem step_status_headers {s : Session} {step : Step} {a : Response}
    (h : (s.step step).2 = some a) :
    a.status ∈ statuses ∧ (a.HasDevHeaders ↔ a.status ≠ 500) := by
  cases step with
  | ask r =>
    obtain rfl : (s.app.handle s.tree r).1 = a := Option.some_inj.1 h
    exact App.handle_status_headers s.app s.tree r
  | putFile path data => cases h
  | putDirectory path => cases h
  | putLink path target => cases h
  | remove path => cases h

/-- **Headers for development in a session**: whatever is asked and changed in whatever order, every
response has one of the statuses, and it has each of the headers exactly once unless it is a
failure, which has not. -/
theorem responses_status_headers {s : Session} {steps : List Step} {a : Response}
    (h : a ∈ s.responses steps) :
    a.status ∈ statuses ∧ (a.HasDevHeaders ↔ a.status ≠ 500) := by
  induction steps generalizing s with
  | nil => exact absurd h List.not_mem_nil
  | cons first rest ih =>
    rcases List.mem_append.1 h with hfirst | hrest
    · exact step_status_headers (Option.mem_toList.1 hfirst)
    · exact ih hrest

/-- A directory in use with nothing in it. -/
def siteSession : Session :=
  ⟨App.siteApp, App.siteTree⟩

/-- A file is asked for that is not there, a link to itself is made, and the link is asked for. -/
def loopSteps : List Step :=
  [.ask ⟨"GET", "/a.txt", [], []⟩, .putLink "site/loop" "loop", .ask ⟨"GET", "/loop", [], []⟩]

/-- The case of the missing file, which is answered with 404 before the link is made. -/
theorem responses_siteSession :
    DevHeaders.put ⟨"GET", "/a.txt", [], []⟩ (Response.detail 404 "Not Found") ∈
        siteSession.responses loopSteps ∧
      (DevHeaders.put ⟨"GET", "/a.txt", [], []⟩
        (Response.detail 404 "Not Found")).HasDevHeaders := by
  have hmem : DevHeaders.put ⟨"GET", "/a.txt", [], []⟩ (Response.detail 404 "Not Found") ∈
      siteSession.responses loopSteps := by decide +kernel
  exact ⟨hmem, (responses_status_headers hmem).2.2 (by decide +kernel)⟩

/-- **A failure is without the headers for development.** -/
theorem failure_siteSession : siteSession.app.Reached ∧
    App.failure ∈ siteSession.responses loopSteps ∧ App.failure.status = 500 ∧
      ¬ App.failure.HasDevHeaders :=
  ⟨App.siteApp_reached, by decide +kernel, rfl,
    fun h ↦ App.not_hasDevHeaders_failure ⟨"GET", "/loop", [], []⟩ h⟩

end Session

end StaticServer
