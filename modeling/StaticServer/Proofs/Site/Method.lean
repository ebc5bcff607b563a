import StaticServer.Proofs.Program.Serving

/-!
# Methods

Every method is to be served as `GET`, and `HEAD` without the body. What is answered with is chosen
without a look at the method (`Site.answer_withMethod`), but how a file is sent is told by it, and
there are two looks, at the method in upper case when the file is sent and at the method as it was
written when the body is left out at last. `Response.IsFor` says what a method makes of the response
to `GET`: it is carried from the file (`ServedFile.isFor_respond`) over the headers for development
(`DevHeaders.isFor_put`) to the response that is sent (`App.isFor_handle`).

So there are two ways for a method to get something else (`App.handle_withMethod_iff`). `HEAD` in
another spelling gets the length of a file and no body, and a method that is neither `GET` nor
`HEAD` in any spelling gets the whole file where `GET` gets a range of it or is told what is wrong
with the range.
-/

namespace StaticServer

/-- The request with another method. -/
def Request.withMethod (r : Request) (method : Text) : Request :=
  { r with method := method }

theorem Request.header?_withMethod (r : Request) (method name : Text) :
    (r.withMethod method).header? name = r.header? name :=
  rfl

namespace Response

/-- A response is a file or a part of one: it says that ranges can be asked for. -/
def IsOfFile (a : Response) : Prop :=
  a.headers.valuesOf "accept-ranges" ≠ []

instance (a : Response) : Decidable a.IsOfFile :=
  inferInstanceAs (Decidable (_ ≠ _))

/-- The response without a body. -/
def dropBody (a : Response) : Response :=
  { a with body := [] }

/-- The response without the body that a file has. -/
def dropFileBody (a : Response) : Response :=
  if a.IsOfFile then a.dropBody else a

/-- The statuses of the responses that only a range is answered with. -/
def rangeStatuses : List Nat :=
  [206, 400, 416]

/-- What a method, in upper case, gets where `GET` gets the response `b`. -/
structure IsFor (verb : Text) (a b : Response) : Prop where
  /-- `GET` in another spelling gets the same. -/
  get : verb = "GET" → a = b
  /-- `HEAD` in another spelling gets the same, but no body of a file. -/
  head : verb = "HEAD" → a = b.dropFileBody
  /-- Any other method gets the same, unless that is a response to a range. -/
  other : verb ≠ "GET" → verb ≠ "HEAD" →
    a = b ∧ b.status ∉ rangeStatuses ∨ a.status = 200 ∧ b.status ∈ rangeStatuses

variable {verb : Text} {a b : Response}

/-- Nothing but a file and the responses to a range is made by the method. -/
theorem isFor_self (hfile : ¬ a.IsOfFile) (hrange : a.status ∉ rangeStatuses) : IsFor verb a a :=
  ⟨fun _ ↦ rfl, fun _ ↦ (if_neg hfile).symm, fun _ _ ↦ .inl ⟨rfl, hrange⟩⟩

/-- Dropping the body of a file and then every body is dropping every body. -/
theorem dropBody_dropFileBody (a : Response) : a.dropFileBody.dropBody = a.dropBody := by
  rw [dropFileBody]
  split <;> rfl

/-- Dropping the body of a file changes a response exactly if it is that of a file and has a
body. -/
theorem dropFileBody_eq_self_iff : a.dropFileBody = a ↔ ¬ (a.IsOfFile ∧ a.body ≠ []) := by
  rw [dropFileBody]
  split
  · next hfile =>
    have hbody : a.dropBody = a ↔ a.body = [] := by
      constructor
      · intro h
        rw [← h]
        rfl
      · intro h
        rw [dropBody, ← h]
    rw [hbody, not_and_not_right, imp_iff_right hfile]
  · next hfile => exact iff_of_true rfl fun h ↦ hfile h.1

/-- **When a method gets what `GET` gets.** -/
theorem IsFor.eq_iff (h : IsFor verb a b) : a = b ↔
    ¬ (verb = "HEAD" ∧ b.IsOfFile ∧ b.body ≠ []) ∧
      ¬ (verb ≠ "GET" ∧ verb ≠ "HEAD" ∧ b.status ∈ rangeStatuses) := by
  by_cases hget : verb = "GET"
  · have hne : verb ≠ "HEAD" := by
      rw [hget]
      decide
    exact iff_of_true (h.get hget) ⟨fun hhead ↦ hne hhead.1, fun hother ↦ hother.1 hget⟩
  by_cases hhead : verb = "HEAD"
  · rw [h.head hhead, dropFileBody_eq_self_iff]
    constructor
    · intro hbody
      exact ⟨fun hfile ↦ hbody hfile.2, fun hother ↦ hother.2.1 hhead⟩
    · rintro ⟨hbody, -⟩ hfile
      exact hbody ⟨hhead, hfile⟩
  · rcases h.other hget hhead with ⟨heq, hrange⟩ | ⟨hstatus, hrange⟩
    · exact iff_of_true heq ⟨fun hfile ↦ hhead hfile.1, fun hother ↦ hrange hother.2.2⟩
    · refine iff_of_false (fun heq ↦ ?_) fun hboth ↦ hboth.2 ⟨hget, hhead, hrange⟩
      -- no response to a range has status 200
      rw [← heq, hstatus] at hrange
      exact absurd hrange (by decide)

end Response

namespace ServedFile

variable (f : ServedFile) (boundary : Text) {r : Request}

/-! ### Files for different methods -/

/-- This header tells the response of a file from all others. -/
theorem valuesOf_headers_ne_nil : f.headers.valuesOf "accept-ranges" ≠ [] :=
  List.cons_ne_nil ("bytes" : Text) []

/-- The headers of a part of a file, too, say that ranges can be asked for: two others are set. -/
theorem valuesOf_set_headers_ne_nil {first second : Text} (hfirst : "accept-ranges" ≠ first)
    (hsecond : "accept-ranges" ≠ second) (x y : Text) :
    (Headers.set second y (Headers.set first x f.headers)).valuesOf "accept-ranges" ≠ [] := by
  rw [Headers.valuesOf_set_of_ne hsecond, Headers.valuesOf_set_of_ne hfirst]
  exact f.valuesOf_headers_ne_nil

variable {m : Text}

/-- Methods that are `GET` in upper case get the same. -/
theorem respond_of_get (hget : (r.withMethod m).verb = "GET") :
    f.respond boundary (r.withMethod m) = f.respond boundary (r.withMethod "GET") := by
  have hverb : (r.withMethod m).verb = (r.withMethod "GET").verb := hget
  have hbody (body : Bytes) :
      bodyFor (r.withMethod m) body = bodyFor (r.withMethod "GET") body := by
    rw [bodyFor, bodyFor, hverb]
  simp only [respond, ranged, whole, single, several, hbody, hverb]
  rfl

/-- The response with a file for `HEAD` is that for `GET`, but without the body. -/
theorem mk_of_head (hhead : (r.withMethod m).verb = "HEAD") {headers : Headers}
    (hfile : headers.valuesOf "accept-ranges" ≠ []) (status : Nat) (body : Bytes) :
    (⟨status, headers, bodyFor (r.withMethod m) body⟩ : Response) =
      Response.dropFileBody ⟨status, headers, bodyFor (r.withMethod "GET") body⟩ := by
  have hof : Response.IsOfFile ⟨status, headers, bodyFor (r.withMethod "GET") body⟩ := hfile
  rw [Response.dropFileBody, if_pos hof, bodyFor_of_head hhead]
  rfl

/-- For HEAD a file is answered as for GET but without its body: as a whole, -/
theorem whole_of_head (hhead : (r.withMethod m).verb = "HEAD") (status : Nat) :
    f.whole status (r.withMethod m) = (f.whole status (r.withMethod "GET")).dropFileBody :=
  mk_of_head hhead f.valuesOf_headers_ne_nil status f.content

/-- in one range, -/
theorem single_of_head (hhead : (r.withMethod m).verb = "HEAD") (range : ByteRange) :
    f.single (r.withMethod m) range = (f.single (r.withMethod "GET") range).dropFileBody :=
  mk_of_head hhead (f.valuesOf_set_headers_ne_nil (by decide) (by decide) _ _) 206 _

/-- in several, -/
theorem several_of_head (hhead : (r.withMethod m).verb = "HEAD") (ranges : List ByteRange) :
    f.several boundary (r.withMethod m) ranges =
      (f.several boundary (r.withMethod "GET") ranges).dropFileBody :=
  mk_of_head hhead (f.valuesOf_set_headers_ne_nil (by decide) (by decide) _ _) 206 _

/-- and in whatever a Range header asks for. -/
theorem ranged_of_head (hhead : (r.withMethod m).verb = "HEAD") (header : Text) :
    f.ranged boundary (r.withMethod m) header =
      (f.ranged boundary (r.withMethod "GET") header).dropFileBody := by
  rw [ranged, ranged]
  rcases ByteRange.select f.content.length header with - | fault | - | ranges
  · exact f.whole_of_head hhead 200
  · exact (if_neg fun h ↦ h rfl).symm
  · exact (if_neg fun h ↦ h rfl).symm
  · rcases ranges with - | ⟨first, - | ⟨second, rest⟩⟩
    · exact f.several_of_head boundary hhead []
    · exact f.single_of_head hhead first
    · exact f.several_of_head boundary hhead (first :: second :: rest)

/-- Methods that are `HEAD` in upper case get the same, but no body of a file. -/
theorem respond_of_head (hhead : (r.withMethod m).verb = "HEAD") :
    f.respond boundary (r.withMethod m) =
      (f.respond boundary (r.withMethod "GET")).dropFileBody := by
  have hfresh : f.validator.isFresh (r.withMethod m) =
    f.validator.isFresh (r.withMethod "GET") := rfl
  have hallows : f.validator.allowsRange (r.withMethod m) =
    f.validator.allowsRange (r.withMethod "GET") := rfl
  have hreads : ((r.withMethod m).verb = "GET" || (r.withMethod m).verb = "HEAD") = true := by
    rw [hhead]
    rfl
  have hgets : ((r.withMethod "GET").verb = "GET" || (r.withMethod "GET").verb = "HEAD") = true :=
    rfl
  rw [respond, respond, hfresh, hallows, hreads, hgets]
  split_ifs
  · -- the response to a client that has this version has no body to lose
    exact (if_neg fun h ↦ h rfl).symm
  · simp only [Request.header?_withMethod]
    rcases r.header? "range" with - | header
    · exact f.whole_of_head hhead 200
    · exact f.ranged_of_head boundary hhead header
  · exact f.whole_of_head hhead 200

/-- To GET a Range header makes no difference, or it gives a status of its own. -/
theorem ranged_get (header : Text) :
    f.ranged boundary (r.withMethod "GET") header = f.whole 200 (r.withMethod "GET") ∨
      (f.ranged boundary (r.withMethod "GET") header).status ∈ Response.rangeStatuses := by
  rw [ranged]
  rcases ByteRange.select f.content.length header with - | fault | - | ranges
  · exact .inl rfl
  · right
    show 400 ∈ Response.rangeStatuses
    decide
  · right
    show 416 ∈ Response.rangeStatuses
    decide
  · right
    rcases ranges with - | ⟨first, - | ⟨second, rest⟩⟩
    all_goals
      show 206 ∈ Response.rangeStatuses
      decide

/-- Any other method gets the same unless a range is answered; then it gets the whole file. -/
theorem respond_of_other (hget : (r.withMethod m).verb ≠ "GET")
    (hhead : (r.withMethod m).verb ≠ "HEAD") :
    f.respond boundary (r.withMethod m) = f.respond boundary (r.withMethod "GET") ∧
      (f.respond boundary (r.withMethod "GET")).status ∉ Response.rangeStatuses ∨
    (f.respond boundary (r.withMethod m)).status = 200 ∧
      (f.respond boundary (r.withMethod "GET")).status ∈ Response.rangeStatuses := by
  have hfresh : f.validator.isFresh (r.withMethod m) =
    f.validator.isFresh (r.withMethod "GET") := rfl
  have hreads : ((r.withMethod m).verb = "GET" || (r.withMethod m).verb = "HEAD") = false := by
    rw [decide_eq_false hget, decide_eq_false hhead]
    rfl
  have hwhole : f.whole 200 (r.withMethod m) = f.whole 200 (r.withMethod "GET") := by
    rw [whole, bodyFor_of_ne hhead]
    rfl
  have hstatus : (f.whole 200 (r.withMethod "GET")).status ∉ Response.rangeStatuses := by
    show 200 ∉ Response.rangeStatuses
    decide
  rw [respond, respond, hfresh, hreads, Bool.false_and, if_neg Bool.false_ne_true, hwhole]
  -- what is left is how `GET` is answered: not modified, with a range, or with the whole file
  split_ifs
  · left
    refine ⟨rfl, ?_⟩
    show 304 ∉ Response.rangeStatuses
    decide
  · simp only [Request.header?_withMethod]
    rcases r.header? "range" with - | header
    · exact .inl ⟨rfl, hstatus⟩
    · rcases f.ranged_get boundary header (r := r) with hranged | hranged
      · exact .inl ⟨hranged.symm, hranged.symm ▸ hstatus⟩
      · exact .inr ⟨rfl, hranged⟩
  · exact .inl ⟨rfl, hstatus⟩

/-- **What a method gets of a file** that is asked for by its path. -/
theorem isFor_respond : Response.IsFor (r.withMethod m).verb (f.respond boundary (r.withMethod m))
    (f.respond boundary (r.withMethod "GET")) :=
  ⟨f.respond_of_get boundary, f.respond_of_head boundary, f.respond_of_other boundary⟩

/-- What a method gets of the page for missing files: no range of it is ever sent. -/
theorem isFor_missingPage : Response.IsFor (r.withMethod m).verb (f.whole 404 (r.withMethod m))
    (f.whole 404 (r.withMethod "GET")) := by
  have hsame (hhead : (r.withMethod m).verb ≠ "HEAD") :
      f.whole 404 (r.withMethod m) = f.whole 404 (r.withMethod "GET") := by
    rw [whole, bodyFor_of_ne hhead]
    rfl
  refine ⟨fun hget ↦ hsame ?_, fun hhead ↦ f.whole_of_head hhead 404, fun _ hhead ↦
    .inl ⟨hsame hhead, ?_⟩⟩
  · rw [hget]
    decide
  · show 404 ∉ Response.rangeStatuses
    decide

end ServedFile

namespace Site

open Response

variable {s : Site} {t : FileTree} {r : Request}

/-! ### Answers for different methods -/

/-- **What a method makes of an answer**: one response in the place of another, or the same
refusal. -/
theorem answer_withMethod (s : Site) (t : FileTree) (r : Request) (m : Text) :
    (∃ a b, s.answer t (r.withMethod m) = .ok a ∧ s.answer t (r.withMethod "GET") = .ok b ∧
      IsFor (r.withMethod m).verb a b) ∨
    ∃ refusal, s.answer t (r.withMethod m) = .error refusal ∧
      s.answer t (r.withMethod "GET") = .error refusal := by
  -- the method plays no part in the choice, only in how a file is sent
  have hchoose (m : Text) : s.choose ⟨t, (r.withMethod m).denied⟩ (r.withMethod m) =
    s.choose ⟨t, r.denied⟩ r := rfl
  rcases hc : s.choose ⟨t, r.denied⟩ r with refusal | c
  · exact .inr ⟨refusal, answer_of_choose_error ((hchoose m).trans hc),
      answer_of_choose_error ((hchoose "GET").trans hc)⟩
  have hanswer (m : Text) := answer_of_choose ((hchoose m).trans hc)
  rw [hanswer m, hanswer "GET"]
  cases c with
  | file place data =>
    rcases hsome : (Validator.ofFile? data).isSome with - | -
    · exact .inr ⟨.failed, sendFile_of_isNone hsome, sendFile_of_isNone hsome⟩
    · obtain ⟨f, -, hsend⟩ := sendFile_of_isSome place hsome
      exact .inl ⟨_, _, hsend _, hsend _, f.isFor_respond s.boundary⟩
  | missingPage place data =>
    rcases hsome : (Validator.ofFile? data).isSome with - | -
    · exact .inr ⟨.failed, sendFile_of_isNone hsome, sendFile_of_isNone hsome⟩
    · obtain ⟨f, -, hsend⟩ := sendFile_of_isSome place hsome
      exact .inl ⟨_, _, hsend _, hsend _, f.isFor_missingPage⟩
  | listing place =>
    show (∃ a b, list t place = .ok a ∧ list t place = .ok b ∧ _) ∨
      ∃ refusal, list t place = .error refusal ∧ list t place = .error refusal
    rw [list]
    rcases Listing.render t (Path.text place) with fault | page
    · exact .inr ⟨.failed, rfl, rfl⟩
    · refine .inl ⟨_, _, rfl, rfl, isFor_self (fun h ↦ h rfl) ?_⟩
      show 200 ∉ rangeStatuses
      decide
  | slash =>
    refine .inl ⟨_, _, rfl, rfl, isFor_self (fun h ↦ h rfl) ?_⟩
    show 307 ∉ rangeStatuses
    decide

end Site

/-! ### The headers for development -/

namespace DevHeaders

/-- The headers for development do not look at the body, -/
theorem put_dropBody (r : Request) (a : Response) : put r a.dropBody = (put r a).dropBody := by
  rw [put, put, Response.dropBody]
  split <;> rfl

/-- and leave the header alone that tells a file, -/
theorem isOfFile_put (r : Request) (a : Response) : (put r a).IsOfFile ↔ a.IsOfFile := by
  rw [Response.IsOfFile, valuesOf_put (by decide) (by decide) (by decide), Response.IsOfFile]

/-- so that they can be put on before or after its body is dropped. -/
theorem put_dropFileBody (r : Request) (a : Response) :
    put r a.dropFileBody = (put r a).dropFileBody := by
  rw [Response.dropFileBody, Response.dropFileBody]
  by_cases hfile : a.IsOfFile
  · rw [if_pos hfile, if_pos ((isOfFile_put r a).2 hfile), put_dropBody]
  · rw [if_neg hfile, if_neg (hfile ∘ (isOfFile_put r a).1)]

/-- The headers for development make no difference to what a method gets. -/
theorem isFor_put {verb : Text} {a b : Response} (h : Response.IsFor verb a b) (r : Request) :
    Response.IsFor verb (put r a) (put r b) := by
  refine ⟨fun hget ↦ ?_, fun hhead ↦ ?_, fun hget hhead ↦ ?_⟩
  · rw [h.get hget]
  · rw [h.head hhead, put_dropFileBody]
  · rw [status_put, status_put]
    rcases h.other hget hhead with ⟨heq, hrange⟩ | hstatus
    · exact .inl ⟨by rw [heq], hrange⟩
    · exact .inr hstatus

end DevHeaders

namespace App

variable {app : App} {t : FileTree} {r : Request} {m : Text}

/-! ### Responses for different methods -/

/-- A body is delivered for every method but one, -/
theorem deliver_withMethod (hm : m ≠ "HEAD") (a : Response) : deliver (r.withMethod m) a = a :=
  if_neg hm

/-- and dropped for that one. -/
theorem deliver_head (a : Response) : deliver (r.withMethod "HEAD") a = a.dropBody :=
  if_pos rfl

/-- The response to a refusal is no file and no response to a range. -/
theorem isFor_refusal (verb : Text) (r : Request) (refusal : Refusal) :
    Response.IsFor verb (((ofRefusal? refusal).map (DevHeaders.put r)).getD failure)
      (((ofRefusal? refusal).map (DevHeaders.put r)).getD failure) := by
  cases refusal with
  | notFound => exact DevHeaders.isFor_put (Response.isFor_self (fun h ↦ h rfl) (by decide)) r
  | unauthorized => exact DevHeaders.isFor_put (Response.isFor_self (fun h ↦ h rfl) (by decide)) r
  | failed =>
    show Response.IsFor verb failure failure
    exact Response.isFor_self (fun h ↦ h rfl) (by decide)

theorem isFor_reroute (verb : Text) (r : Request) :
    Response.IsFor verb (reroute r) (reroute r) := by
  rw [reroute]
  split
  · refine Response.isFor_self (fun h ↦ h rfl) ?_
    show 307 ∉ Response.rangeStatuses
    decide
  · exact Response.isFor_self (fun h ↦ h rfl) (by decide)

theorem get_ne_head : ("GET" : Text) ≠ "HEAD" := by decide

/-- A method in any spelling but one gets what `IsFor` says, and leaves the application as `GET`
does. -/
theorem isFor_handle (app : App) (t : FileTree) (r : Request) (hm : m ≠ "HEAD") :
    Response.IsFor (r.withMethod m).verb (app.handle t (r.withMethod m)).1
        (app.handle t (r.withMethod "GET")).1 ∧
      (app.handle t (r.withMethod m)).2 = (app.handle t (r.withMethod "GET")).2 := by
  rcases app.isReady_or t r with hready | ⟨hpath, hroot⟩ | hpath
  · rw [handle_of_isReady (r := r.withMethod m) hready,
      handle_of_isReady (r := r.withMethod "GET") hready]
    refine ⟨?_, rfl⟩
    -- the file is sent for the method in upper case, the body is left out for the method as written
    rcases app.site.answer_withMethod t r m with ⟨a, b, ha, hb, hfor⟩ | ⟨refusal, ha, hb⟩
    · rw [ha, hb, finish, finish, deliver_withMethod hm, deliver_withMethod get_ne_head]
      exact DevHeaders.isFor_put hfor r
    · rw [ha, hb, finish, finish, deliver_withMethod hm, deliver_withMethod get_ne_head]
      exact isFor_refusal _ r refusal
  · rw [handle_of_rootMissing (r := r.withMethod m) hpath hroot,
      handle_of_rootMissing (r := r.withMethod "GET") hpath hroot, deliver_withMethod hm,
      deliver_withMethod get_ne_head]
    exact ⟨isFor_refusal _ r .failed, rfl⟩
  · rw [handle_of_not_isRoutable (r := r.withMethod m) hpath,
      handle_of_not_isRoutable (r := r.withMethod "GET") hpath, deliver_withMethod hm,
      deliver_withMethod get_ne_head]
    exact ⟨DevHeaders.isFor_put (isFor_reroute _ r) r, rfl⟩

/-- **`HEAD` gets the status and the headers of `GET` and no body**, and leaves the application as
`GET` does. -/
theorem handle_head (app : App) (t : FileTree) (r : Request) :
    app.handle t (r.withMethod "HEAD") = ((app.handle t (r.withMethod "GET")).1.dropBody,
      (app.handle t (r.withMethod "GET")).2) := by
  rcases app.isReady_or t r with hready | ⟨hpath, hroot⟩ | hpath
  · rw [handle_of_isReady (r := r.withMethod "HEAD") hready,
      handle_of_isReady (r := r.withMethod "GET") hready]
    rcases app.site.answer_withMethod t r "HEAD" with ⟨a, b, ha, hb, hfor⟩ | ⟨refusal, ha, hb⟩
    · rw [ha, hb, finish, finish, deliver_head, deliver_withMethod get_ne_head, hfor.head rfl,
        DevHeaders.put_dropFileBody, Response.dropBody_dropFileBody]
      rfl
    · rw [ha, hb, finish, finish, deliver_head, deliver_withMethod get_ne_head]
      rfl
  · rw [handle_of_rootMissing (r := r.withMethod "HEAD") hpath hroot,
      handle_of_rootMissing (r := r.withMethod "GET") hpath hroot, deliver_head,
      deliver_withMethod get_ne_head]
  · rw [handle_of_not_isRoutable (r := r.withMethod "HEAD") hpath,
      handle_of_not_isRoutable (r := r.withMethod "GET") hpath, deliver_head,
      deliver_withMethod get_ne_head]
    rfl

/-- **When a method is served as `GET`.** A method other than `HEAD` gets the same response as `GET`
unless it is `HEAD` in another spelling and the response is a file with something in it, or it is
neither of the two in any spelling and the response is one to a range. `HEAD` gets the status and
the headers of the response to `GET`, and no body. The application after it is the same for all
methods. -/
theorem handle_withMethod_iff (app : App) (t : FileTree) (r : Request) :
    (∀ m : Text, m ≠ "HEAD" →
      (app.handle t (r.withMethod m) = app.handle t (r.withMethod "GET") ↔
        ¬ (Text.asciiUpper m = "HEAD" ∧ (app.handle t (r.withMethod "GET")).1.IsOfFile ∧
          (app.handle t (r.withMethod "GET")).1.body ≠ []) ∧
        ¬ (Text.asciiUpper m ≠ "GET" ∧ Text.asciiUpper m ≠ "HEAD" ∧
          (app.handle t (r.withMethod "GET")).1.status ∈ Response.rangeStatuses))) ∧
    app.handle t (r.withMethod "HEAD") = ((app.handle t (r.withMethod "GET")).1.dropBody,
      (app.handle t (r.withMethod "GET")).2) := by
  refine ⟨fun m hm ↦ ?_, handle_head app t r⟩
  obtain ⟨hfor, happ⟩ := isFor_handle app t r hm
  have hsame : app.handle t (r.withMethod m) = app.handle t (r.withMethod "GET") ↔
      (app.handle t (r.withMethod m)).1 = (app.handle t (r.withMethod "GET")).1 :=
    ⟨congrArg Prod.fst, fun h ↦ Prod.ext h happ⟩
  rw [hsame]
  exact hfor.eq_iff

/-- A directory with a file. -/
def helloTree : FileTree :=
  ⟨[(["site"], .directory),
    (["site", "hello.txt"], .file ⟨Text.Utf8.encode "habari dunia", 0⟩)], [], by decide⟩

/-- A request for the file. -/
def helloRequest : Request :=
  ⟨"GET", "/hello.txt", [], []⟩

/-- The case of POST, which is answered as GET. -/
theorem handle_post_helloTree : ("POST" : Text) ≠ "HEAD" ∧
    siteApp.handle helloTree (helloRequest.withMethod "POST") =
      siteApp.handle helloTree (helloRequest.withMethod "GET") := by
  have hpost : ("POST" : Text) ≠ "HEAD" := by decide
  have hstatus : (siteApp.handle helloTree (helloRequest.withMethod "GET")).1.status ∉
      Response.rangeStatuses := by decide +kernel
  refine ⟨hpost, ((handle_withMethod_iff siteApp helloTree helloRequest).1 "POST" hpost).2 ⟨?_, ?_⟩⟩
  · rintro ⟨hhead, -⟩
    exact absurd hhead (by decide)
  · rintro ⟨-, -, hrange⟩
    exact hstatus hrange

/-- The request for the first two bytes of the file. -/
def rangeRequest : Request :=
  ⟨"GET", "/hello.txt", [("range", "bytes=0-1")], []⟩

/-- **A method can get something else than `GET`**: the whole file in the place of a range, or no
body. -/
theorem handle_post_ne_get : siteApp.Reached ∧
    (siteApp.handle helloTree (rangeRequest.withMethod "POST")).1.status = 200 ∧
    (siteApp.handle helloTree (rangeRequest.withMethod "GET")).1.status = 206 ∧
    (siteApp.handle helloTree (helloRequest.withMethod "head")).1.body = [] ∧
    (siteApp.handle helloTree (helloRequest.withMethod "GET")).1.body =
      Text.Utf8.encode "habari dunia" :=
  ⟨siteApp_reached, by decide +kernel, by decide +kernel, by decide +kernel, by decide +kernel⟩

end App

end StaticServer
