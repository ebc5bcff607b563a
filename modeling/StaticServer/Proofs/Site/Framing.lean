import StaticServer.Proofs.Http.FileResponse
import StaticServer.Proofs.Http.Multipart
import StaticServer.Proofs.Site.Inner

/-!
# How long a response is

Whoever reads a response has to know where it ends: one header says how many bytes the body has, and
only the response that says that a file is unchanged has neither the header nor a body
(`Response.IsFramed`). Each kind of response comes to this number in its own way. Pages and messages
count their bytes after they have been written, and a file and one range of it count those that
they are about to send, a range because it lies inside the file. The length of a body with several
ranges is told from their numbers alone (`Multipart.length_body`).

The headers for development change none of this (`DevHeaders.isFramed_put`), so it holds of every
response that has its body (`App.isFramed_handle`).
-/

namespace StaticServer

/-- The length of a response is told by exactly one header, which counts the bytes of the body; the
response that says that a file is unchanged has neither. -/
def Response.IsFramed (a : Response) : Prop :=
  if a.status = 304 then a.headers.valuesOf "content-length" = [] ∧ a.body = []
  else a.headers.valuesOf "content-length" = [Text.ofNat a.body.length]

namespace Response

/-- A length that is the body's frames every response but 304. -/
theorem isFramed_of_values {a : Response} (hstatus : a.status ≠ 304)
    (h : a.headers.valuesOf "content-length" = [Text.ofNat a.body.length]) : a.IsFramed := by
  rwa [IsFramed, if_neg hstatus]

/-- So a response with a body is framed, -/
theorem isFramed_withBody {status : Nat} {further : Headers} (hstatus : status ≠ 304)
    (hfurther : further.valuesOf "content-length" = []) (mediaType : Text) (body : Bytes) :
    (withBody status further mediaType body).IsFramed := by
  refine isFramed_of_values hstatus ?_
  rw [withBody, Headers.valuesOf, List.filter_append, List.map_append, ← Headers.valuesOf, hfurther]
  rfl

theorem isFramed_html (page : Text) : (html page).IsFramed :=
  isFramed_withBody (by decide) rfl _ _

theorem isFramed_detail {status : Nat} (hstatus : status ≠ 304) (reason : Text) :
    (detail status reason).IsFramed :=
  isFramed_withBody hstatus rfl _ _

/-- and a redirect, whose body is empty. -/
theorem isFramed_redirect (location : Text) : (redirect location).IsFramed := by
  -- stated for any length, so that no number is written out
  have hlength (n : Nat) : Headers.valuesOf [lengthHeader n, ("location", location)]
      "content-length" = [Text.ofNat n] := rfl
  exact isFramed_of_values (by decide : 307 ≠ 304) (hlength 0)

end Response

/-! ### Responses with a file -/

namespace ServedFile

variable {r : Request} (f : ServedFile) (boundary : Text)

/-- A whole file is framed by its length, -/
theorem isFramed_whole (hverb : r.verb ≠ "HEAD") {status : Nat} (hstatus : status ≠ 304) :
    (f.whole status r).IsFramed := by
  rw [whole, bodyFor_of_ne hverb]
  exact Response.isFramed_of_values hstatus rfl

/-- status 304 by having no body, -/
theorem isFramed_notModified : f.notModified.IsFramed :=
  ⟨rfl, rfl⟩

/-- one range by that of the range, -/
theorem isFramed_single (hverb : r.verb ≠ "HEAD") {range : ByteRange}
    (hrange : range.IsWithin f.content.length) : (f.single r range).IsFramed := by
  refine Response.isFramed_of_values (by decide : 206 ≠ 304) ?_
  rw [single, bodyFor_of_ne hverb, ByteRange.length_slice hrange]
  exact Headers.valuesOf_set_self _ _ _

/-- and several ranges by that of all parts, which is added up before they are written. -/
theorem isFramed_several (hverb : r.verb ≠ "HEAD") {ranges : List ByteRange}
    (hranges : ∀ range ∈ ranges, range.IsWithin f.content.length) :
    (f.several boundary r ranges).IsFramed := by
  refine Response.isFramed_of_values (by decide : 206 ≠ 304) ?_
  rw [several, bodyFor_of_ne hverb, Multipart.length_body boundary f.contentType hranges]
  exact Headers.valuesOf_set_self _ _ _

/-- Whatever a Range header asks for, the length of the response is told. -/
theorem isFramed_ranged (hverb : r.verb ≠ "HEAD") (header : Text) :
    (f.ranged boundary r header).IsFramed := by
  rw [ranged]
  split
  · exact f.isFramed_whole hverb (by decide)
  · exact Response.isFramed_withBody (by decide) rfl _ _
  · exact Response.isFramed_withBody (by decide) rfl _ _
  · next range hselect =>
    exact f.isFramed_single hverb (ByteRange.isWithin_of_select hselect range List.mem_cons_self)
  · next ranges _ hselect =>
    exact f.isFramed_several boundary hverb (ByteRange.isWithin_of_select hselect)

/-- **A file is sent with its length**, whole, in part or not at all. -/
theorem isFramed_respond (hverb : r.verb ≠ "HEAD") : (f.respond boundary r).IsFramed := by
  have hwhole : (f.whole 200 r).IsFramed := f.isFramed_whole hverb (by decide)
  rw [respond]
  split_ifs
  · exact f.isFramed_notModified
  · split
    · exact f.isFramed_ranged boundary hverb _
    · exact hwhole
  · exact hwhole

end ServedFile

/-! ### Every response -/

/-- The headers for development leave the length alone. -/
theorem DevHeaders.isFramed_put {a : Response} (r : Request) (h : a.IsFramed) :
    (put r a).IsFramed := by
  rw [Response.IsFramed, status_put, body_put, valuesOf_put (by decide) (by decide) (by decide)]
  exact h

namespace App

variable {app : App} {t : FileTree} {r : Request} {a : Response}

/-- **Every response that is made is framed.** -/
theorem Makes.isFramed (h : app.Makes t r a) (hverb : r.verb ≠ "HEAD") : a.IsFramed := by
  cases h with
  | file => exact ServedFile.isFramed_respond _ _ hverb
  | missingPage => exact ServedFile.isFramed_whole _ hverb (by decide)
  | listing => exact Response.isFramed_html _
  | slash => exact Response.isFramed_redirect _
  | otherPath => exact Response.isFramed_redirect _
  | notFound => exact Response.isFramed_detail (by decide) _
  | unauthorized => exact Response.isFramed_detail (by decide) _

theorem isFramed_failure : failure.IsFramed :=
  Response.isFramed_withBody (by decide) rfl _ _

/-- **The length of every response is told**, of a failure, too, as long as the method does not ask
for headers alone. -/
theorem isFramed_handle (app : App) (t : FileTree) (r : Request) (hverb : r.verb ≠ "HEAD") :
    (app.handle t r).1.IsFramed := by
  obtain ⟨b, hb, hresponse⟩ := handle_cases isFramed_failure fun a (ha : app.Makes t r a) ↦
    DevHeaders.isFramed_put r (ha.isFramed hverb)
  rw [hresponse, deliver_of_ne hverb]
  exact hb

/-- A tree with a file of ten bytes. -/
def digitTree : FileTree :=
  ⟨[(["site"], .directory), (["site", "n"], .file ⟨Text.Utf8.encode "0123456789", 0⟩)], [],
    by decide⟩

/-- Two ranges of that file, the first of two bytes and the second of three, with nothing for a
boundary. -/
theorem isFramed_handle_digitTree :
    (siteApp.handle digitTree ⟨"GET", "/n", [("range", "bytes=0-1,7-")], []⟩).1.status = 206 ∧
    (siteApp.handle digitTree ⟨"GET", "/n", [("range", "bytes=0-1,7-")], []⟩).1.headers.valuesOf
      "content-length" = [("163" : Text)] := by
  have hstatus : (siteApp.handle digitTree
      ⟨"GET", "/n", [("range", "bytes=0-1,7-")], []⟩).1.status = 206 := by decide +kernel
  have hlength : Text.ofNat (siteApp.handle digitTree
      ⟨"GET", "/n", [("range", "bytes=0-1,7-")], []⟩).1.body.length = "163" := by decide +kernel
  have hframed := isFramed_handle siteApp digitTree
    ⟨"GET", "/n", [("range", "bytes=0-1,7-")], []⟩ (by decide)
  rw [Response.IsFramed, if_neg (by rw [hstatus]; decide), hlength] at hframed
  exact ⟨hstatus, hframed⟩

end App

end StaticServer
