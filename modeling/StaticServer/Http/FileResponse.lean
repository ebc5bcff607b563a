import StaticServer.Http.MediaType
import StaticServer.Http.Multipart
import StaticServer.Http.Validator

/-!
# Responses with a file

A file is sent whole, in part, or not at all when the client has it already. Ranges are
followed only for the methods that read, and the body is left out for the one that asks for
headers alone; both are told by the method in upper case.
-/

namespace StaticServer

/-- A file as it is served: its name, its content and its validator. -/
structure ServedFile where
  /-- The name, which gives the media type. -/
  name : Text
  /-- The bytes. -/
  content : Bytes
  /-- What identifies this version. -/
  validator : Validator

namespace ServedFile

/-- A file of a file tree; there is none when no date can show its modification time. -/
def of? (name : Text) (data : FileData) : Option ServedFile :=
  (Validator.ofFile? data).map (⟨name, data.content, ·⟩)

/-- The Content-Type header of a file. -/
def contentType (f : ServedFile) : Text :=
  MediaType.header (MediaType.ofName f.name)

/-- The headers of a file that is sent whole. -/
def headers (f : ServedFile) : Headers :=
  ("content-type", f.contentType) :: ("accept-ranges", "bytes") ::
    Response.lengthHeader f.content.length :: f.validator.headers

/-- A body, left out when the method asks for headers alone. -/
def bodyFor (r : Request) (body : Bytes) : Bytes :=
  if r.verb = "HEAD" then [] else body

/-- The whole file. -/
def whole (f : ServedFile) (status : Nat) (r : Request) : Response :=
  ⟨status, f.headers, bodyFor r f.content⟩

/-- The answer to a client that has this version. -/
def notModified (f : ServedFile) : Response :=
  ⟨304, [("etag", f.validator.etag)], []⟩

/-- One range of the file. -/
def single (f : ServedFile) (r : Request) (range : ByteRange) : Response :=
  let headers := Headers.set "content-range" (range.contentRange f.content.length) f.headers
  ⟨206, Headers.set "content-length" (Text.ofNat range.length) headers,
    bodyFor r (range.slice f.content)⟩

/-- Several ranges of the file. -/
def several (f : ServedFile) (boundary : Text) (r : Request) (ranges : List ByteRange) :
    Response :=
  let headers := Headers.set "content-type" (Multipart.mediaType boundary) f.headers
  let length := Multipart.length boundary f.contentType f.content.length ranges
  ⟨206, Headers.set "content-length" (Text.ofNat length) headers,
    bodyFor r (Multipart.body boundary f.contentType f.content ranges)⟩

/-- What a Range header makes of the file. -/
def ranged (f : ServedFile) (boundary : Text) (r : Request) (header : Text) : Response :=
  match ByteRange.select f.content.length header with
  | .ignored => f.whole 200 r
  | .badRequest fault => Response.plain 400 [] fault.message
  | .unsatisfiable =>
    Response.plain 416 [("content-range", ByteRange.noContentRange f.content.length)] []
  | .ranges [range] => f.single r range
  | .ranges ranges => f.several boundary r ranges

/-- The answer to a request for the file. -/
def respond (f : ServedFile) (boundary : Text) (r : Request) : Response :=
  if f.validator.isFresh r then f.notModified
  else if (r.verb = "GET" || r.verb = "HEAD") && f.validator.allowsRange r then
    match r.header? "range" with
    | some header => f.ranged boundary r header
    | none => f.whole 200 r
  else f.whole 200 r

end ServedFile

end StaticServer
