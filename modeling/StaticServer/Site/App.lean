import StaticServer.Http.Location
import StaticServer.Http.MediaType
import StaticServer.Site.Answer

/-!
# The application

`App.handle` answers one request. A path has to start with a slash and to be one line, a
line break at its very end apart; another path is sent on to the one with its slashes
dropped or with a slash added, if that is such a path, and is not found otherwise.

Before the first file is served the root is looked at; as long as it is not there, every
request fails. That it has been found once is all that an application remembers.

Every response, but for that to a failure, says that it must not be kept without asking again, and
that pages from anywhere may read it (`DevHeaders.put`). An address that ends in `.wasm` gets the
type that a browser needs to compile the module while it arrives, unless the response is an error.
-/

namespace StaticServer

/-! ### Headers for development -/

namespace DevHeaders

/-- The headers that every response has. -/
def always : Headers :=
  [("cache-control", "no-cache"), ("access-control-allow-origin", "*")]

/-- The end of an address that names a module of WebAssembly. -/
def wasmSuffix : Text :=
  ".wasm"

/-- Is a request for a module of WebAssembly? -/
def isForWasm (r : Request) : Bool :=
  wasmSuffix.isSuffixOf (Location.path r)

/-- The headers of a response with those that every response has. -/
def withAlways (h : Headers) : Headers :=
  always.foldl (fun h (name, value) ↦ h.set name value) h

/-- A response with the headers for development. -/
def put (r : Request) (a : Response) : Response :=
  let headers := withAlways a.headers
  if isForWasm r && a.status < 400 then
    { a with headers := headers.set "content-type" MediaType.wasm }
  else { a with headers := headers }

end DevHeaders

/-! ### Answering requests -/

/-- Is a path one line that starts with a slash, perhaps with a line break behind it? -/
def isRoutable (path : Text) : Bool :=
  match path with
  | '/' :: rest => !rest.dropLast.contains '\n'
  | _ => false

/-- The path that is tried in the place of another: without its slashes at the end, or with
one when it has none. -/
def otherPath (path : Text) : Text :=
  if Site.endsInSlash path then Text.trimRightBy (· == '/') path else path ++ ['/']

/-- An application. -/
structure App where
  /-- Its title. -/
  title : Text
  /-- Its version. -/
  version : Text
  /-- What it serves. -/
  site : Site
  /-- Has the root been found? -/
  checked : Bool

namespace App

/-- Is the root a directory that may be looked at? It is looked at where it is written to be,
whatever links there are on the way. -/
def rootIsThere (s : Site) (v : Lookup.View) : Bool :=
  !v.isDenied s.root && v.tree.leadsToDirectory (Path.text s.root)

/-- The answer to a path that is not one line that starts with a slash. -/
def reroute (r : Request) : Response :=
  let path := otherPath r.path
  if isRoutable path then Response.redirect (Location.withPath r path)
  else Response.detail 404 "Not Found"

/-- The response to a request that gets no file, if it is one that the rules provide for. -/
def ofRefusal? : Refusal → Option Response
  | .notFound => some (Response.detail 404 "Not Found")
  | .unauthorized => some (Response.detail 401 "Unauthorized")
  | .failed => none

/-- The response to a failure, which no further headers are put on. -/
def failure : Response :=
  Response.plain 500 [] "Internal Server Error"

/-- The response of the files, if there is one that the rules provide for. -/
def fromFiles? (s : Site) (t : FileTree) (r : Request) : Option Response :=
  match s.answer t r with
  | .ok a => some a
  | .error refusal => ofRefusal? refusal

/-- A response as it is sent for a method: nothing but the headers for `HEAD`. -/
def deliver (r : Request) (a : Response) : Response :=
  if r.method = "HEAD" then { a with body := [] } else a

/-- The response of the files to a request with a path that can be served, and whether the
root has been found. -/
def serve (app : App) (t : FileTree) (r : Request) : Option Response × Bool :=
  if app.checked || rootIsThere app.site ⟨t, r.denied⟩ then (fromFiles? app.site t r, true)
  else (none, false)

/-- The response to a request and the application after it. -/
def handle (app : App) (t : FileTree) (r : Request) : Response × App :=
  let (answer, checked) :=
    if isRoutable r.path then app.serve t r else (some (reroute r), app.checked)
  (deliver r ((answer.map (DevHeaders.put r)).getD failure), { app with checked := checked })

end App

end StaticServer
