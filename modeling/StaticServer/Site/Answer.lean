import StaticServer.Http.FileResponse
import StaticServer.Http.Location
import StaticServer.Site.Listing
import StaticServer.Site.Lookup

/-!
# Answering with files

`Site.answer` answers a request from the files below a root: it chooses what the answer is made
of (`choose`) and presents that (`present`). A regular file is sent. A directory answers with its
index page; without one, the root's page for missing files comes next, and if there is none
either, a listing of the directory. A directory is only shown under a path that ends in a slash,
so that the addresses in it lead to its entries; any other path is sent on to that one.

A request can also be refused (`Refusal`): nothing is found, or it may not be looked at, or
the answer fails in a way that no rule provides for.
-/

namespace StaticServer

/-- Why a request gets no file. -/
inductive Refusal where
  /-- There is nothing behind the path. -/
  | notFound
  /-- The entry may not be looked at. -/
  | unauthorized
  /-- Something failed on the way that no rule provides for. -/
  | failed
  deriving DecidableEq, Repr

/-- What is served, and how parts of a body are kept apart. -/
structure Site where
  /-- The directory whose files are served. -/
  root : Path
  /-- The boundary between the parts of a body with several ranges. -/
  boundary : Text

namespace Site

/-- The name of a directory's page. -/
def indexName : Text :=
  "index.html"

/-- The name of the root's page for what is not found. -/
def missingName : Text :=
  "404.html"

/-- Does a text end in a slash? -/
def endsInSlash (t : Text) : Bool :=
  t.getLast? = some '/'

/-- What an answer is made of. -/
inductive Choice where
  /-- The file at a place, as far as the request asks for it. -/
  | file (place : Path) (data : FileData)
  /-- The page for missing files, whole. -/
  | missingPage (place : Path) (data : FileData)
  /-- The listing of the directory at a place. -/
  | listing (place : Path)
  /-- Nothing: the client is sent on to the same path with a slash behind it. -/
  | slash
  deriving DecidableEq

/-! ### Choosing -/

/-- The choice when there is no file for the path: a listing, if it leads to a directory. -/
def orListing (s : Site) (v : Lookup.View) (parts : List Text) (r : Request) :
    Except Refusal Choice :=
  match Lookup.find v s.root parts with
  | .error _ => .error .failed
  | .ok (some ⟨place, .directory⟩) =>
    if endsInSlash (Location.path r) then .ok (.listing place) else .ok .slash
  | .ok _ => .error .notFound

/-- The choice when there is neither a file nor an index page for the path. -/
def orMissingPage (s : Site) (v : Lookup.View) (parts : List Text) (r : Request) :
    Except Refusal Choice :=
  match Lookup.find v s.root [missingName] with
  | .error _ => .error .failed
  | .ok (some ⟨place, .file data⟩) => .ok (.missingPage place data)
  | .ok _ => s.orListing v parts r

/-- The choice for a directory: its index page, if there is one. -/
def index (s : Site) (v : Lookup.View) (parts : List Text) (r : Request) :
    Except Refusal Choice :=
  match Lookup.find v s.root (parts ++ [indexName]) with
  | .error _ => .error .failed
  | .ok (some ⟨place, .file data⟩) =>
    if endsInSlash r.path then .ok (.file place data) else .ok .slash
  | .ok _ => s.orMissingPage v parts r

/-- What the answer to a request is made of. A path that the file system refuses outright is
looked up once more as a directory to be listed, and fails there. -/
def choose (s : Site) (v : Lookup.View) (r : Request) : Except Refusal Choice :=
  let parts := Lookup.relativeParts r.path
  match Lookup.find v s.root parts with
  | .error .denied => .error .unauthorized
  | .error .nameTooLong => s.orListing v parts r
  | .error .nulCharacter => s.orListing v parts r
  | .error _ => .error .failed
  | .ok (some ⟨place, .file data⟩) => .ok (.file place data)
  | .ok (some ⟨_, .directory⟩) => s.index v parts r
  | .ok _ => s.orMissingPage v parts r

/-! ### Answering -/

/-- A file with an answer made from it; without a date that can be shown there is none. -/
def sendFile (place : Path) (data : FileData) (make : ServedFile → Response) :
    Except Refusal Response :=
  match ServedFile.of? (place.getLast?.getD []) data with
  | some f => .ok (make f)
  | none => .error .failed

/-- The page that lists the directory at a place; one with an entry that cannot be looked at
has none. -/
def list (t : FileTree) (place : Path) : Except Refusal Response :=
  match Listing.render t (Path.text place) with
  | .ok page => .ok (Response.html page)
  | .error _ => .error .failed

/-- The answer that a choice makes. -/
def present (s : Site) (t : FileTree) (r : Request) : Choice → Except Refusal Response
  | .file place data => sendFile place data (·.respond s.boundary r)
  | .missingPage place data => sendFile place data (·.whole 404 r)
  | .listing place => list t place
  | .slash => .ok (Response.redirect (Location.withSlash r))

/-- The answer to a request. -/
def answer (s : Site) (t : FileTree) (r : Request) : Except Refusal Response :=
  match s.choose ⟨t, r.denied⟩ r with
  | .error refusal => .error refusal
  | .ok choice => s.present t r choice

end Site

end StaticServer
