import StaticServer.Calendar.HttpDate
import StaticServer.Digest.Md5
import StaticServer.FileTree.Basic
import StaticServer.Http.Message
import StaticServer.Number.Shortest

/-!
# Validators

What a client can keep to ask later whether a file has changed: an entity tag, made of the
file's modification time and size, and the date of its last modification. A request that
names the tag, or failing that a date that is late enough, is answered without the file.
-/

namespace StaticServer

/-- What identifies a version of a file. -/
structure Validator where
  /-- The entity tag, with its quotation marks. -/
  etag : Text
  /-- The date of the last modification. -/
  lastModified : Text
  deriving DecidableEq

namespace Validator

/-- The text whose digest is the entity tag of a file. -/
def fingerprint (data : FileData) : Text :=
  Shortest.text (Timestamp.seconds data.modified) ++ '-' :: Text.ofNat data.content.length

/-- The entity tag of a file. -/
def etagOf (data : FileData) : Text :=
  '\x22' :: Md5.hexDigest (fingerprint data) ++ ['\x22']

/-- The first and the last second that a date can show: the years 1 to 9999. -/
def dateRange : Int × Int :=
  (-62135596800, 253402300799)

/-- The validator of a file; there is none when no date can show its modification time. -/
def ofFile? (data : FileData) : Option Validator :=
  let second := Timestamp.wholeSeconds (Timestamp.seconds data.modified)
  if dateRange.1 ≤ second ∧ second ≤ dateRange.2 then
    some ⟨etagOf data, Calendar.HttpDate.print second⟩
  else none

/-- The tags of an If-None-Match header, without the mark of a weak tag. -/
def listedTags (t : Text) : List Text :=
  (t.splitOn ',').map fun item ↦
    let tag := Text.trim item
    (Text.dropLead? "W/" tag).getD tag

/-- Does an If-None-Match header name an entity tag? -/
def isNamedBy (etag t : Text) : Bool :=
  Text.trim t = "*" || (listedTags t).contains etag

/-- Is a file unchanged since the date of an If-Modified-Since header? -/
def isNotAfter (lastModified t : Text) : Bool :=
  match Calendar.HttpDate.parse? t, Calendar.HttpDate.parse? lastModified with
  | some since, some modified => since.notBefore modified
  | _, _ => false

/-- Does the client have this version already? A date is asked only when no tag is named. -/
def isFresh (v : Validator) (r : Request) : Bool :=
  match r.header? "if-none-match" with
  | some (c :: t) => isNamedBy v.etag (c :: t)
  | _ =>
    match r.header? "if-modified-since" with
    | some t => isNotAfter v.lastModified t
    | none => false

/-- May a Range header be followed? An If-Range header has to name this version exactly. -/
def allowsRange (v : Validator) (r : Request) : Bool :=
  match r.header? "if-range" with
  | some t => t = v.etag || t = v.lastModified
  | none => true

/-- The headers that give a validator. -/
def headers (v : Validator) : Headers :=
  [("last-modified", v.lastModified), ("etag", v.etag)]

end Validator

end StaticServer
