import StaticServer.FileTree.Walk
import StaticServer.Settings.Dotenv
import StaticServer.Settings.SourcePath
import StaticServer.Text.Encoding

/-!
# Reading settings files

The settings files of an option are read one after the other, in an encoding that may be asked
for. A file that is missing gives nothing. What is wrong with the encoding's name shows only
when there is a file to be read.
-/

namespace StaticServer.Dotenv

/-- The name of the settings file. -/
def fileName : Text :=
  ".env"

/-- Why settings files cannot be read. -/
inductive ReadError where
  /-- It is not said where they are. -/
  | place (e : SourcePathError)
  /-- A name on the way to one of them is too long. -/
  | unreachable (e : PathError)
  /-- What is given as the name of the encoding is no text. -/
  | notAName (v : RawValue)
  /-- The name of the encoding holds the character NUL. -/
  | nulInName
  /-- There is no encoding of that name. -/
  | unknownEncoding (name : Text)
  /-- The encoding of that name is not for text. -/
  | notForText (name : Text)
  /-- A file holds no text in the encoding. -/
  | undecodable (e : Text.DecodeError)
  deriving DecidableEq

/-- The message of an error. -/
def ReadError.message : ReadError → Text
  | .place e => e.message
  | .unreachable e => e.message
  | .notAName v => "open() argument 'encoding' must be str or None, not " ++ v.kindName
  | .nulInName => "embedded null character"
  | .unknownEncoding name => "unknown encoding: " ++ name
  | .notForText name =>
    Text.quoted name ++
      " is not a text encoding; use codecs.open() to handle arbitrary codecs"
  | .undecodable e => e.message

/-- The encoding that a value names; without a value it is UTF-8. -/
def encodingOf : RawValue → Except ReadError Text.Encoding
  | .null => .ok .utf8
  | .text name =>
    if name.contains '\x00' then .error .nulInName
    else
      match Text.Encoding.ofName? name with
      | none => .error (.unknownEncoding name)
      | some .other => .error (.notForText name)
      | some (.text e) => .ok e
  | v => .error (.notAName v)

/-- The text of some bytes in the encoding that a value names. -/
def decode (encoding : RawValue) (content : Bytes) : Except ReadError Text := do
  let e ← encodingOf encoding
  (e.decode content).mapError .undecodable

/-- The text of the settings file with a path; empty when there is no such file. -/
def read (t : FileTree) (encoding : RawValue) (path : Text) : Except ReadError Text :=
  match t.resolve path with
  | .error .nameTooLong => .error (.unreachable ⟨.nameTooLong, path⟩)
  | .error _ => .ok []
  | .ok p =>
    match t.get? p with
    | some (.file data) => decode encoding data.content
    | _ => .ok []

/-- The names that the settings file of an item gives, with their values. -/
def readItem (env : Environment) (t : FileTree) (encoding item : RawValue) :
    Except ReadError (Bindings (Option Text)) := do
  let path ← (SourcePath.path env item).mapError .place
  let text ← read t encoding path
  .ok (bindings env text)

/-- The names that settings files give, with their values; those of a later file come later. -/
def readAll (env : Environment) (t : FileTree) (encoding files : RawValue) :
    Except ReadError (Bindings (Option Text)) := do
  let items ← (SourcePath.items files).mapError .place
  let all ← items.mapM (readItem env t encoding)
  .ok all.flatten

end StaticServer.Dotenv
