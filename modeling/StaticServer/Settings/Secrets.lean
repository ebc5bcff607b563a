import StaticServer.FileTree.RealPath
import StaticServer.Settings.Options

/-!
# Directories of secrets

A directory of secrets holds a file for each field that it gives: the name of the file is that
of the field, and what it holds, without the blanks around it, is the value. Of several
directories the last one with such an entry counts, and a directory that is missing gives
nothing.

An entry may be a link to a file inside its directory. One that leads out of the directory, in
a circle or to another directory is passed over; one that leads nowhere, and a file that is no
text, make the field unreadable.
-/

namespace StaticServer.Secrets

/-- Why secrets cannot be read. -/
inductive ReadError where
  /-- It is not said where they are. -/
  | place (e : SourcePathError)
  /-- A name on the way to a directory is too long. -/
  | unreachable (e : PathError)
  /-- The path of a directory is that of a file. -/
  | notDirectory
  /-- The secret of a field cannot be read. -/
  | unreadable (f : Field)
  deriving DecidableEq

/-- The message of an error. -/
def ReadError.message : ReadError → Text
  | .place e => e.message
  | .unreachable e => e.message
  | .notDirectory => "secrets_dir must reference a directory, not a file"
  | .unreadable f =>
    "error getting value for field \"" ++ (f.name ++ "\" from source \"SecretsSettingsSource\"")

/-! ### Directories -/

/-- The paths of directories that are not missing. -/
def present (t : FileTree) (paths : List Text) : Except ReadError (List Text) :=
  paths.filterM fun path ↦
    match t.resolve path with
    | .ok _ => .ok true
    | .error .nameTooLong => .error (.unreachable ⟨.nameTooLong, path⟩)
    | .error _ => .ok false

/-- The paths of the directories that a value gives, without those that are missing. -/
def directories (env : Environment) (t : FileTree) (v : RawValue) :
    Except ReadError (List Text) := do
  let items ← (SourcePath.items v).mapError .place
  let paths ← items.mapM fun item ↦ (SourcePath.path env item).mapError .place
  let there ← present t paths
  if there.all t.leadsToDirectory then .ok there else .error .notDirectory

/-! ### Secrets -/

/-- The text of a secret. -/
def textOf (f : Field) (content : Bytes) : Except ReadError Text :=
  match Text.Utf8.decodeStrict content with
  | .ok t => .ok (Text.trim (Text.unifyBreaks false t))
  | .error _ => .error (.unreadable f)

/-- The text of the secret at a real path in a directory, unless it is passed over. -/
def textAt? (t : FileTree) (f : Field) (directory place : Path) :
    Except ReadError (Option Text) :=
  match t.resolve (Path.text place) with
  | .error .tooManyLinks => .ok none
  | .error _ => if Path.isWithin directory place then .error (.unreadable f) else .ok none
  | .ok p =>
    match t.get? p with
    | some (.file data) =>
      if Path.isWithin directory place then (textOf f data.content).map some else .ok none
    | _ => .ok none

/-- The secret of a field in a directory, if there is one. -/
def secret? (o : SourceOptions) (t : FileTree) (f : Field) (directory : Text) :
    Except ReadError (Option Text) :=
  match t.realPathOf directory with
  | .error _ => .ok none
  | .ok place =>
    match (t.names place).find? fun name ↦ o.fold name = o.variableName f with
    | none => .ok none
    | some name =>
      match t.realPathOf (Path.joinText directory name) with
      | .error _ => .ok none
      | .ok p => textAt? t f place p

/-- The secret of a field in the first of some directories that has it. -/
def first? (o : SourceOptions) (t : FileTree) (f : Field) :
    List Text → Except ReadError (Option Text)
  | [] => .ok none
  | directory :: rest => do
    match ← secret? o t f directory with
    | some secret => .ok (some secret)
    | none => first? o t f rest

/-- The secrets of the fields that have one. -/
def read (o : SourceOptions) (env : Environment) (t : FileTree) :
    Except ReadError (List (Field × Text)) := do
  let there ← directories env t o.secrets
  let secrets ← Field.all.mapM fun f ↦ do
    let secret ← first? o t f there.reverse
    .ok (secret.map fun text ↦ (f, text))
  .ok (secrets.filterMap id)

end StaticServer.Secrets
