import StaticServer.Settings.Issue
import StaticServer.Settings.Secrets

/-!
# Where settings come from

A field takes its value from the first source that has it: the arguments, the values given in
the program, the environment, the settings files, the directories of secrets, and its default.
Only that value is looked at: a value that cannot be taken is an issue, whatever the other
sources say. All fields with an issue are reported, in the order of their declaration.
-/

namespace StaticServer

/-- The sources of settings, without the defaults. -/
structure Sources where
  /-- How fields are looked up in them. -/
  options : SourceOptions
  /-- The values that arguments give to fields, in order. -/
  arguments : List (Field × Text) := []
  /-- Values by the names of fields. -/
  values : Bindings RawValue
  /-- The environment. -/
  environment : Environment
  /-- The entries of the settings files. -/
  file : Bindings (Option Text)
  /-- The secrets of fields. -/
  secrets : List (Field × Text)

/-- Why sources cannot be read. -/
inductive SourceError where
  /-- What is to stand before the names of fields is no text. -/
  | lead (v : RawValue)
  /-- A settings file cannot be read. -/
  | file (e : Dotenv.ReadError)
  /-- The arguments cannot be read. -/
  | arguments (e : Arguments.ReadError)
  /-- A directory of secrets cannot be read. -/
  | secrets (e : Secrets.ReadError)
  deriving DecidableEq

/-- The message about a value that cannot stand before the names of fields. -/
def leadMessage : RawValue → Text
  | .list _ => "can only concatenate list (not \"str\") to list"
  | .record _ => "unsupported operand type(s) for +: 'dict' and 'str'"
  | v => "object of type " ++ (Text.quoted v.kindName ++ " has no len()")

/-- The message of an error. -/
def SourceError.message : SourceError → Text
  | .lead v => leadMessage v
  | .file e => e.message
  | .arguments e => e.message
  | .secrets e => e.message

namespace Sources

/-- The sources of a program with some values, an environment and the tree that it runs in,
if the files and the arguments can be read. -/
def of (o : SourceOptions) (values : Bindings RawValue) (env : Environment) (t : FileTree) :
    Except SourceError Sources := do
  let file ← (Dotenv.readAll env t o.encoding o.files).mapError .file
  let arguments ← (Arguments.read o.arguments).mapError .arguments
  let secrets ← (Secrets.read o env t).mapError .secrets
  .ok ⟨o, arguments, values, env, file, secrets⟩

/-- The value of a field among the arguments, the last of which counts. -/
def inArguments? (s : Sources) (f : Field) : Option RawValue :=
  (s.arguments.reverse.lookup f).map fun t ↦
    if t = s.options.arguments.nullWord then .null else .text t

/-- The value of a field where values are given in the program. Letter case does not count in
their names; of several names that differ in it only, the first one counts. -/
def given? (s : Sources) (f : Field) : Option RawValue :=
  s.values.firstLike? Text.lower f.name

/-- The value of a field in the environment. Of several names that differ in letter case only,
the last one counts. -/
def inEnvironment? (s : Sources) (f : Field) : Option RawValue :=
  let present := s.environment.filter fun (_, t) ↦ s.options.counts t
  (Bindings.lastLike? s.options.fold present (s.options.variableName f)).map s.options.valueOf

/-- The value of a name in the settings files. Of several names that differ in letter case
only, the last one counts; without a value it hides the others and counts as missing. -/
def entry? (s : Sources) (name : Text) : Option Text :=
  let present := s.file.filter fun (_, t) ↦ t.all s.options.counts
  (Bindings.lastLike? s.options.fold present name).join

/-- The value of a field in the settings files, by its name behind the lead where that is not
needed, unless it is empty, or else by its own. -/
def inFile? (s : Sources) (f : Field) : Option RawValue :=
  let extra := (s.options.extraName? f).bind s.entry?
  match extra.filter (!·.isEmpty) with
  | some t => some (.text t)
  | none => (s.entry? (s.options.variableName f)).map s.options.valueOf

/-- The value of a field among the secrets. -/
def inSecrets? (s : Sources) (f : Field) : Option RawValue :=
  (s.secrets.lookup f).map .text

/-- The value of a field in the first source that has it. -/
def select (s : Sources) (f : Field) : Option RawValue :=
  s.inArguments? f <|> s.given? f <|> s.inEnvironment? f <|> s.inFile? f <|> s.inSecrets? f

/-- The field's value as `read` takes it, or the default when no source has one. -/
def field {α : Type} (s : Sources) (read : RawValue → Except Issue α) (f : Field)
    (default : α) : Except Detail α :=
  match s.select f with
  | none => .ok default
  | some v => (read v).mapError (⟨f.name, ·⟩)

end Sources

/-- What is wrong with a field, if anything. -/
def Detail.ofResult? {α : Type} : Except Detail α → Option Detail
  | .ok _ => none
  | .error d => some d

namespace Settings

/-- The settings that the sources give. -/
def load (s : Sources) : Except (List Detail) Settings :=
  let projectName := s.field textOf .projectName defaultProjectName
  let version := s.field textOf .version defaultVersion
  let directory := s.field textOf .directory defaultDirectory
  let host := s.field textOf .host defaultHost
  let port := s.field portOf .port defaultPort
  let logLevel := s.field textOf .logLevel defaultLogLevel
  match projectName, version, directory, host, port, logLevel with
  | .ok projectName, .ok version, .ok directory, .ok host, .ok port, .ok logLevel =>
    .ok ⟨projectName, version, some directory, some host, some port, some logLevel⟩
  | _, _, _, _, _, _ =>
    .error ([projectName, version, directory, host].filterMap Detail.ofResult? ++
      ([port].filterMap Detail.ofResult? ++ [logLevel].filterMap Detail.ofResult?))

end Settings

end StaticServer
