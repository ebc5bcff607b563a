import StaticServer.Settings.Arguments
import StaticServer.Settings.Dotenv.File

/-!
# How settings are looked up

In the environment, in settings files and in directories of secrets a field is named by a
lead and its own name. Letter case counts in names only on request, and so it can be asked
that empty texts count as missing or that one text stands for no value. There can be several
settings files and directories, or none, and arguments.

A program gives these options among the values of fields, under names of their own
(`SourceOptions.ofValues`).
-/

namespace StaticServer

/-- How settings are looked up. -/
structure SourceOptions where
  /-- What stands before the name of a field. -/
  lead : Text := "DEVSERVER_"
  /-- Does the lead stand before the names of fields? Otherwise only before those of entries of
  settings files, where it is not needed. -/
  leadsFields : Bool := true
  /-- Does letter case count in names outside the program? -/
  exactCase : Bool := false
  /-- Do empty texts count as missing? -/
  skipEmpty : Bool := false
  /-- The text that stands for no value, if there is one. -/
  nullWord : Option Text := none
  /-- Where the settings files are; what a later one says counts. -/
  files : RawValue := .text Dotenv.fileName
  /-- The name of the encoding of the settings files, if it is not UTF-8. -/
  encoding : RawValue := .null
  /-- Where the directories of secrets are; what a later one holds counts. -/
  secrets : RawValue := .null
  /-- How arguments are read. -/
  arguments : ArgumentOptions := {}

namespace SourceOptions

/-- A name outside the program as it is compared with others. -/
def fold (o : SourceOptions) (name : Text) : Text :=
  if o.exactCase then name else Text.lower name

/-- The name of a field outside the program, as it is compared with others. -/
def variableName (o : SourceOptions) (f : Field) : Text :=
  o.fold (if o.leadsFields then o.lead ++ f.name else f.name)

/-- The name of a field behind the lead where it is not needed. -/
def extraName? (o : SourceOptions) (f : Field) : Option Text :=
  if o.leadsFields then none else some (o.fold (o.lead ++ f.name))

/-- The value that a text gives for a field. -/
def valueOf (o : SourceOptions) (t : Text) : RawValue :=
  if o.nullWord = some t then .null else .text t

/-- Does a text count, or is it skipped as an empty one? -/
def counts (o : SourceOptions) (t : Text) : Bool :=
  !(o.skipEmpty && t.isEmpty)

/-! ### Options among values -/

/-- The value of an option, unless it is left to the default. -/
def given? (values : Bindings RawValue) (name : Text) : Option RawValue :=
  (values.get? name).filter (· ≠ .null)

/-- The text of an option, if it is one. -/
def text? (values : Bindings RawValue) (name : Text) : Option Text :=
  match values.get? name with
  | some (.text t) => some t
  | _ => none

/-- Is an option given and counts as a yes? -/
def isOn (values : Bindings RawValue) (name : Text) : Bool :=
  (given? values name).any RawValue.isYes

/-- The name of the option for the lead. -/
def leadName : Text :=
  "_env_prefix"

/-- What is given for the lead, if it is no text. -/
def leadFault? (values : Bindings RawValue) : Option RawValue :=
  match given? values leadName with
  | some (.text _) => none
  | v => v

/-- What the lead stands before when it stands before the names of fields. -/
def fieldTargets : List RawValue :=
  [.text "variable", .text "all"]

/-- How arguments are read by the options among values. -/
def argumentsOf (values : Bindings RawValue) : ArgumentOptions :=
  let standard : Text := if isOn values "_cli_avoid_json" then "None" else "null"
  let o : ArgumentOptions := {}
  { given := (values.get? "_cli_parse_args").getD o.given
    lead := (text? values "_cli_prefix").getD o.lead
    hyphens := isOn values "_cli_kebab_case"
    exactCase := isOn values "_case_sensitive"
    nullWord := ((text? values "_cli_parse_none_str").filter (!·.isEmpty)).getD standard
    lenient := isOn values "_cli_ignore_unknown_args"
    exits := ((given? values "_cli_exit_on_error").map RawValue.isYes).getD o.exits }

/-- The options among values. -/
def ofValues (values : Bindings RawValue) : SourceOptions :=
  let o : SourceOptions := {}
  { lead := (text? values leadName).getD o.lead
    leadsFields :=
      ((given? values "_env_prefix_target").map fieldTargets.contains).getD o.leadsFields
    exactCase := isOn values "_case_sensitive"
    skipEmpty := isOn values "_env_ignore_empty"
    nullWord := text? values "_env_parse_none_str"
    files := (values.get? "_env_file").getD o.files
    encoding := (values.get? "_env_file_encoding").getD o.encoding
    secrets := (values.get? "_secrets_dir").getD o.secrets
    arguments := argumentsOf values }

end SourceOptions

end StaticServer
