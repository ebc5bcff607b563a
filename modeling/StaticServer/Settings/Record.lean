import StaticServer.CommandLine.Flags
import StaticServer.Settings.Environment
import StaticServer.Settings.Issue

/-!
# Settings as a record

Loaded settings are a record: a value for each field, and beside the fields what the loading
has noted about them. No field takes another value. A name that starts with an underscore is
not that of a field, and nothing looks at its value (`assign`), apart from a few names that
stand for the record itself: for its kind, for its fields, for the notes, for what all records
of the kind share, and for what follows from the fields.

So the record may come to hold fields that no settings have, and then showing it may fail
(`shown`), and so may giving it the flags of a command line (`withFlags`).
-/

namespace StaticServer

/-- Settings as a record. -/
structure SettingsRecord where
  /-- The values of the fields and of other names. -/
  fields : Bindings RawValue
  /-- What stands for the names of the fields that were given, unless they are as noted. -/
  given : Option RawValue := none
  /-- What stands for the hidden names, if anything. -/
  hidden : RawValue := .null
  /-- What stands for the names that are not those of fields, if anything. -/
  extra : RawValue := .null

namespace SettingsRecord

/-! ### Errors -/

/-- What cannot be done with a record of settings. -/
inductive Error where
  /-- A field, or what might be one, does not take another value. -/
  | frozen (d : Detail)
  /-- The kind of the record cannot be this value. -/
  | notAClass (v : RawValue)
  /-- The fields of the record cannot be this value. -/
  | notFields (v : RawValue)
  /-- The name is for what all records of the kind share. -/
  | shared (name : Text)
  /-- The name is for what follows from the fields. -/
  | derived (name : Text)
  /-- The name is for what cannot be given. -/
  | notWritable (name : Text)
  /-- The name is for what all values of a kind share. -/
  | readOnly (v : RawValue) (name : Text)
  /-- What is to be called is no function. -/
  | notCallable (v : RawValue)
  /-- A value does not have what is asked of it. -/
  | noAttribute (v : RawValue) (name : Text)
  /-- A field is missing. -/
  | noField (name : Text)
  /-- A value that is no record is asked for a name. -/
  | noNames (v : RawValue)
  /-- A name of some length stands where a name and a value should. -/
  | notAPair (length : Nat)
  deriving DecidableEq

/-- The name that stands for the kind of a record. -/
def className : Text :=
  "__class__"

/-- The name that stands for the fields of a record. -/
def fieldsName : Text :=
  "__dict__"

/-- The message about a value that is asked for a name and has none. -/
def noNamesMessage : RawValue → Text
  | .text _ => "string indices must be integers, not 'str'"
  | .list _ => "list indices must be integers or slices, not str"
  | v => Text.quoted v.kindName ++ " object is not subscriptable"

/-- The message of an error. -/
def Error.message : Error → Text
  | .frozen d => d.issue.message
  | .notAClass v =>
    className ++ (" must be set to a class, not " ++ (Text.quoted v.kindName ++ " object"))
  | .notFields v =>
    fieldsName ++ (" must be set to a dictionary, not a " ++ Text.quoted v.kindName)
  | .shared name =>
    Text.quoted name ++ (" is a ClassVar of `Settings` and cannot be set on an instance. " ++
      ("If you want to set a value on the class, use `Settings." ++ (name ++ " = value`.")))
  | .derived name =>
    "property " ++ (Text.quoted name ++ " of 'Settings' object has no setter")
  | .notWritable name =>
    "attribute " ++ (Text.quoted name ++ " of 'BaseSettings' objects is not writable")
  | .readOnly v name =>
    Text.quoted v.kindName ++ (" object attribute " ++ (Text.quoted name ++ " is read-only"))
  | .notCallable v => v.notCallableMessage
  | .noAttribute v name => v.noAttributeMessage name
  | .noField name => "'Settings' object has no attribute " ++ Text.quoted name
  | .noNames v => noNamesMessage v
  | .notAPair length =>
    "dictionary update sequence element #0 has length " ++
      (Text.ofNat length ++ "; 2 is required")

/-! ### The record of settings -/

/-- The value of a field in settings. -/
def valueOf (s : Settings) : Field → RawValue
  | .projectName => .text s.projectName
  | .version => .text s.version
  | .directory => .ofField .text s.directory
  | .host => .ofField .text s.host
  | .port => .ofField .integer s.port
  | .logLevel => .ofField .text s.logLevel

/-- The record of settings. -/
def ofSettings (s : Settings) : SettingsRecord :=
  { fields := Field.all.map fun f ↦ (f.name, valueOf s f) }

/-! ### Giving values -/

/-- The names of what all records of the kind share. -/
def sharedNames : List Text :=
  ["__class_vars__", "__private_attributes__", "__signature__", "__pydantic_complete__",
    "__pydantic_core_schema__", "__pydantic_custom_init__", "__pydantic_decorators__",
    "__pydantic_generic_metadata__", "__pydantic_parent_namespace__", "__pydantic_post_init__",
    "__pydantic_root_model__", "__pydantic_serializer__", "__pydantic_validator__",
    "__pydantic_fields__", "__pydantic_setattr_handlers__", "__pydantic_computed_fields__"]

/-- The names of what follows from the fields. -/
def derivedNames : List Text :=
  ["__fields__", "__fields_set__"]

/-- The name that cannot be given anything. -/
def referenceName : Text :=
  "__weakref__"

/-- The name that stands for the names of the fields that were given. -/
def givenName : Text :=
  "__pydantic_fields_set__"

/-- The name that stands for the hidden names. -/
def hiddenName : Text :=
  "__pydantic_private__"

/-- The name that stands for the names that are not those of fields. -/
def extraName : Text :=
  "__pydantic_extra__"

/-- The name of what looks after the giving of values, which fields can hide. -/
def keeperName : Text :=
  "_setattr_handler"

/-- The record with a value for a name that is not that of a field. -/
def put (r : SettingsRecord) (name : Text) (v : RawValue) : Except Error SettingsRecord :=
  if name = className then .error (.notAClass v)
  else if sharedNames.contains name then .error (.shared name)
  else if derivedNames.contains name then .error (.derived name)
  else if name = referenceName then .error (.notWritable name)
  else if name = givenName then .ok { r with given := some v }
  else if name = hiddenName then .ok { r with hidden := v }
  else if name = extraName then .ok { r with extra := v }
  else if name = fieldsName then
    match v with
    | .record fields => .ok { r with fields := fields }
    | _ => .error (.notFields v)
  else .ok { r with fields := r.fields.put name v }

/-- The record with a value for a name, unless the name is that of a field or might be. -/
def assign (r : SettingsRecord) (name : Text) (v : RawValue) : Except Error SettingsRecord :=
  match r.fields.get? keeperName with
  | some keeper => .error (.notCallable keeper)
  | none =>
    if name.head? = some '_' then r.put name v
    else .error (.frozen ⟨name, .frozenInstance⟩)

/-- The names of what all values share, even nothing. -/
def commonNames : List Text :=
  ["__bool__", "__delattr__", "__dir__", "__doc__", "__eq__", "__format__", "__ge__",
    "__getattribute__", "__getstate__", "__gt__", "__hash__", "__init__", "__init_subclass__",
    "__le__", "__lt__", "__ne__", "__new__", "__reduce__", "__reduce_ex__", "__repr__",
    "__setattr__", "__sizeof__", "__str__", "__subclasshook__"]

/-- What is wrong with giving a name a value where there is no record. -/
def faultWithout (name : Text) (v : RawValue) : Error :=
  if name = className then .notAClass v
  else if commonNames.contains name then .readOnly .null name
  else .noAttribute .null name

/-! ### Giving flags -/

/-- The value of a flag; without one it is the empty list. -/
def flagValue? {α : Type} (value : α → RawValue) : Flag α → Option RawValue
  | .absent => none
  | .blank => some (.list [])
  | .given a => some (value a)

/-- The fields that flags give, with their values. -/
def flagFields (f : Flags) : List (Text × RawValue) :=
  [(Field.directory.name, flagValue? .text f.directory), (Field.host.name, flagValue? .text f.host),
    (Field.port.name, flagValue? .integer f.port),
    (Field.logLevel.name, flagValue? .text f.logLevel)].filterMap fun (name, v) ↦
      v.map (name, ·)

/-- The names of what copies a record, which fields can hide. -/
def copyNames : List Text :=
  ["model_copy", "__copy__"]

/-- Why a record cannot be copied, if it cannot. -/
def copyFault? (r : SettingsRecord) : Option Error :=
  match copyNames.findSome? r.fields.get? with
  | some v => some (.notCallable v)
  | none =>
    match r.hidden with
    | .null => none
    | .record _ => none
    | v => some (.noAttribute v "items")

/-- Why more names cannot be noted as given, if they cannot. -/
def noteFault? (r : SettingsRecord) (names : List Text) : Option Error :=
  match names, r.given with
  | [], _ => none
  | _, none => none
  | name :: _, some (.record _) => some (.notAPair name.length)
  | _, some v => some (.noAttribute v "update")

/-- A copy of the record with the flags in the place of its fields. -/
def withFlags (r : SettingsRecord) (f : Flags) : Except Error SettingsRecord :=
  let given := flagFields f
  match r.copyFault? <|> r.noteFault? (given.map Prod.fst) with
  | some e => .error e
  | none => .ok { r with fields := given.foldl (fun b (name, v) ↦ b.put name v) r.fields }

/-! ### Showing -/

/-- The value of a field; where it is missing, that of another name counts. -/
def field (r : SettingsRecord) (name : Text) : Except Error RawValue :=
  match r.fields.get? name with
  | some v => .ok v
  | none =>
    if r.extra.isYes then
      match r.extra with
      | .record more =>
        match Bindings.get? more name with
        | some v => .ok v
        | none => .error (.noField name)
      | v => .error (.noNames v)
    else .error (.noField name)

/-- The name under which the address for a browser is shown. -/
def localUrlName : Text :=
  "local_url"

/-- The record as it is shown: its fields, and the address for a browser on the same
machine. -/
def shown (r : SettingsRecord) : Except Error (List (Text × RawValue)) := do
  let fields ← Field.all.mapM fun f ↦ (r.field f.name).map (f.name, ·)
  let port ← r.field Field.port.name
  .ok (fields ++ [(localUrlName, .text (Settings.localUrlStart ++ port.shown))])

end SettingsRecord

end StaticServer
