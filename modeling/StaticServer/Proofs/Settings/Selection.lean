import StaticServer.Program.Create
import StaticServer.Proofs.Settings.Entries
import StaticServer.Proofs.Settings.Load
import StaticServer.Proofs.Text.Utf8

/-!
# What settings are given

A field takes its value from the first source that has it (`Settings.Selects`): the values of
the program, the environment, the settings file. Each source is asked for the names of that field
only, in any letter case, and a value that the field cannot take is an issue, whatever the sources
behind it say (`Settings.follows_ofValues`).

Two things reach from one name to another, by design: the values that say how settings are looked
up (`SourceOptions.names`), and references inside the settings file.
-/

namespace StaticServer

/-! ### The first source that has a value -/

/-- The name of a field in the environment and in settings files, in lower case. -/
def Field.outerName (f : Field) : Text :=
  "devserver_" ++ f.name

/-- By default this is the name under which a field is looked up. -/
theorem Field.variableName_eq (f : Field) : SourceOptions.variableName {} f = f.outerName := by
  cases f <;> decide +kernel

namespace Settings

/-- What is selected for a field from the values of the program, the variables and the entries of
the settings file that are named after it: the first value, or else the last variable, or else the
entry that counts, unless it has no value, or else nothing. -/
inductive Selects (values : List RawValue) (texts : List Text)
    (entries : List (Text × Option Text)) : Option RawValue → Prop
  | program {v : RawValue} (hvalue : values.head? = some v) :
    Selects values texts entries (some v)
  | environment {t : Text} (hvalues : values = []) (hvariable : texts.getLast? = some t) :
    Selects values texts entries (some (.text t))
  | file {n t : Text} (hvalues : values = []) (htexts : texts = [])
      (hentry : Bindings.Counts entries n (some t)) :
    Selects values texts entries (some (.text t))
  | nothing (hvalues : values = []) (htexts : texts = [])
      (hentries : ∀ n t, ¬Bindings.Counts entries n (some t)) :
    Selects values texts entries none

/-- The three sources, asked in their order, with one value for the entry that counts. -/
theorem selects_iff {values : List RawValue} {texts : List Text}
    {entries : List (Text × Option Text)} {entry : Option Text}
    (hentry : ∀ t, entry = some t ↔ ∃ n, Bindings.Counts entries n (some t))
    {selected : Option RawValue} :
    Selects values texts entries selected ↔
      selected = (values.head? <|> texts.getLast?.map .text <|> entry.map .text) := by
  constructor
  · intro h
    cases h with
    | program hvalue => rw [hvalue]; rfl
    | environment hvalues hvariable => rw [hvalues, hvariable]; rfl
    | file hvalues htexts h => rw [hvalues, htexts, (hentry _).2 ⟨_, h⟩]; rfl
    | nothing hvalues htexts h =>
      have hnone : entry = none :=
        Option.eq_none_iff_forall_ne_some.2 fun t ht ↦ (hentry t).1 ht |>.elim fun n ↦ h n t
      rw [hvalues, htexts, hnone]
      rfl
  · rintro rfl
    rcases hvalues : values with _ | ⟨v, rest⟩
    case cons => exact .program rfl
    case nil =>
      cases hvariable : texts.getLast? with
      | some t => exact .environment rfl hvariable
      | none =>
        have htexts := List.getLast?_eq_none_iff.1 hvariable
        cases ht : entry with
        | some t => exact ((hentry t).1 ht).elim fun n h ↦ .file rfl htexts h
        | none =>
          refine .nothing rfl htexts fun n t h ↦ ?_
          exact nomatch ht.symm.trans ((hentry t).2 ⟨n, h⟩)

end Settings

/-! ### Reading the sources -/

namespace SourceOptions

/-- The names of the values that say how settings are looked up. -/
def names : List Text :=
  [leadName, "_env_prefix_target", "_case_sensitive", "_env_ignore_empty", "_env_parse_none_str",
    "_env_file", "_env_file_encoding", "_secrets_dir", "_cli_parse_args", "_cli_prefix",
    "_cli_kebab_case", "_cli_parse_none_str", "_cli_ignore_unknown_args", "_cli_exit_on_error",
    "_cli_avoid_json"]

/-- The values leave it to the defaults how settings are looked up. -/
def AreDefault (values : Bindings RawValue) : Prop :=
  ∀ name ∈ names, values.get? name = none

instance (values : Bindings RawValue) : Decidable (AreDefault values) :=
  inferInstanceAs (Decidable (∀ name ∈ names, values.get? name = none))

/-- Values that leave it to the defaults are no fault and change no option. -/
theorem AreDefault.eq {values : Bindings RawValue} (h : AreDefault values) :
    leadFault? values = none ∧ ofValues values = {} := by
  simp [AreDefault, names] at h
  simp [leadFault?, ofValues, argumentsOf, isOn, text?, given?, h]

end SourceOptions

namespace Dotenv

/-- The settings file is read by its default name. -/
theorem readAll_fileName {env : Environment} {t : FileTree} {text : Text}
    (h : read t .null fileName = .ok text) :
    readAll env t .null (.text fileName) = .ok (bindings env text) := by
  have hpath : SourcePath.path env (.text fileName) = .ok fileName := rfl
  have hitem : readItem env t .null (.text fileName) = .ok (bindings env text) := by
    rw [readItem, hpath]
    show (read t .null fileName >>= _) = _
    rw [h]
    rfl
  show ([RawValue.text fileName].mapM (readItem env t .null) >>= _) = _
  rw [List.mapM_cons, hitem]
  show Except.ok ([bindings env text].flatten) = _
  rw [List.flatten_singleton]

end Dotenv

namespace Sources

/-- The sources that are asked when everything is left to the defaults. -/
def plain (values : Bindings RawValue) (env : Environment) (es : List (Text × Option Text)) :
    Sources :=
  ⟨{}, [], values, env, Bindings.ofList es, []⟩

/-- By default there are three sources, and the file gives its entries. -/
theorem of_default {values : Bindings RawValue} {env : Environment} {t : FileTree} {text : Text}
    (h : Dotenv.read t .null Dotenv.fileName = .ok text) :
    of {} values env t = .ok (plain values env (Dotenv.given env text)) := by
  show ((Dotenv.readAll env t .null (.text Dotenv.fileName)).mapError SourceError.file >>= _) = _
  rw [Dotenv.readAll_fileName h, Dotenv.bindings_eq]
  rfl

section Plain

variable {values : Bindings RawValue} {env : Environment} {es : List (Text × Option Text)}

/-- The file has the value of the entry that counts. -/
theorem entry?_plain_eq_some_iff {name t : Text} :
    Sources.entry? (plain values env es) name = some t ↔
      ∃ n, Bindings.Counts (Bindings.named name es) n (some t) := by
  rw [← Bindings.lastLike?_lower_ofList_eq_some_iff, ← Option.join_eq_some_iff]
  show (Bindings.lastLike? Text.lower (List.filter _ _) name).join = _ ↔ _
  rw [List.filter_eq_self.2]
  · exact Iff.rfl
  · rintro ⟨n, - | t⟩ _
    · rfl
    · rfl

/-- Of the values of the program the first one in any letter case is given. -/
theorem given?_plain (f : Field) :
    (plain values env es).given? f = ((Bindings.named f.name values).map Prod.snd).head? :=
  Bindings.firstLike?_lower values f.name

theorem inEnvironment?_plain (f : Field) : (plain values env es).inEnvironment? f =
    ((Bindings.named f.outerName env).map Prod.snd).getLast?.map .text := by
  rw [← Bindings.lastLike?_lower, ← f.variableName_eq]
  show (Bindings.lastLike? Text.lower (List.filter _ _) _).map _ = _
  rw [List.filter_eq_self.2]
  · rfl
  · intro _ _
    rfl

theorem inFile?_plain (f : Field) : (plain values env es).inFile? f =
    (Sources.entry? (plain values env es) f.outerName).map .text := by
  rw [← f.variableName_eq]
  rfl

/-- So what is selected is what the sources give in this order. -/
theorem selects_plain_iff {f : Field} {selected : Option RawValue} :
    Settings.Selects ((Bindings.named f.name values).map Prod.snd)
        ((Bindings.named f.outerName env).map Prod.snd) (Bindings.named f.outerName es) selected ↔
      selected = (plain values env es).select f := by
  have hselect : (plain values env es).select f =
      ((plain values env es).given? f <|> (plain values env es).inEnvironment? f <|>
        (plain values env es).inFile? f <|> none) := rfl
  have hentry : ∀ t, Sources.entry? (plain values env es) f.outerName = some t ↔ _ :=
    fun _ ↦ entry?_plain_eq_some_iff
  rw [hselect, given?_plain, inEnvironment?_plain, inFile?_plain, Settings.selects_iff hentry]
  simp only [Option.orElse_eq_orElse, Option.orElse_eq_or, Option.or_none]

end Plain

end Sources

namespace Dotenv

/-- Any text can be in the settings file. -/
theorem read_of_encode {t : FileTree} {path : Text} {p : Path} {data : FileData} {text : Text}
    (hpath : t.resolve path = .ok p) (hfile : t.get? p = some (.file data))
    (hcontent : data.content = Text.Utf8.encode text) : read t .null path = .ok text := by
  have hdecode : decode .null data.content = .ok text := by
    show (Text.Encoding.utf8.decode data.content).mapError ReadError.undecodable = _
    rw [Text.Encoding.decode, Text.Utf8.decodeStrict, hcontent, Text.Utf8.defect?_encode]
    show Except.ok (Text.Utf8.decode (Text.Utf8.encode text)) = _
    rw [Text.Utf8.decode_encode]
  rw [read, hpath]
  simp only [hfile, hdecode]

end Dotenv

/-! ### What settings follow -/

namespace Settings

/-- What is loaded when everything is left to the defaults. -/
theorem ofValues_eq_load {values : Bindings RawValue} {t : FileTree} {text : Text}
    (hvalues : SourceOptions.AreDefault values)
    (htext : Dotenv.read t .null Dotenv.fileName = .ok text) (env : Environment) :
    ofValues values env t =
      (load (Sources.plain values env (Dotenv.given env text))).mapError .invalidSettings := by
  obtain ⟨hlead, hoptions⟩ := hvalues.eq
  rw [ofValues, hlead]
  show Settings.read (SourceOptions.ofValues values) values env t = _
  rw [hoptions, Settings.read, Sources.of_default htext]

/-- Settings depend on what is selected for the fields, wherever it comes from. -/
theorem load_congr {s s' : Sources} (h : ∀ f, s.select f = s'.select f) : load s = load s' := by
  simp only [load, Sources.field, h]

/-- Settings, or what is wrong with them, follow the values of the program, the environment and the
text of the settings file, where `selected` is what each field is given. -/
structure Follows (values : Bindings RawValue) (env : Environment) (text : Text)
    (selected : Field → Option RawValue) (settings : Except Failure Settings) : Prop where
  /-- A field is given a value by what is named after it only. -/
  selects : ∀ f v, Selects ((Bindings.named f.name values).map Prod.snd)
    ((Bindings.named f.outerName env).map Prod.snd)
    (Bindings.named f.outerName (Dotenv.given env text)) v ↔ v = selected f
  /-- The settings file gives a field what is written there, if no reference stands in it. -/
  plain : ∀ f : Field,
    (∀ e ∈ Bindings.named f.outerName (Dotenv.written text), Dotenv.IsPlain e.2) →
      Bindings.named f.outerName (Dotenv.given env text) =
        Bindings.named f.outerName (Dotenv.written text)
  /-- There are settings exactly if each field takes what it is given, and they consist of that. -/
  ok_iff : ∀ s, settings = .ok s ↔
    ∀ f : Field, f.result (selected f) = .ok (SettingsRecord.valueOf s f)
  /-- Otherwise it is told of each field that does not take what it is given, and of no other. -/
  error_iff : ∀ e, settings = .error e ↔
    details selected ≠ [] ∧ e = .invalidSettings (details selected)

/-- **Where the value of each field comes from**, for all values of the program that leave it to the
defaults how settings are looked up, every environment and every text of the settings file. -/
theorem follows_ofValues {values : Bindings RawValue} {t : FileTree} {text : Text}
    (hvalues : SourceOptions.AreDefault values)
    (htext : Dotenv.read t .null Dotenv.fileName = .ok text) (env : Environment) :
    ∃ selected, Follows values env text selected (ofValues values env t) := by
  have hofValues := ofValues_eq_load hvalues htext env
  refine ⟨_, fun f v ↦ Sources.selects_plain_iff, fun f ↦ Dotenv.named_given_of_isPlain, ?_, ?_⟩
  · intro s
    rw [hofValues, mapError_eq_ok_iff, load_eq_ok_iff]
  · intro e
    rw [hofValues, mapError_eq_error_iff]
    constructor
    · rintro ⟨ds, hload, rfl⟩
      obtain ⟨hdetails, rfl⟩ := load_eq_error_iff.1 hload
      exact ⟨hdetails, rfl⟩
    · rintro ⟨hdetails, rfl⟩
      exact ⟨_, load_eq_error_iff.2 ⟨hdetails, rfl⟩, rfl⟩

/-- Values of the program, with one name in two spellings. -/
def layeredValues : Bindings RawValue :=
  [("Host", .text "a"), ("HOST", .integer 1), ("colour", .null)]

/-- Variables of the environment, some with names that are not those of fields. -/
def layeredEnvironment : Environment :=
  [("devserver_Port", "x"), ("PORT", "1"), ("DEVSERVER_DEVSERVER_PORT", "2"), ("NAME", "d")]

/-- The text of a settings file: a value behind an invalid one, a name that loses its value, and a
reference. -/
def layeredText : Text :=
  "DEVSERVER_PORT=80\nDEVSERVER_VERSION=1\nDEVSERVER_VERSION\nDEVSERVER_DIRECTORY=$\x7bNAME\x7d\n"

/-- A tree with that settings file. -/
def layeredTree : FileTree :=
  ⟨[([Dotenv.fileName], .file ⟨Text.Utf8.encode layeredText, 0⟩)], [], by decide⟩

theorem read_layeredTree : Dotenv.read layeredTree .null Dotenv.fileName = .ok layeredText :=
  Dotenv.read_of_encode (p := [Dotenv.fileName]) rfl rfl rfl

/-- The case of a variable that hides a valid entry and makes the settings fail for the port
alone. -/
theorem follows_ofValues_layeredTree :
    (SourceOptions.AreDefault layeredValues ∧
      Dotenv.read layeredTree .null Dotenv.fileName = .ok layeredText) ∧
    (∃ selected, Follows layeredValues layeredEnvironment layeredText selected
      (ofValues layeredValues layeredEnvironment layeredTree)) ∧
    ofValues layeredValues layeredEnvironment layeredTree =
      .error (.invalidSettings [⟨"port", .intParsing⟩]) :=
  have hvalues : SourceOptions.AreDefault layeredValues := by decide +kernel
  ⟨⟨hvalues, read_layeredTree⟩, follows_ofValues hvalues read_layeredTree layeredEnvironment,
    by decide +kernel⟩

/-- The text of a settings file with one name in two spellings. -/
def spelledText : Text :=
  "DEVSERVER_PORT=1\ndevserver_port=2\nDEVSERVER_PORT=3\n"

/-- A tree with that settings file. -/
def spelledTree : FileTree :=
  ⟨[([Dotenv.fileName], .file ⟨Text.Utf8.encode spelledText, 0⟩)], [], by decide⟩

/-- **Names need not be exact, the last entry need not count, what is written need not be the value,
and a name that is not that of a field can matter.** A value for `HOST` is the host, where no source
has one for `host`; of three entries for the port the second one counts; an entry that refers to a
variable has the value of the variable, whatever that is called; and a value can hide the settings
file. -/
theorem not_exact_spelledTree :
    (∃ s, ofValues [("HOST", .text "x")] [] spelledTree = .ok s ∧
      Bindings.get? [("HOST", RawValue.text "x")] Field.host.name = none ∧
      Bindings.named Field.host.outerName (Dotenv.given [] spelledText) = [] ∧
      s.host ≠ some defaultHost) ∧
    (∃ s, ofValues [] [] spelledTree = .ok s ∧
      (Bindings.named Field.port.outerName (Dotenv.given [] spelledText)).getLast? =
        some (("DEVSERVER_PORT" : Text), some ("3" : Text)) ∧
      s.port = some 2) ∧
    (∃ s, ofValues [] [("NAME", "d")] layeredTree = .ok s ∧
      Bindings.named Field.directory.outerName (Dotenv.written layeredText) =
        [(("DEVSERVER_DIRECTORY" : Text), some ("$\x7bNAME\x7d" : Text))] ∧
      s.directory = some "d") ∧
    ∃ s, ofValues [("_env_file", .null)] [] spelledTree = .ok s ∧ s.port = some defaultPort := by
  refine ⟨⟨{ host := some "x", port := some 2 }, ?_, rfl, ?_, ?_⟩,
    ⟨{ port := some 2 }, ?_, ?_, rfl⟩,
    ⟨{ directory := some "d", port := some 80 }, ?_, ?_, rfl⟩, {}, ?_, rfl⟩ <;> decide +kernel

end Settings

end StaticServer
