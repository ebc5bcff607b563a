import StaticServer.CommandLine.Flags
import StaticServer.CommandLine.Help
import StaticServer.Text.Quoted

/-!
# Reading a command line

A command line is read in two passes. The first tells options from values, one argument at a
time (`classify`): an option may be shortened as long as it stays the only one, and its value
may be glued to it. Everything behind `--` is a value. The second pass goes from left to
right, gives each option the value glued to it or else the next argument, and collects what
belongs to no option.
-/

namespace StaticServer.CommandLine

/-- What is wrong with a command line. -/
inductive UsageError where
  /-- A shortened option that can stand for several. -/
  | ambiguous (argument : Text) (candidates : List Text)
  /-- An option without its value. -/
  | missingValue (target : Target)
  /-- A port that is no whole number. -/
  | invalidInteger (target : Target) (value : Text)
  /-- A value glued to an option that takes none. -/
  | unwantedValue (target : Target) (value : Text)
  /-- Arguments that belong to no option. -/
  | unrecognized (arguments : List Text)
  deriving DecidableEq

/-- The message of an error about one option. -/
def aboutOption (target : Target) (t : Text) : Text :=
  "argument " ++ (target.title ++ (": " ++ t))

/-- The message of an error. -/
def UsageError.message : UsageError → Text
  | .ambiguous argument candidates =>
    "ambiguous option: " ++ (argument ++ (" could match " ++ Text.join ", " candidates))
  | .missingValue target => aboutOption target "expected one argument"
  | .invalidInteger target value =>
    aboutOption target ("invalid int value: " ++ Text.quoted value)
  | .unwantedValue target value =>
    aboutOption target ("ignored explicit argument " ++ Text.quoted value)
  | .unrecognized arguments => "unrecognized arguments: " ++ Text.join " " arguments

/-- Why a command line gives no flags. -/
inductive Stop where
  /-- Help was asked for. -/
  | help
  /-- Something is wrong. -/
  | usage (e : UsageError)
  deriving DecidableEq

/-! ### Telling options from values -/

/-- One argument, as the first pass sees it. -/
inductive Token where
  /-- A value, or an argument that belongs to no option. -/
  | value (t : Text)
  /-- The two hyphens behind which there are only values. -/
  | separator
  /-- An option, how it is written, and the value glued to it. -/
  | option (written : Text) (target : Target) (glued : Option Text)
  /-- An argument that looks like an option and is none. -/
  | unknown (t : Text)
  deriving DecidableEq

/-- Does an argument look like a negative number? A line break behind it does no harm. -/
def isNegativeNumber (t : Text) : Bool :=
  match t with
  | '-' :: rest =>
    let body := if rest.getLast? = some '\n' then rest.dropLast else rest
    match Text.cut '.' body with
    | (whole, none) => !whole.isEmpty && whole.all Text.isDigit
    | (whole, some fraction) =>
      whole.all Text.isDigit && !fraction.isEmpty && fraction.all Text.isDigit
  | _ => false

/-- The options that an argument can stand for, as it is or shortened, with the value glued
to it. -/
def candidates (t : Text) : List (Text × Target × Option Text) :=
  match t with
  | '-' :: '-' :: _ =>
    let (lead, glued) := Text.cut '=' t
    (options.filter fun (o, _) ↦ lead.isPrefixOf o).map fun (o, target) ↦ (o, target, glued)
  | _ =>
    (options.filter fun (o, _) ↦ o = t.take 2).map fun (o, target) ↦
      (o, target, some (t.drop 2))

/-- What an argument is that stands for no option. -/
def notAnOption (t : Text) : Token :=
  if isNegativeNumber t || t.contains ' ' then .value t else .unknown t

/-- What an argument is that starts with a hyphen and is longer than that. -/
def classifyHyphenated (t : Text) : Except Stop Token :=
  match options.lookup t with
  | some target => .ok (.option t target none)
  | none =>
    let (written, glued) := Text.cut '=' t
    match options.lookup written, glued with
    | some target, some _ => .ok (.option written target glued)
    | _, _ =>
      match candidates t with
      | [] => .ok (notAnOption t)
      | [(written, target, glued)] => .ok (.option written target glued)
      | several => .error (.usage (.ambiguous t (several.map Prod.fst)))

/-- What an argument is. -/
def classify (t : Text) : Except Stop Token :=
  match t with
  | '-' :: _ :: _ => classifyHyphenated t
  | _ => .ok (.value t)

/-- What the arguments are; behind the first separator all are values. -/
def tokens : List Text → Except Stop (List Token)
  | [] => .ok []
  | t :: rest =>
    if t = "--" then .ok (.separator :: rest.map .value)
    else do
      let token ← classify t
      let more ← tokens rest
      .ok (token :: more)

/-! ### Taking options with their values -/

/-- The flag that a value gives; two hyphens are no value. -/
def textFlag (value : Text) : Flag Text :=
  if value = "--" then .blank else .given value

/-- The flag that a port's text gives; it has to be a whole number. -/
def portFlag (value : Text) : Except Stop (Flag Int) :=
  if value = "--" then .ok .blank
  else match Text.toInt? value with
    | some n => .ok (.given n)
    | none => .error (.usage (.invalidInteger .port value))

/-- The flags with one more value. -/
def setFlag (f : Flags) (target : Target) (value : Text) : Except Stop Flags :=
  match target with
  | .help => .error .help
  | .directory => .ok { f with directory := textFlag value }
  | .host => .ok { f with host := textFlag value }
  | .logLevel => .ok { f with logLevel := textFlag value }
  | .port => (portFlag value).map fun flag ↦ { f with port := flag }

/-- Asking for help with something glued to it: the letters of further options may follow a
single hyphen, and one that takes a value takes the rest or the next argument. -/
def helpWith (next : Option Token) : Text → Stop
  | [] => .help
  | c :: rest =>
    match options.lookup ['-', c] with
    | none => .usage (.unwantedValue .help (c :: rest))
    | some .help => helpWith next rest
    | some target =>
      match rest, next with
      | [], some (.value _) => .help
      | [], _ => .usage (.missingValue target)
      | _ :: _, _ => .help

/-- Asking for help, with or without something glued to it. -/
def takeHelp (written : Text) (glued : Option Text) (next : Option Token) : Stop :=
  match glued with
  | none => .help
  | some [] => .usage (.unwantedValue .help [])
  | some t => if written = "--help" then .usage (.unwantedValue .help t) else helpWith next t

/-- The result of taking the rest of a command line, with one more argument in front that
belongs to no option. -/
def withExtra (t : Text) : Except Stop (Flags × List Text) → Except Stop (Flags × List Text) :=
  Except.map fun (f, extra) ↦ (f, t :: extra)

/-- Takes the options with their values from left to right; answers the flags and, in order,
what belongs to no option. -/
def take (f : Flags) : List Token → Except Stop (Flags × List Text)
  | [] => .ok (f, [])
  | .option written .help glued :: rest => .error (takeHelp written glued rest.head?)
  | .option _ target (some glued) :: rest => do
    let f ← setFlag f target glued
    take f rest
  | .option _ target none :: .value t :: rest => do
    let f ← setFlag f target t
    take f rest
  | .option _ target none :: _ => .error (.usage (.missingValue target))
  | .value t :: rest => withExtra t (take f rest)
  | .separator :: rest => withExtra "--" (take f rest)
  | .unknown t :: rest => withExtra t (take f rest)

/-- The flags of a command line. -/
def parse (arguments : List Text) : Except Stop Flags := do
  let ts ← tokens arguments
  match ← take {} ts with
  | (f, []) => .ok f
  | (_, extra) => .error (.usage (.unrecognized extra))

/-! ### Answers to the user -/

namespace Stop

/-- The status that the program ends with. -/
def status : Stop → Int
  | .help => 0
  | .usage _ => 2

/-- What is written to standard output, in a terminal of some width. -/
def output (columns : Nat) : Stop → Text
  | .help => helpText columns
  | .usage _ => []

/-- What is written to standard error, in a terminal of some width. -/
def diagnostic (columns : Nat) : Stop → Text
  | .help => []
  | .usage e =>
    CommandLine.usage columns ++ (programName ++ (": error: " ++ (e.message ++ ['\n'])))

end Stop

end StaticServer.CommandLine
