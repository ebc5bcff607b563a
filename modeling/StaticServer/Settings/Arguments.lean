import StaticServer.CommandLine.Parse
import StaticServer.RawValue.Basic

/-!
# Settings as arguments

A program may give arguments that name fields, such as `--port 80` or `--port=80`. Unlike those
of the command line they are never shortened, and each is kept as a text. Of several values for
one field the last one counts.
-/

namespace StaticServer

/-- How arguments are read. -/
structure ArgumentOptions where
  /-- The arguments, if there are any. -/
  given : RawValue := .null
  /-- What stands before the names of fields, without the point behind it. -/
  lead : Text := []
  /-- Do hyphens stand for the low lines in names? -/
  hyphens : Bool := false
  /-- Does letter case count in names? -/
  exactCase : Bool := false
  /-- The text that stands for no value. -/
  nullWord : Text := "null"
  /-- Are arguments that belong to no field passed over? -/
  lenient : Bool := false
  /-- Does the program end when something is wrong with the arguments? -/
  exits : Bool := true

namespace Arguments

/-! ### Errors -/

/-- Why arguments give no values. -/
inductive Stop where
  /-- Help was asked for. -/
  | help
  /-- An option without its value. -/
  | missingValue (option : Text)
  /-- Something else is wrong. -/
  | usage (e : CommandLine.UsageError)
  deriving DecidableEq

/-- The message about arguments that give no values. -/
def Stop.message : Stop → Text
  | .help => []
  | .missingValue option => "argument " ++ (option ++ ": expected one argument")
  | .usage e => e.message

/-- The status that a program ends with. -/
def Stop.status : Stop → Int
  | .help => 0
  | _ => 2

/-- Why arguments cannot be read. -/
inductive ReadError where
  /-- They are no list. -/
  | notAList (v : RawValue)
  /-- One of them is no text. -/
  | notText (v : RawValue)
  /-- What is to stand before the names of fields is no name. -/
  | badLead (lead : Text)
  /-- The program ends. -/
  | exited (s : Stop)
  /-- They give no values. -/
  | refused (s : Stop)
  deriving DecidableEq

/-- The message of an error. -/
def ReadError.message : ReadError → Text
  | .notAList v =>
    "cli_parse_args must be a list or tuple of strings, received <class " ++
      (Text.quoted v.kindName ++ ['>'])
  | .notText v => "expected string or bytes-like object, got " ++ Text.quoted v.kindName
  | .badLead lead => "CLI settings source prefix is invalid: " ++ lead
  | .exited s => s.message
  | .refused s => "error parsing CLI: " ++ s.message

/-! ### The arguments -/

/-- The text of an argument; what counts as a no is the empty one. -/
def textOf : RawValue → Except ReadError Text
  | .text t => .ok t
  | v => if v.isYes then .error (.notText v) else .ok []

/-- The texts of the arguments. -/
def textsOf : RawValue → Except ReadError (List Text)
  | .null => .ok []
  | .boolean _ => .ok []
  | .list items => items.mapM textOf
  | .text t => .error (.notAList (.text t))
  | .record fields => .error (.notAList (.record fields))
  | v => if v.isYes then .error (.notAList v) else .ok []

/-- An argument with the option at its start in lower case; what stands behind the first line
break is lost with it. -/
def foldOption (t : Text) : Text :=
  match t.span fun c ↦ c ≠ '=' && !Text.isBlank c with
  | ('-' :: c :: option, rest) => Text.lower ('-' :: c :: option) ++ rest.takeWhile (· != '\n')
  | _ => t

/-- A character of a name; all characters beyond ASCII are. -/
def isNameChar (c : Char) : Bool :=
  c.isAlphanum || c = '_' || 0x80 ≤ c.toNat

/-- Can a text stand before the names of fields? It has names with single points between. -/
def isLead (t : Text) : Bool :=
  let name := t.filter (· ≠ '.')
  t.head? ≠ some '.' && t.getLast? ≠ some '.' && name.all isNameChar &&
    !(name.take 1).all Char.isDigit

/-- The option of a field. -/
def optionOf (o : ArgumentOptions) (f : Field) : Text :=
  let lead := if o.lead.isEmpty then [] else o.lead ++ ['.']
  let name := if o.hyphens then f.name.map fun c ↦ if c = '_' then '-' else c else f.name
  "--" ++ if o.exactCase then lead ++ name else Text.lower (lead ++ name)

/-! ### Reading them -/

/-- An argument as it is seen on its own. -/
inductive Token where
  /-- A value, or an argument that belongs to no field. -/
  | value (t : Text)
  /-- The two hyphens behind which there are only values. -/
  | separator
  /-- An option with the field that it is for, and the value glued to it. -/
  | field (option : Text) (f : Field) (glued : Option Text)
  /-- Asking for help, how it is written, and what is glued to it. -/
  | help (written : Text) (glued : Option Text)
  /-- An argument that looks like an option and is none. -/
  | unknown (t : Text)

/-- The short way to ask for help. -/
def shortHelp : Text :=
  "-h"

/-- What an argument is that starts with a hyphen and is longer than that. -/
def classifyHyphenated (options : List (Text × Field)) (t : Text) : Token :=
  match options.lookup t with
  | some f => .field t f none
  | none =>
    let (written, glued) := Text.cut '=' t
    match options.lookup written, glued with
    | some f, some value => .field written f (some value)
    | _, _ =>
      if CommandLine.Target.help.spellings.contains written then .help written glued
      else
        if shortHelp.isPrefixOf t then .help shortHelp (some (t.drop shortHelp.length))
        else if CommandLine.isNegativeNumber t || t.contains ' ' then .value t
        else .unknown t

/-- What an argument is. -/
def classify (options : List (Text × Field)) (t : Text) : Token :=
  match t with
  | '-' :: _ :: _ => classifyHyphenated options t
  | _ => .value t

/-- What the arguments are; behind the first separator all are values. -/
def tokens (options : List (Text × Field)) : List Text → List Token
  | [] => []
  | t :: rest =>
    if t = "--" then .separator :: rest.map .value
    else classify options t :: tokens options rest

/-- Asking for help, with or without something glued to it. The short way may be glued to
itself. -/
def helpStop (written : Text) : Option Text → Stop
  | none => .help
  | some [] => .usage (.unwantedValue .help [])
  | some t =>
    match if written = shortHelp then t.dropWhile (· == 'h') else t with
    | [] => .help
    | rest => .usage (.unwantedValue .help rest)

/-- The value that stands glued to an option; two hyphens are no value. -/
def gluedValue (t : Text) : Text :=
  if t = "--" then "[]" else t

/-- The values of fields, in order, and what belongs to no field. -/
def take : List Token → Except Stop (List (Field × Text) × List Text)
  | [] => .ok ([], [])
  | .help written glued :: _ => .error (helpStop written glued)
  | .field _ f (some t) :: rest =>
    (take rest).map fun (values, extra) ↦ ((f, gluedValue t) :: values, extra)
  | .field _ f none :: .value t :: rest =>
    (take rest).map fun (values, extra) ↦ ((f, t) :: values, extra)
  | .field option _ none :: _ => .error (.missingValue option)
  | .value t :: rest => (take rest).map fun (values, extra) ↦ (values, t :: extra)
  | .separator :: rest => (take rest).map fun (values, extra) ↦ (values, "--" :: extra)
  | .unknown t :: rest => (take rest).map fun (values, extra) ↦ (values, t :: extra)

/-- The values that texts of arguments give to fields, in order. -/
def valuesOf (o : ArgumentOptions) (texts : List Text) : Except Stop (List (Field × Text)) :=
  let texts := if o.exactCase then texts else texts.map foldOption
  let options := Field.all.map fun f ↦ (optionOf o f, f)
  match take (tokens options texts) with
  | .error s => .error s
  | .ok (values, extra) =>
    if extra.isEmpty || o.lenient then .ok values
    else .error (.usage (.unrecognized extra))

/-- What stands for arguments that give no values. -/
def ReadError.ofStop (o : ArgumentOptions) (s : Stop) : ReadError :=
  if s = .help || o.exits then .exited s else .refused s

/-- The values that the arguments give to fields, in order. -/
def read (o : ArgumentOptions) : Except ReadError (List (Field × Text)) :=
  if o.given = .null then .ok []
  else if !isLead o.lead && !o.lead.isEmpty then .error (.badLead o.lead)
  else do
    let texts ← textsOf o.given
    (valuesOf o texts).mapError (ReadError.ofStop o)

end Arguments

end StaticServer
