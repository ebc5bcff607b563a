import StaticServer.Settings.Environment
import StaticServer.Text.Basic

/-!
# Settings files

A settings file has one entry a line: a name, perhaps behind the word `export`, and perhaps
an equals sign and a value. A value in quotation marks may span lines and hold escapes; any
other value ends where the line or a comment starts. A line that is no entry is passed over.
In every value `${name}` stands for an earlier entry of the file or a variable of the
environment, and `${name:-text}` for that or else for the text.
-/

namespace StaticServer.Dotenv

/-- The text without a byte order mark at its start. -/
def dropMark (t : Text) : Text :=
  match t with
  | '\uFEFF' :: rest => rest
  | _ => t

/-! ### Entries -/

/-- A blank that does not end the line. -/
def isLineBlank (c : Char) : Bool :=
  Text.isBlank c && c ≠ '\n'

/-- What follows the line break that ends the line. -/
def dropLine (t : Text) : Text :=
  (t.dropWhile (· != '\n')).drop 1

/-- What follows the word `export` and the blanks behind it, where they stand. -/
def dropExport (t : Text) : Text :=
  match Text.dropLead? "export" t with
  | some (c :: rest) => if isLineBlank c then rest.dropWhile isLineBlank else t
  | _ => t

/-- A character of a name without quotation marks. -/
def isNameChar (c : Char) : Bool :=
  c ≠ '=' && c ≠ '#' && !Text.isBlank c

/-- The name that an entry starts with, and what follows it. -/
def takeName? (t : Text) : Option (Text × Text) :=
  match t with
  | '\x27' :: rest =>
    match rest.span (· != '\x27') with
    | (c :: name, _ :: after) => some (c :: name, after)
    | _ => none
  | _ =>
    match t.span isNameChar with
    | ([], _) => none
    | (name, after) => some (name, after)

/-- The text up to a quotation mark, and what follows the mark. A backslash and the character
behind it belong to the text, whatever that character is; the flag says that a backslash has
just been read. -/
def takeQuoted? (mark : Char) : Bool → Text → Option (Text × Text)
  | _, [] => none
  | escaped, c :: t =>
    if c = mark && !escaped then some ([], t)
    else (takeQuoted? mark (c == '\\' && !escaped) t).map fun (value, rest) ↦ (c :: value, rest)

/-- The escapes in a value between apostrophes. -/
def singleEscapes : List (Char × Char) :=
  [('\\', '\\'), ('\x27', '\x27')]

/-- The escapes in a value between double quotation marks. -/
def doubleEscapes : List (Char × Char) :=
  [('\\', '\\'), ('\x27', '\x27'), ('\x22', '\x22'), ('a', '\x07'), ('b', '\x08'),
    ('f', '\x0C'), ('n', '\n'), ('r', '\r'), ('t', '\t'), ('v', '\x0B')]

/-- A text with its escapes replaced; a backslash before any other character stays. The flag
says that a backslash has just been read. -/
def unescape (escapes : List (Char × Char)) : Bool → Text → Text
  | false, [] => []
  | true, [] => ['\\']
  | false, c :: t => if c = '\\' then unescape escapes true t else c :: unescape escapes false t
  | true, c :: t =>
    match escapes.lookup c with
    | some d => d :: unescape escapes false t
    | none => '\\' :: c :: unescape escapes false t

/-- The text before the first blank that a number sign follows. -/
def dropComment : Text → Text
  | [] => []
  | c :: t => if Text.isBlank c && t.head? = some '#' then [] else c :: dropComment t

/-- The value behind an equals sign, and what follows it. -/
def takeValue? (t : Text) : Option (Text × Text) :=
  match t.dropWhile isLineBlank with
  | '\x27' :: rest =>
    (takeQuoted? '\x27' false rest).map fun (v, after) ↦ (unescape singleEscapes false v, after)
  | '\x22' :: rest =>
    (takeQuoted? '\x22' false rest).map fun (v, after) ↦ (unescape doubleEscapes false v, after)
  | rest =>
    if rest.head? = some '#' && t.head? ≠ some '#' then some ([], rest)
    else
      let (line, after) := rest.span (· != '\n')
      some (Text.trimRightBy Text.isBlank (dropComment line), after)

/-- What follows the line, if nothing but blanks and a comment is left on it. -/
def endLine? (t : Text) : Option Text :=
  match t.dropWhile isLineBlank with
  | [] => some []
  | '\n' :: rest => some rest
  | '#' :: rest => some (dropLine rest)
  | _ => none

/-- The entry that a text starts with, if there is one, and what follows its line. -/
def takeEntry (t : Text) : Option (Text × Option Text) × Text :=
  let t := dropExport (t.dropWhile Text.isBlank)
  match t with
  | '#' :: _ => (none, dropLine t)
  | _ =>
    match takeName? t with
    | none => (none, dropLine t)
    | some (name, after) =>
      let after := after.dropWhile isLineBlank
      match after with
      | '=' :: rest =>
        match takeValue? rest with
        | none => (none, dropLine rest)
        | some (value, after) =>
          match endLine? after with
          | some rest => (some (name, some value), rest)
          | none => (none, dropLine after)
      | _ =>
        match endLine? after with
        | some rest => (some (name, none), rest)
        | none => (none, dropLine after)

/-- The entries of a text, looking at no more than so many lines. -/
def entriesFrom : Nat → Text → List (Text × Option Text)
  | 0, _ => []
  | lines + 1, t =>
    if t.isEmpty then []
    else match takeEntry t with
      | (some e, rest) => e :: entriesFrom lines rest
      | (none, rest) => entriesFrom lines rest

/-- The entries of a settings file in order, as they are written. An entry takes at least one
character, so the length of the text bounds their number. -/
def entries (t : Text) : List (Text × Option Text) :=
  entriesFrom t.length t

/-! ### References -/

/-- The name and the default of the reference that a text starts with, and what follows. -/
def takeReference? (t : Text) : Option (Text × Text × Text) := do
  let t ← Text.dropLead? "$\x7b" t
  match t.span fun c ↦ c ≠ '\x7d' && c ≠ ':' with
  | (name, '\x7d' :: rest) => some (name, [], rest)
  | (name, ':' :: '-' :: more) =>
    match more.span (· != '\x7d') with
    | (default, _ :: rest) => some (name, default, rest)
    | _ => none
  | _ => none

/-- A text with its references replaced, leaving out so many characters at its start. -/
def expandFrom (value : Text → Text → Text) : Nat → Text → Text
  | _, [] => []
  | skip + 1, _ :: t => expandFrom value skip t
  | 0, c :: t =>
    match takeReference? (c :: t) with
    | some (name, default, rest) =>
      value name default ++ expandFrom value (t.length - rest.length) t
    | none => c :: expandFrom value 0 t

/-- The value of a name: that of an earlier entry, where an entry without a value counts as
empty, or that of a variable, or the default. -/
def valueOf (env : Environment) (earlier : Bindings (Option Text)) (name default : Text) : Text :=
  match earlier.get? name with
  | some v => v.getD []
  | none => (env.get? name).getD default

/-- The bindings with one more entry, its references replaced. -/
def define (env : Environment) (b : Bindings (Option Text)) (e : Text × Option Text) :
    Bindings (Option Text) :=
  b.put e.1 (e.2.map (expandFrom (valueOf env b) 0))

/-- The names that a settings file gives, with their values. -/
def bindings (env : Environment) (t : Text) : Bindings (Option Text) :=
  (entries (Text.unifyBreaks false (dropMark t))).foldl (define env) []

end StaticServer.Dotenv
