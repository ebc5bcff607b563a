import StaticServer.RawValue.Basic
import StaticServer.Text.LetterCase

/-!
# Logging

Loggers form a tree of two kinds here: the one that reports accesses has a level of its own,
with all loggers below it, and all others go by the root's. Until logging is configured
nothing is written. A record is written as one line with the time, the level, the logger and
the message.
-/

namespace StaticServer

/-- A level of logging. -/
inductive Level where
  /-- A whole number. -/
  | number (n : Int)
  /-- A truth value, in the place of one or zero. -/
  | truth (b : Bool)
  deriving DecidableEq

namespace Level

/-- The number by which levels are compared. -/
def rank : Level → Int
  | .number n => n
  | .truth b => if b then 1 else 0

/-- The level as a value. -/
def value : Level → RawValue
  | .number n => .integer n
  | .truth b => .boolean b

/-- The level that a value is, if it is one. -/
def ofValue? : RawValue → Option Level
  | .integer n => some (.number n)
  | .boolean b => some (.truth b)
  | _ => none

end Level

/-- The state of logging. -/
structure Logging where
  /-- The root's level. -/
  rootLevel : Int := 30
  /-- The level of the access logger; zero when it has none of its own. -/
  accessLevel : Level := .number 0
  /-- Are records written? -/
  configured : Bool := false
  deriving DecidableEq

namespace Logging

/-- Levels by their names in configuration. -/
def levelNames : List (Text × Int) :=
  [("CRITICAL", 50), ("FATAL", 50), ("ERROR", 40), ("WARNING", 30), ("WARN", 30), ("INFO", 20),
    ("DEBUG", 10), ("NOTSET", 0)]

/-- What a name stands for that is in the same table and is no level's. -/
inductive NoLevel where
  /-- A text. -/
  | text (t : Text)
  /-- Something else, as messages show it. -/
  | value (shown : Text)
  deriving DecidableEq

/-- The message about a name that is no level's. -/
def NoLevel.message : NoLevel → Text
  | .text t => "Unknown level: " ++ Text.quoted t
  | .value shown => "Level not an integer or a valid string: " ++ shown

/-- The format of a record for a mark that stands before each part: the mark's class and the
format. -/
structure Style where
  /-- The mark. -/
  mark : Text
  /-- The class. -/
  className : Text
  /-- The format. -/
  format : Text

/-- The style that is used when no other is asked for. -/
def basicStyle : Style :=
  ⟨"%", "PercentStyle", "%(levelname)s:%(name)s:%(message)s"⟩

/-- All styles. -/
def styles : List Style :=
  [basicStyle,
    ⟨"\x7b", "StrFormatStyle", "\x7blevelname\x7d:\x7bname\x7d:\x7bmessage\x7d"⟩,
    ⟨"$", "StringTemplateStyle", "$\x7blevelname\x7d:$\x7bname\x7d:$\x7bmessage\x7d"⟩]

/-- A style as messages show it. -/
def Style.shown (s : Style) : Text :=
  Text.quoted s.mark ++ (": (<class 'logging." ++ (s.className ++ ("'>, " ++
    (Text.quoted s.format ++ [')']))))

/-- The names of the table that are no level's. -/
def otherNames : List (Text × NoLevel) :=
  [("BASIC_FORMAT", .text basicStyle.format),
    ("_STYLES", .value ('\x7b' :: Text.join ", " (styles.map Style.shown) ++ ['\x7d']))]

/-- The level for a name that is in no table. -/
def fallbackLevel : Int :=
  20

/-- The level that a name gives, in any letter case, or what it stands for instead. -/
def levelOf (name : Text) : Except NoLevel Int :=
  let upper := name.flatMap Text.capitalAscii
  match otherNames.lookup upper with
  | some v => .error v
  | none => .ok ((levelNames.lookup upper).getD fallbackLevel)

/-- The level below which the access logger is quiet. -/
def quietLevel : Int :=
  30

/-- The access logger made quiet. -/
def quietAccess (l : Logging) : Logging :=
  { l with accessLevel := .number quietLevel }

/-- Logging configured for a level, and what its name stands for when that is no level. From
then on records are written, even then. -/
def configure (l : Logging) (name : Text) : Logging × Option NoLevel :=
  match levelOf name with
  | .ok level => (quietAccess { l with rootLevel := level, configured := true }, none)
  | .error v => ({ l with configured := true }, some v)

/-- The access logger with the level that a value gives, which may be a name as it stands. -/
def setAccess (l : Logging) (v : RawValue) : Except NoLevel Logging :=
  match v with
  | .text t =>
    match levelNames.lookup t with
    | some n => .ok { l with accessLevel := .number n }
    | none => .error (.text t)
  | v =>
    match Level.ofValue? v with
    | some level => .ok { l with accessLevel := level }
    | none => .error (.value v.quoted)

/-- The name of the access logger. -/
def accessLogger : Text :=
  "uvicorn.access"

/-- The name of the root. -/
def rootLogger : Text :=
  "root"

/-- Does a logger go by the level of the access logger? -/
def isAccess (logger : Text) : Bool :=
  logger = accessLogger || (accessLogger ++ ['.']).isPrefixOf logger

/-- The level that a logger goes by. -/
def effectiveLevel (l : Logging) (logger : Text) : Int :=
  if isAccess logger && l.accessLevel.rank ≠ 0 then l.accessLevel.rank else l.rootLevel

/-- Does a record of a level get through? -/
def enabled (l : Logging) (logger : Text) (level : Level) : Bool :=
  l.configured && 0 < level.rank && l.effectiveLevel logger ≤ level.rank

/-- The names of levels as records show them. -/
def shownNames : List (Int × Text) :=
  [(10, "DEBUG"), (20, "INFO"), (30, "WARNING"), (40, "ERROR"), (50, "CRITICAL")]

/-- The name of a level as records show it. -/
def levelName (level : Level) : Text :=
  (shownNames.lookup level.rank).getD ("Level " ++ level.value.shown)

/-- What stands between the columns of a line. -/
def separator : Text :=
  " | "

/-- The width of the column with the level. -/
def levelWidth : Nat :=
  8

/-- The line of a record. -/
def line (time logger : Text) (level : Level) (message : Text) : Text :=
  let shown := if logger.isEmpty then rootLogger else logger
  Text.join separator [time, Text.padRight levelWidth (levelName level), shown, message] ++ ['\n']

/-- What logging a record writes. -/
def emit (l : Logging) (time logger : Text) (level : Level) (message : Text) : Text :=
  if l.enabled logger level then line time logger level message else []

/-- Why a record cannot be logged. -/
inductive RecordError where
  /-- The name of its logger is no text. -/
  | loggerName
  /-- Its level is no whole number. -/
  | level
  deriving DecidableEq, Repr

/-- The message of an error. -/
def RecordError.message : RecordError → Text
  | .loggerName => "A logger name must be a string"
  | .level => "level must be an integer"

/-- The logger that a value names; what counts as a no names the root. -/
def loggerOf (v : RawValue) : Except RecordError Text :=
  match v with
  | .text t => .ok t
  | v => if v.isYes then .error .loggerName else .ok []

/-- What logging a record writes whose logger and level are given as values of any kind. -/
def emitValues (l : Logging) (time : Text) (logger level : RawValue) (message : Text) :
    Except RecordError Text := do
  let name ← loggerOf logger
  match Level.ofValue? level with
  | some level => .ok (l.emit time name level message)
  | none => .error .level

/-- The level of messages about what the program does. -/
def info : Level :=
  .number 20

/-- The level of messages about failures. -/
def error : Level :=
  .number 40

end Logging

end StaticServer
