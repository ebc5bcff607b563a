import StaticServer.Settings.Basic

/-!
# Flags of the command line

The four settings that the command line can give, and what they make of settings from
elsewhere: a flag that is given replaces the field or leaves it blank, and all else stays.
-/

namespace StaticServer

/-- A flag as it was given. -/
inductive Flag (α : Type) where
  /-- It was not given. -/
  | absent
  /-- It was given with two hyphens glued to it in the place of a value, which hold no value. -/
  | blank
  /-- It was given with a value. -/
  | given (value : α)
  deriving DecidableEq

/-- A field with a flag in its place: a flag without a value leaves the field blank. -/
def Flag.over {α : Type} (field : Option α) : Flag α → Option α
  | .absent => field
  | .blank => none
  | .given value => some value

/-- The flags of a command line. -/
structure Flags where
  /-- The directory that is served. -/
  directory : Flag Text := .absent
  /-- The interface that is bound. -/
  host : Flag Text := .absent
  /-- The port that is listened on. -/
  port : Flag Int := .absent
  /-- The name of the least level that is logged. -/
  logLevel : Flag Text := .absent
  deriving DecidableEq

/-- The settings with the flags in the place of their fields. -/
def Flags.apply (f : Flags) (s : Settings) : Settings :=
  { s with
    directory := f.directory.over s.directory
    host := f.host.over s.host
    port := f.port.over s.port
    logLevel := f.logLevel.over s.logLevel }

end StaticServer
