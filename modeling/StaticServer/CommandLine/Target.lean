import StaticServer.Text.Basic

/-!
# Options of the command line

What an option is for decides how it is written, whether it takes a value, and what the help
says about it.
-/

namespace StaticServer.CommandLine

/-- What an option is for. -/
inductive Target where
  | help
  | directory
  | host
  | port
  | logLevel
  deriving DecidableEq, Repr

namespace Target

/-- All targets, in the order in which they are offered. -/
def all : List Target :=
  [.help, .directory, .host, .port, .logLevel]

/-- The ways to write an option. -/
def spellings : Target → List Text
  | .help => ["-h", "--help"]
  | .directory => ["--directory", "-d"]
  | .host => ["--host"]
  | .port => ["--port", "-p"]
  | .logLevel => ["--log-level"]

/-- What stands for the value of an option, if it takes one. -/
def placeholder? : Target → Option Text
  | .help => none
  | .directory => some "DIRECTORY"
  | .host => some "HOST"
  | .port => some "PORT"
  | .logLevel => some "LOG_LEVEL"

/-- What an option is for, in words. -/
def purpose : Target → Text
  | .help => "show this help message and exit"
  | .directory => "Directory to serve (default: current directory)"
  | .host => "Interface to bind (default 0.0.0.0)"
  | .port => "Port to listen on (default 7070)"
  | .logLevel => "Log level: DEBUG, INFO, WARNING, ERROR (default INFO)"

/-- The ways to write an option, as a message shows them. -/
def title (target : Target) : Text :=
  Text.join "/" target.spellings

/-- An option as it is written, with what stands for its value. -/
def withPlaceholder (target : Target) (written : Text) : Text :=
  match target.placeholder? with
  | some p => written ++ ' ' :: p
  | none => written

end Target

/-- The ways to write an option, in the order in which they are offered. -/
def options : List (Text × Target) :=
  Target.all.flatMap fun target ↦ target.spellings.map (·, target)

end StaticServer.CommandLine
