import StaticServer.Text.Integer

/-!
# Settings

What the server is told before it starts: six fields, each with a default. Four of them can
be given on the command line, which can also leave them blank; a blank field has no value.
-/

namespace StaticServer

namespace Settings

/-- The name that the server shows when no source gives one. -/
def defaultProjectName : Text :=
  "Nuru WASM Dev Server"

/-- Its version when no source gives one. -/
def defaultVersion : Text :=
  "0.1.0"

/-- The directory that is served when no source gives one. -/
def defaultDirectory : Text :=
  "."

/-- The interface that is bound when no source gives one. -/
def defaultHost : Text :=
  "0.0.0.0"

/-- The port that is listened on when no source gives one. -/
def defaultPort : Int :=
  7070

/-- The name of the least level that is logged when no source gives one. -/
def defaultLogLevel : Text :=
  "INFO"

end Settings

/-- The settings of a server. The fields that may be left blank have no value then. -/
structure Settings where
  /-- The name that the server shows. -/
  projectName : Text := Settings.defaultProjectName
  /-- Its version. -/
  version : Text := Settings.defaultVersion
  /-- The directory that is served, from the working directory. -/
  directory : Option Text := some Settings.defaultDirectory
  /-- The interface that is bound. -/
  host : Option Text := some Settings.defaultHost
  /-- The port that is listened on. -/
  port : Option Int := some Settings.defaultPort
  /-- The name of the least level that is logged. -/
  logLevel : Option Text := some Settings.defaultLogLevel
  deriving DecidableEq

/-- A field of the settings. -/
inductive Field where
  | projectName
  | version
  | directory
  | host
  | port
  | logLevel
  deriving DecidableEq, Repr

namespace Field

/-- All fields, in the order of their declaration. -/
def all : List Field :=
  [.projectName, .version, .directory, .host, .port, .logLevel]

/-- The name of a field where settings are given as values. -/
def name : Field → Text
  | .projectName => "project_name"
  | .version => "version"
  | .directory => "directory"
  | .host => "host"
  | .port => "port"
  | .logLevel => "log_level"

end Field

namespace Settings

/-- What stands before the port in the address for a browser on the same machine. -/
def localUrlStart : Text :=
  "http://localhost:"

/-- How a blank field is shown. -/
def blank : Text :=
  "[]"

/-- The port as it is shown. -/
def shownPort (s : Settings) : Text :=
  (s.port.map Text.ofInt).getD blank

/-- The directory as it is shown. -/
def shownDirectory (s : Settings) : Text :=
  s.directory.getD blank

/-- The address for a browser on the same machine. -/
def localUrl (s : Settings) : Text :=
  localUrlStart ++ s.shownPort

end Settings

end StaticServer
