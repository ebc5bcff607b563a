import StaticServer.Program.Failure
import StaticServer.Settings.Load
import StaticServer.Site.App

/-!
# Creating an application

An application is created from settings: logging is configured for their level, and the
directory to be served has to be there. The settings come from their sources (`Settings.read`).
-/

namespace StaticServer

/-- The boundary between the parts of a body and the time that log lines show: what differs
from run to run. -/
structure Circumstances where
  /-- The boundary between the parts of a body with several ranges. -/
  boundary : Text
  /-- The time that log lines show. -/
  time : Text

/-- The settings that values, an environment and the files of a tree give. -/
def Settings.read (o : SourceOptions) (values : Bindings RawValue) (env : Environment)
    (t : FileTree) : Except Failure Settings :=
  match Sources.of o values env t with
  | .error e => .error (.unreadable e)
  | .ok s => (Settings.load s).mapError .invalidSettings

/-- The settings that values give which say themselves how settings are looked up. -/
def Settings.ofValues (values : Bindings RawValue) (env : Environment) (t : FileTree) :
    Except Failure Settings :=
  match SourceOptions.leadFault? values with
  | some v => .error (.unreadable (.lead v))
  | none => Settings.read (SourceOptions.ofValues values) values env t

/-- The application for settings, if their directory is there. -/
def App.create (c : Circumstances) (t : FileTree) (s : Settings) : Except Failure App :=
  match s.directory with
  | none => .error .blankDirectory
  | some directory =>
    let root := t.absolute directory
    if t.leadsToDirectory (Path.text root) then
      .ok ⟨s.projectName, s.version, ⟨root, c.boundary⟩, false⟩
    else .error (.serving (.rootNotFound (.text directory)))

/-- Configures logging and creates the application; answers also the state of logging. -/
def App.setUp (c : Circumstances) (t : FileTree) (s : Settings) (l : Logging) :
    Logging × Except Failure App :=
  match s.logLevel with
  | none => (l, .error (.blankLevel "upper"))
  | some name =>
    match l.configure name with
    | (l, none) => (l, App.create c t s)
    | (l, some v) => (l, .error (.notALevel v))

end StaticServer
