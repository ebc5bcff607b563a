import StaticServer.FileTree.Path
import StaticServer.RawValue.Basic
import StaticServer.Settings.Environment

/-!
# Where the sources of settings are

An option says where files or directories are: nowhere, at one path, or at the paths of a list
(`items`). A path may start at somebody's home, which is written with a tilde (`path`).
-/

namespace StaticServer

/-- Why a value does not say where something is. -/
inductive SourcePathError where
  /-- It holds no items. -/
  | notItems (v : RawValue)
  /-- One of its items is no path. -/
  | notPath (v : RawValue)
  /-- A path starts at the home of somebody unknown. -/
  | unknownHome
  deriving DecidableEq

/-- The message of an error. -/
def SourcePathError.message : SourcePathError → Text
  | .notItems v => Text.quoted v.kindName ++ " object is not iterable"
  | .notPath v => "expected str, bytes or os.PathLike object, not " ++ v.kindName
  | .unknownHome => "Could not determine home directory."

namespace SourcePath

/-- The items of a value: a text is the only one, and a record gives its names. -/
def items : RawValue → Except SourcePathError (List RawValue)
  | .null => .ok []
  | .text t => .ok [.text t]
  | .list vs => .ok vs
  | .record fields => .ok (fields.map fun (name, _) ↦ .text name)
  | v => .error (.notItems v)

/-- The home of the user that the program runs as. -/
def userHome : Text :=
  "/root"

/-- The homes of the users that every system has. -/
def homes : List (Text × Text) :=
  [("root", userHome), ("daemon", "/usr/sbin"), ("bin", "/bin"), ("sys", "/dev"),
    ("sync", "/bin"), ("games", "/usr/games"), ("man", "/var/cache/man"),
    ("lp", "/var/spool/lpd"), ("mail", "/var/mail"), ("news", "/var/spool/news"),
    ("uucp", "/var/spool/uucp"), ("proxy", "/bin"), ("www-data", "/var/www"),
    ("backup", "/var/backups"), ("list", "/var/list"), ("irc", "/run/ircd"),
    ("_apt", "/nonexistent"), ("nobody", "/nonexistent")]

/-- The variable of the environment that says where home is. -/
def homeVariable : Text :=
  "HOME"

/-- The home of the user with a name, or without one of whoever runs the program. -/
def home? (env : Environment) (name : Text) : Option Text :=
  if name.isEmpty then
    match env.get? homeVariable with
    | none => some userHome
    | some t =>
      let home := Text.trimRightBy (· == '/') t
      some (if home.isEmpty then "/" else home)
  else homes.lookup name

/-- A tidy path with the home in the place of a tilde at its start. -/
def expandHome (env : Environment) (t : Text) : Except SourcePathError Text :=
  match t with
  | '~' :: rest =>
    let (name, below) := Text.cut '/' rest
    match home? env name with
    | none => .error .unknownHome
    | some home =>
      if home.head? = some '~' then .error .unknownHome
      else .ok (Path.tidyText (home ++ '/' :: below.getD []))
  | _ => .ok t

/-- The path that an item gives. -/
def path (env : Environment) : RawValue → Except SourcePathError Text
  | .text t => expandHome env (Path.tidyText t)
  | v => .error (.notPath v)

end SourcePath

end StaticServer
