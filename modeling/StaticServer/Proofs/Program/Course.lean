import StaticServer.Program.Run

/-!
# The course of a run

A run of the server takes four steps: there has to be an application (`Server.application`), a
socket is bound to the address (`bindSocket`), the server is set up (`Server.prepare`), and the
serving loop is entered. Each of the first three may fail, and the run ends where the first one
does.

`Server.course_run` says so once, with all that a run leaves behind: the events, what was written,
what was served, how it ends, and the state of logging. The steps are taken apart in the same way:
`App.setsUp_setUp`, `binds_bindSocket` and `Server.prepare_cases`. What is true of every run is then
a matter of these few cases.
-/

namespace StaticServer

/-! ### Getting an application -/

/-- The state of logging when it has been configured for a level. -/
def Logging.configuredFor (l : Logging) (level : Int) : Logging :=
  { l with rootLevel := level, configured := true }.quietAccess

namespace App

/-- How the attempt to get an application ends, by the settings and the tree. -/
inductive SetsUp (c : Circumstances) (t : FileTree) (s : Settings) (l : Logging) :
    Logging → Except Failure App → Prop
  /-- The level has been left blank. -/
  | blankLevel (hname : s.logLevel = none) : SetsUp c t s l l (.error (.blankLevel "upper"))
  /-- The name of the level is none. -/
  | notALevel {name : Text} {v : Logging.NoLevel} (hname : s.logLevel = some name)
    (hlevel : Logging.levelOf name = .error v) :
    SetsUp c t s l { l with configured := true } (.error (.notALevel v))
  /-- The directory has been left blank. -/
  | blankDirectory {name : Text} {level : Int} (hname : s.logLevel = some name)
    (hlevel : Logging.levelOf name = .ok level) (hdirectory : s.directory = none) :
    SetsUp c t s l (l.configuredFor level) (.error .blankDirectory)
  /-- The directory is not there. -/
  | rootMissing {name directory : Text} {level : Int} (hname : s.logLevel = some name)
    (hlevel : Logging.levelOf name = .ok level) (hdirectory : s.directory = some directory)
    (hroot : t.leadsToDirectory (Path.text (t.absolute directory)) = false) :
    SetsUp c t s l (l.configuredFor level) (.error (.serving (.rootNotFound (.text directory))))
  /-- The directory is there. -/
  | created {name directory : Text} {level : Int} (hname : s.logLevel = some name)
    (hlevel : Logging.levelOf name = .ok level) (hdirectory : s.directory = some directory)
    (hroot : t.leadsToDirectory (Path.text (t.absolute directory)) = true) :
    SetsUp c t s l (l.configuredFor level)
      (.ok ⟨s.projectName, s.version, ⟨t.absolute directory, c.boundary⟩, false⟩)

/-- Setting an application up goes in one of these ways. -/
theorem setsUp_setUp (c : Circumstances) (t : FileTree) (s : Settings) (l : Logging) :
    SetsUp c t s l (App.setUp c t s l).1 (App.setUp c t s l).2 := by
  rcases hname : s.logLevel with - | name
  · simp only [App.setUp, hname]
    exact .blankLevel hname
  rcases hlevel : Logging.levelOf name with v | level
  · simp only [App.setUp, hname, Logging.configure, hlevel]
    exact .notALevel hname hlevel
  simp only [App.setUp, hname, Logging.configure, hlevel]
  rcases hdirectory : s.directory with - | directory
  · simp only [App.create, hdirectory]
    exact .blankDirectory hname hlevel hdirectory
  rcases hroot : t.leadsToDirectory (Path.text (t.absolute directory)) with - | -
  · simp only [App.create, hdirectory, hroot]
    exact .rootMissing hname hlevel hdirectory hroot
  · simp only [App.create, hdirectory, hroot]
    exact .created hname hlevel hdirectory hroot

end App

/-! ### Binding a socket -/

/-- The first things that are done to a socket, up to the attempt to bind it. -/
def Settings.bindEvents (s : Settings) : List Event :=
  [.socket (Family.ofHost s.host), .reuseAddress, .bind s.host s.port]

/-- The error about an address that the operating system refuses. -/
def Settings.bindError (s : Settings) (e : SystemError) : ServingError :=
  .cannotBind (.ofField .text s.host) (.ofField .integer s.port) (.text e.reason)

/-- How the attempt to get a socket ends, by the answers of the operating system. -/
inductive Binds (s : Settings) (o : SocketResults) : List Event → Except Failure Unit → Prop
  /-- No socket is created. -/
  | notCreated {e : SystemError} (hcreate : o.create = some e) : Binds s o [] (.error (.system e))
  /-- The address is refused. -/
  | refused {e : SystemError} (hcreate : o.create = none) (hbind : o.bind = .refused e) :
    Binds s o (s.bindEvents ++ [.close]) (.error (.serving (s.bindError e)))
  /-- The port is none. -/
  | outOfRange (hcreate : o.create = none) (hbind : o.bind = .portOutOfRange) :
    Binds s o s.bindEvents (.error .portOutOfRange)
  /-- The socket is bound and cannot be made inheritable. -/
  | notInheritable {e : SystemError} (hcreate : o.create = none) (hbind : o.bind = .bound)
    (hinherit : o.setInheritable = some e) :
    Binds s o (s.bindEvents ++ [.setInheritable]) (.error (.system e))
  /-- The socket is bound. -/
  | bound (hcreate : o.create = none) (hbind : o.bind = .bound)
      (hinherit : o.setInheritable = none) :
    Binds s o (s.bindEvents ++ [.setInheritable]) (.ok ())

/-- Binding a socket goes in one of these ways. -/
theorem binds_bindSocket (s : Settings) (o : SocketResults) :
    Binds s o (bindSocket s o).1 (bindSocket s o).2 := by
  obtain ⟨create, bind, setInheritable⟩ := o
  rcases create with - | e
  · cases bind with
    | refused e => exact .refused rfl rfl
    | portOutOfRange => exact .outOfRange rfl rfl
    | bound =>
      rcases setInheritable with - | e
      · exact .bound rfl rfl rfl
      · exact .notInheritable rfl rfl rfl
  · exact .notCreated rfl

/-- A socket is bound only after everything has gone well. -/
theorem bindSocket_of_ok {s : Settings} {o : SocketResults} {events : List Event}
    (h : bindSocket s o = (events, .ok ())) :
    events = s.bindEvents ++ [.setInheritable] ∧ o.create = none ∧ o.bind = .bound ∧
      o.setInheritable = none := by
  have hbinds := binds_bindSocket s o
  rw [h] at hbinds
  cases hbinds with
  | bound hcreate hbind hinherit => exact ⟨rfl, hcreate, hbind, hinherit⟩

namespace Server

/-! ### Setting the server up -/

/-- Does the server know a level by this name, in whatever letter case it is written? -/
def knows (name : Text) : Bool :=
  (levels.lookup (Text.lower name)).isSome

/-- Setting the server up: it has to know the level, and to be told a whole number of workers if it
is told one. -/
def prepare (env : Environment) (s : Settings) : Except Failure Int := do
  let level ← levelOf s
  checkWorkers env
  .ok level

/-- A name that is known has a level, -/
theorem levelOf_of_knows {s : Settings} {name : Text} (hname : s.logLevel = some name)
    (h : knows name = true) : ∃ level, levelOf s = .ok level := by
  obtain ⟨level, hlevel⟩ := Option.isSome_iff_exists.1 h
  refine ⟨level, ?_⟩
  rw [levelOf, hname, Option.map_some]
  simp only [hlevel]

/-- and one that is not known is shown in lower case by the failure. -/
theorem levelOf_of_not_knows {s : Settings} {name : Text} (hname : s.logLevel = some name)
    (h : knows name = false) : levelOf s = .error (.unknownLevel (Text.lower name)) := by
  have hlookup : levels.lookup (Text.lower name) = none :=
    Option.isNone_iff_eq_none.1 (Option.isSome_eq_false_iff.1 h)
  rw [levelOf, hname, Option.map_some]
  simp only [hlookup]

/-- Is the number of workers a whole number, if the environment gives one? -/
def readsWorkers (env : Environment) : Bool :=
  (env.get? workersVariable).all fun t ↦ (Text.toInt? t).isSome

theorem checkWorkers_of_reads {env : Environment} (h : readsWorkers env = true) :
    checkWorkers env = .ok () := by
  rw [checkWorkers]
  split
  · next t ht =>
    rw [readsWorkers, ht] at h
    exact if_pos h
  · rfl

/-- Where the number of workers is no whole number, that is the failure. -/
theorem checkWorkers_of_not_reads {env : Environment} (h : readsWorkers env = false) :
    ∃ t, checkWorkers env = .error (.notAnInteger t) := by
  rw [checkWorkers]
  split
  · next t ht =>
    rw [readsWorkers, ht] at h
    exact ⟨t, if_neg (by simpa using h)⟩
  · next hnone =>
    rw [readsWorkers, hnone] at h
    cases h

/-- Can the server be set up? It knows the level, and it is told a whole number where it is told how
many workers there are. -/
def isPrepared (env : Environment) (s : Settings) : Bool :=
  s.logLevel.any knows && readsWorkers env

/-- **Setting the server up** ends with a level, and otherwise with a failure that is no error of
serving. -/
theorem prepare_cases (env : Environment) (s : Settings) :
    (isPrepared env s = true ∧ ∃ level, prepare env s = .ok level) ∨
      (isPrepared env s = false ∧ ∃ f, prepare env s = .error f ∧ ∀ e, f ≠ .serving e) := by
  rcases hname : s.logLevel with - | name
  · refine .inr ⟨?_, .blankLevel "lower", ?_, nofun⟩
    · rw [isPrepared, hname]
      rfl
    · rw [prepare, levelOf, hname]
      rfl
  have hprepared : isPrepared env s = (knows name && readsWorkers env) := by
    rw [isPrepared, hname]
    rfl
  rcases hknows : knows name with - | -
  · refine .inr ⟨by rw [hprepared, hknows]; rfl, .unknownLevel (Text.lower name), ?_, nofun⟩
    rw [prepare, levelOf_of_not_knows hname hknows]
    rfl
  obtain ⟨level, hlevel⟩ := levelOf_of_knows hname hknows
  rcases hreads : readsWorkers env with - | -
  · obtain ⟨t, ht⟩ := checkWorkers_of_not_reads hreads
    refine .inr ⟨by rw [hprepared, hreads, Bool.and_false], .notAnInteger t, ?_, nofun⟩
    rw [prepare, hlevel, ht]
    rfl
  · refine .inl ⟨by rw [hprepared, hknows, hreads]; rfl, level, ?_⟩
    rw [prepare, hlevel, checkWorkers_of_reads hreads]
    rfl

/-- The test is passed by what can be set up, -/
theorem isPrepared_of_ok {env : Environment} {s : Settings} {level : Int}
    (h : prepare env s = .ok level) : isPrepared env s = true := by
  rcases prepare_cases env s with ⟨hprepared, -⟩ | ⟨-, f, hf, -⟩
  · exact hprepared
  · rw [hf] at h
    cases h

/-- and not by what cannot. No such failure is an error of serving. -/
theorem isPrepared_of_error {env : Environment} {s : Settings} {f : Failure}
    (h : prepare env s = .error f) : isPrepared env s = false ∧ ∀ e, f ≠ .serving e := by
  rcases prepare_cases env s with ⟨-, level, hlevel⟩ | ⟨hprepared, f', hf', hne⟩
  · rw [hlevel] at h
    cases h
  · obtain rfl := Except.error.inj (hf'.symm.trans h)
    exact ⟨hprepared, hne⟩

/-! ### A whole run -/

/-- The application of a run and the state of logging with it: the one that is given, or else a new
one. -/
def application (w : World) (s : Settings) (given : Option App) (l : Logging) :
    Logging × Except Failure App :=
  match given with
  | some app => (l, .ok app)
  | none => App.setUp w.circumstances w.tree s l

/-- What a run writes about its start. -/
def startLine (w : World) (s : Settings) (l : Logging) : Text :=
  l.emit w.circumstances.time logger Logging.info (startMessage s)

/-- **The course of a run.** It ends where the first step fails, and otherwise with the serving
loop. -/
inductive Course (w : World) (s : Settings) (given : Option App) (l : Logging) : Run → Prop
  /-- There is no application. -/
  | noApplication {l' : Logging} {f : Failure} (happ : application w s given l = (l', .error f)) :
    Course w s given l ⟨[], [], none, .failed f, l'⟩
  /-- No socket is bound. -/
  | notBound {app : App} {l' : Logging} {events : List Event} {f : Failure}
    (happ : application w s given l = (l', .ok app))
    (hbind : bindSocket s w.sockets = (events, .error f)) :
    Course w s given l ⟨events, [], none, .failed f, l'⟩
  /-- The server cannot be set up. -/
  | notPrepared {app : App} {l' l'' : Logging} {events : List Event} {f : Failure}
    (happ : application w s given l = (l', .ok app))
    (hbind : bindSocket s w.sockets = (events, .ok ()))
    (hprepare : prepare w.environment s = .error f) :
    Course w s given l ⟨events, startLine w s l', none, .failed f, l''⟩
  /-- The serving loop is entered, with the access logger made quiet. -/
  | served {app : App} {l' : Logging} {events : List Event} {level : Int}
    (happ : application w s given l = (l', .ok app))
    (hbind : bindSocket s w.sockets = (events, .ok ()))
    (hprepare : prepare w.environment s = .ok level) :
    Course w s given l ⟨events ++ [.serve 1, .close], startLine w s l',
      some ⟨s, level, Logging.quietLevel, app.respondAll w.tree w.requests⟩, .ofLoop w.loopEnd,
      l'.quietAccess⟩

/-- A run gets its application first, and goes on with it if there is one. -/
theorem run_eq (w : World) (s : Settings) (given : Option App) (l : Logging) :
    run w s given l =
      match application w s given l with
      | (l, .error f) => ⟨[], [], none, .failed f, l⟩
      | (l, .ok app) => runWith w s app l := by
  rcases given with - | app
  · rfl
  · rfl

/-- **A run takes one of the courses.** Every property of runs is a case analysis of this. -/
theorem course_run (w : World) (s : Settings) (given : Option App) (l : Logging) :
    Course w s given l (run w s given l) := by
  rw [run_eq]
  rcases happ : application w s given l with ⟨l', f | app⟩
  · exact .noApplication happ
  rcases hbind : bindSocket s w.sockets with ⟨events, f | ⟨⟩⟩
  · simp only [runWith, hbind]
    exact .notBound happ hbind
  simp only [runWith, hbind, serve]
  rcases hlevel : levelOf s with f | level
  · have hprepare : prepare w.environment s = .error f := by
      rw [prepare, hlevel]
      rfl
    exact .notPrepared happ hbind hprepare
  rcases hworkers : checkWorkers w.environment with f | ⟨⟩
  · have hprepare : prepare w.environment s = .error f := by
      rw [prepare, hlevel, hworkers]
      rfl
    exact .notPrepared happ hbind hprepare
  · have hprepare : prepare w.environment s = .ok level := by
      rw [prepare, hlevel, hworkers]
      rfl
    exact .served happ hbind hprepare

end Server

end StaticServer
