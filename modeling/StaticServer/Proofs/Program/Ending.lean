import StaticServer.Proofs.Program.Release

/-!
# How the program ends

The program should end in one of four ways (`Program.EndsProperly`): the serving loop has returned
or been interrupted, help has been given, the command line has been refused, or the start has failed
and that was reported in one line.

A failure is reported only when it is an error of serving: the directory is not there, or the
operating system refuses the address. The report is one line, or nothing when the level is above
that of errors. So for the program to end properly all else has to go well
(`Program.StartsProperly`): the settings are read and are valid, their level is one for the loggers
and one for the server, the socket is created and can be inherited, and the serving loop does not
crash. `Program.endsProperly_run_iff` says that this is what it takes.
-/

namespace StaticServer

namespace Logging

/-- Once logging is configured, an error is written unless the level is above that of errors. -/
theorem emit_error {logger : Text} (hlogger : isAccess logger = false) (l : Logging) (level : Int)
    (time message : Text) :
    (l.configuredFor level).emit time logger error message =
      if level ≤ error.rank then line time logger error message else [] := by
  have heffective : (l.configuredFor level).effectiveLevel logger = level := by
    rw [effectiveLevel, hlogger]
    rfl
  have henabled : (l.configuredFor level).enabled logger error = decide (level ≤ error.rank) := by
    rw [enabled, heffective]
    rfl
  rw [emit, henabled]
  by_cases hle : level ≤ error.rank
  · rw [decide_eq_true hle, if_pos hle]
    rfl
  · rw [decide_eq_false hle, if_neg hle]
    rfl

end Logging

namespace Program

open Server

/-! ### What it takes -/

/-- Is the directory there that is to be served? -/
def rootIsThere (w : World) (directory : Text) : Bool :=
  w.tree.leadsToDirectory (Path.text (w.tree.absolute directory))

/-- A failure of the start that is reported: the directory is not there or the address is
refused. -/
def FailsProperly (w : World) (directory : Text) : Prop :=
  rootIsThere w directory = false ∨ w.sockets.create = none ∧ ∃ e, w.sockets.bind = .refused e

/-- A start that leads to the serving loop, which does not crash. -/
structure Serves (w : World) (s : Settings) (directory : Text) : Prop where
  /-- The directory is there. -/
  root : rootIsThere w directory = true
  /-- A socket is created. -/
  created : w.sockets.create = none
  /-- It is bound. -/
  bound : w.sockets.bind = .bound
  /-- Child processes can inherit it. -/
  inheritable : w.sockets.setInheritable = none
  /-- The server can be set up. -/
  prepared : isPrepared w.environment s = true
  /-- The serving loop returns or is interrupted. -/
  loop : ∀ t, w.loopEnd ≠ .crashed t

/-- What it takes for the program to end properly with some settings: the level is one for the
loggers, a directory is named, and then the server serves or a failure is reported. -/
def StartsProperly (w : World) (s : Settings) : Prop :=
  ∃ name level directory, s.logLevel = some name ∧ Logging.levelOf name = .ok level ∧
    s.directory = some directory ∧ (FailsProperly w directory ∨ Serves w s directory)

/-- The level that the command line and the settings ask for. -/
def HasLevel (w : World) (arguments : List Text) (level : Int) : Prop :=
  ∃ flags base name, CommandLine.parse arguments = .ok flags ∧
    Settings.read {} [] w.environment w.tree = .ok base ∧
    (flags.apply base).logLevel = some name ∧ Logging.levelOf name = .ok level

/-- The ways in which the program should end. -/
inductive EndsProperly (w : World) (logger : Text) (arguments : List Text) (r : Result) : Prop
  /-- The serving loop was entered, and it has returned or been interrupted. -/
  | served (hend : r.outcome = .returned) (hserved : r.served.isSome = true)
    (hloop : w.loopEnd = .returned ∨ w.loopEnd = .interrupted)
  /-- Help was asked for and given. -/
  | helped (hparse : CommandLine.parse arguments = .error .help) (hend : r.outcome = .exited 0)
  /-- The command line was refused. -/
  | misused {e : CommandLine.UsageError} (hparse : CommandLine.parse arguments = .error (.usage e))
    (hend : r.outcome = .exited 2)
  /-- The start has failed, and one error about it was logged: one line, if the level lets errors
  through. -/
  | reported {e : ServingError} {level : Int} (hend : r.outcome = .exited 1)
    (hserved : r.served = none) (hlevel : HasLevel w arguments level)
    (hline : r.output = if level ≤ Logging.error.rank then
      Logging.line w.circumstances.time logger Logging.error e.message else [])

variable {w : World} {s : Settings} {logger : Text} {arguments : List Text}

/-- With a level and a directory it is the start itself that counts. -/
theorem startsProperly_iff {name directory : Text} {level : Int} (hname : s.logLevel = some name)
    (hlevel : Logging.levelOf name = .ok level) (hdirectory : s.directory = some directory) :
    StartsProperly w s ↔ FailsProperly w directory ∨ Serves w s directory := by
  constructor
  · rintro ⟨name', level', directory', hname', hlevel', hdirectory', h⟩
    obtain rfl := Option.some_inj.1 (hname.symm.trans hname')
    obtain rfl := Except.ok.inj (hlevel.symm.trans hlevel')
    obtain rfl := Option.some_inj.1 (hdirectory.symm.trans hdirectory')
    exact h
  · intro h
    exact ⟨name, level, directory, hname, hlevel, hdirectory, h⟩

/-! ### Reports -/

/-- A run that a failure leaves unreported does not end properly. -/
theorem not_endsProperly_of_raised {r : Result} {f : Failure} (h : r.outcome = .raised f) :
    ¬ EndsProperly w logger arguments r := by
  intro hends
  cases hends with
  | served hend => exact nomatch h.symm.trans hend
  | helped _ hend => exact nomatch h.symm.trans hend
  | misused _ hend => exact nomatch h.symm.trans hend
  | reported hend => exact nomatch h.symm.trans hend

/-- An error of serving ends the program properly. -/
theorem endsProperly_report_serving (hlogger : Logging.isAccess logger = false) {e : ServingError}
    {events : List Event} {level : Int} (l : Logging) (hlevel : HasLevel w arguments level) :
    EndsProperly w logger arguments
      (report w logger ⟨events, [], none, .failed (.serving e), l.configuredFor level⟩) :=
  .reported rfl rfl hlevel (Logging.emit_error hlogger l level _ e.message)

/-- Any other failure is not reported. -/
theorem outcome_report_of_failed {r : Run} {f : Failure} (hend : r.runEnd = .failed f)
    (hf : ∀ e, f ≠ .serving e) : (report w logger r).outcome = .raised f := by
  rw [report, hend]
  cases f with
  | serving e => exact absurd rfl (hf e)
  | _ => rfl

/-- Once the serving loop is entered, only a crash of it is not proper. -/
theorem endsProperly_report_served {events : List Event} {output : Text} {served : Served}
    {l : Logging} :
    EndsProperly w logger arguments
        (report w logger ⟨events, output, some served, .ofLoop w.loopEnd, l⟩) ↔
      ∀ t, w.loopEnd ≠ .crashed t := by
  rcases hloop : w.loopEnd with - | - | t
  · exact iff_of_true (.served rfl rfl (.inl hloop)) nofun
  · exact iff_of_true (.served rfl rfl (.inr hloop)) nofun
  · exact iff_of_false (not_endsProperly_of_raised (f := .crashed t) rfl) fun h ↦ h t rfl

/-! ### Runs -/

/-- Without an application the program ends properly when the directory is not there. -/
theorem endsProperly_of_noApplication (hlogger : Logging.isAccess logger = false)
    (hlevels : ∀ {name level}, s.logLevel = some name → Logging.levelOf name = .ok level →
      HasLevel w arguments level) {l l' : Logging} {f : Failure}
    (hsets : App.SetsUp w.circumstances w.tree s l l' (.error f)) :
    EndsProperly w logger arguments (report w logger ⟨[], [], none, .failed f, l'⟩) ↔
      StartsProperly w s := by
  cases hsets with
  | blankLevel hname =>
    refine iff_of_false (not_endsProperly_of_raised rfl) ?_
    rintro ⟨name, -, -, hname', -⟩
    exact nomatch hname.symm.trans hname'
  | notALevel hname hlevel =>
    refine iff_of_false (not_endsProperly_of_raised rfl) ?_
    rintro ⟨name, level, -, hname', hlevel', -⟩
    obtain rfl := Option.some_inj.1 (hname.symm.trans hname')
    exact nomatch hlevel.symm.trans hlevel'
  | blankDirectory hname hlevel hdirectory =>
    refine iff_of_false (not_endsProperly_of_raised rfl) ?_
    rintro ⟨-, -, directory, -, -, hdirectory', -⟩
    exact nomatch hdirectory.symm.trans hdirectory'
  | rootMissing hname hlevel hdirectory hroot =>
    rw [startsProperly_iff hname hlevel hdirectory]
    exact iff_of_true (endsProperly_report_serving hlogger l (hlevels hname hlevel))
      (.inl (.inl hroot))

/-- Where the directory is there, a failure that is reported is a refused address. -/
theorem failsProperly_iff_of_root {directory : Text} (hroot : rootIsThere w directory = true) :
    FailsProperly w directory ↔ w.sockets.create = none ∧ ∃ e, w.sockets.bind = .refused e := by
  rw [FailsProperly, hroot]
  simp

/-- Without a bound socket the program ends properly when the address is refused. -/
theorem endsProperly_of_notBound (hlogger : Logging.isAccess logger = false) {directory : Text}
    {level : Int} (hlevel : HasLevel w arguments level) {events : List Event} {f : Failure}
    (l : Logging) (hroot : rootIsThere w directory = true)
    (hbinds : Binds s w.sockets events (.error f)) :
    EndsProperly w logger arguments
        (report w logger ⟨events, [], none, .failed f, l.configuredFor level⟩) ↔
      FailsProperly w directory ∨ Serves w s directory := by
  rw [failsProperly_iff_of_root hroot]
  cases hbinds with
  | notCreated hcreate =>
    refine iff_of_false (not_endsProperly_of_raised rfl) ?_
    rintro (⟨hnone, -⟩ | hserves)
    · exact nomatch hcreate.symm.trans hnone
    · exact nomatch hcreate.symm.trans hserves.created
  | refused hcreate hbind =>
    exact iff_of_true (endsProperly_report_serving hlogger l hlevel) (.inl ⟨hcreate, _, hbind⟩)
  | outOfRange hcreate hbind =>
    refine iff_of_false (not_endsProperly_of_raised rfl) ?_
    rintro (⟨-, e, hrefused⟩ | hserves)
    · exact nomatch hbind.symm.trans hrefused
    · exact nomatch hbind.symm.trans hserves.bound
  | notInheritable hcreate hbind hinherit =>
    refine iff_of_false (not_endsProperly_of_raised rfl) ?_
    rintro (⟨-, e, hrefused⟩ | hserves)
    · exact nomatch hbind.symm.trans hrefused
    · exact nomatch hinherit.symm.trans hserves.inheritable

/-- **With settings that are read, the program ends properly exactly if it starts properly.** -/
theorem endsProperly_report_run (hlogger : Logging.isAccess logger = false) (w : World)
    (s : Settings) (arguments : List Text)
    (hlevels : ∀ {name level}, s.logLevel = some name → Logging.levelOf name = .ok level →
      HasLevel w arguments level) (l : Logging) :
    EndsProperly w logger arguments (report w logger (Server.run w s none l)) ↔
      StartsProperly w s := by
  have hsets := App.setsUp_setUp w.circumstances w.tree s l
  have hcourse := course_run w s none l
  generalize Server.run w s none l = r at hcourse ⊢
  cases hcourse with
  | noApplication happ =>
    have happ' : App.setUp w.circumstances w.tree s l = (_, .error _) := happ
    rw [happ'] at hsets
    exact endsProperly_of_noApplication hlogger hlevels hsets
  | notBound happ hbind =>
    have happ' : App.setUp w.circumstances w.tree s l = (_, .ok _) := happ
    rw [happ'] at hsets
    have hbinds := binds_bindSocket s w.sockets
    rw [hbind] at hbinds
    cases hsets with
    | created hname hlevel hdirectory hroot =>
      rw [startsProperly_iff hname hlevel hdirectory]
      exact endsProperly_of_notBound hlogger (hlevels hname hlevel) l hroot hbinds
  | notPrepared happ hbind hprepare =>
    have happ' : App.setUp w.circumstances w.tree s l = (_, .ok _) := happ
    rw [happ'] at hsets
    obtain ⟨-, -, hbound, -⟩ := bindSocket_of_ok hbind
    obtain ⟨hnot, hne⟩ := isPrepared_of_error hprepare
    -- neither side: the failure is not one that is reported, and nothing serves
    refine iff_of_false (not_endsProperly_of_raised (outcome_report_of_failed rfl hne)) ?_
    cases hsets with
    | created hname hlevel hdirectory hroot =>
      rw [startsProperly_iff hname hlevel hdirectory, failsProperly_iff_of_root hroot]
      rintro (⟨-, e, hrefused⟩ | hserves)
      · exact nomatch hbound.symm.trans hrefused
      · exact nomatch hnot.symm.trans hserves.prepared
  | served happ hbind hprepare =>
    have happ' : App.setUp w.circumstances w.tree s l = (_, .ok _) := happ
    rw [happ'] at hsets
    obtain ⟨-, hcreate, hbound, hinherit⟩ := bindSocket_of_ok hbind
    cases hsets with
    | created hname hlevel hdirectory hroot =>
      rw [startsProperly_iff hname hlevel hdirectory, failsProperly_iff_of_root hroot,
        endsProperly_report_served]
      constructor
      · intro hloop
        exact .inr ⟨hroot, hcreate, hbound, hinherit, isPrepared_of_ok hprepare, hloop⟩
      · rintro (⟨-, e, hrefused⟩ | hserves)
        · exact nomatch hbound.symm.trans hrefused
        · exact hserves.loop

/-- **How the program ends**, for every command line, environment and tree, and for all answers of
the operating system: it ends properly exactly if the command line is refused or asks for help, or
else the settings can be read and the start with them is a proper one. -/
theorem endsProperly_run_iff (hlogger : Logging.isAccess logger = false) (w : World)
    (arguments : List Text) :
    EndsProperly w logger arguments (run w logger arguments) ↔
      ∀ flags, CommandLine.parse arguments = .ok flags →
        ∃ base, Settings.read {} [] w.environment w.tree = .ok base ∧
          StartsProperly w (flags.apply base) := by
  rcases hparse : CommandLine.parse arguments with stop | flags
  · have hends : EndsProperly w logger arguments (run w logger arguments) := by
      rw [run, hparse]
      cases stop with
      | help => exact .helped hparse rfl
      | usage e => exact .misused hparse rfl
    exact iff_of_true hends nofun
  rcases hread : Settings.read {} [] w.environment w.tree with f | base
  · have hraised : (run w logger arguments).outcome = .raised f := by
      rw [run, hparse]
      simp only [hread]
    refine iff_of_false (not_endsProperly_of_raised hraised) fun h ↦ ?_
    obtain ⟨base, hbase, -⟩ := h flags rfl
    cases hbase
  · have hrun : run w logger arguments =
        report w logger (Server.run w (flags.apply base) none {}) := by
      rw [run, hparse]
      simp only [hread]
    have hlevels {name : Text} {level : Int} (hname : (flags.apply base).logLevel = some name)
        (hlevel : Logging.levelOf name = .ok level) : HasLevel w arguments level :=
      ⟨flags, base, name, hparse, hread, hname, hlevel⟩
    rw [hrun, endsProperly_report_run hlogger w _ arguments hlevels]
    constructor
    · rintro hstarts _ ⟨⟩
      exact ⟨base, rfl, hstarts⟩
    · intro h
      obtain ⟨_, ⟨⟩, hstarts⟩ := h flags rfl
      exact hstarts

/-- A directory that is not there is reported. -/
theorem endsProperly_missingDirectory : Logging.isAccess moduleLogger = false ∧
    EndsProperly easyWorld moduleLogger ["--directory", "nope"]
      (run easyWorld moduleLogger ["--directory", "nope"]) := by
  have hlogger : Logging.isAccess moduleLogger = false := by decide +kernel
  refine ⟨hlogger, (endsProperly_run_iff hlogger easyWorld _).2 fun flags hflags ↦ ?_⟩
  have hparse : CommandLine.parse ["--directory", "nope"] = .ok { directory := .given "nope" } := by
    decide +kernel
  obtain rfl := Except.ok.inj (hparse.symm.trans hflags)
  refine ⟨{}, by decide +kernel, "INFO", 20, "nope", rfl, by decide +kernel, rfl, .inl (.inl ?_)⟩
  decide +kernel

/-- The command line with a level that the server does not know. -/
def sillyArguments : List Text :=
  ["--directory=site", "--log-level=silly"]

/-- The same world with a port in the environment that is no number. -/
def portlessWorld : World :=
  { easyWorld with environment := [("DEVSERVER_PORT", "x")] }

/-- **Failures that are not reported**: a level that the server does not know ends the program with
a bound socket, and a setting that is not valid before there is one. -/
theorem not_endsProperly_sillyArguments :
    ((run easyWorld moduleLogger sillyArguments).outcome = .raised (.unknownLevel "silly") ∧
      ¬ EndsProperly easyWorld moduleLogger sillyArguments
        (run easyWorld moduleLogger sillyArguments)) ∧
    (run portlessWorld moduleLogger []).outcome =
        .raised (.invalidSettings [⟨"port", .intParsing⟩]) ∧
      ¬ EndsProperly portlessWorld moduleLogger [] (run portlessWorld moduleLogger []) := by
  have hsilly : (run easyWorld moduleLogger sillyArguments).outcome =
      .raised (.unknownLevel "silly") := by
    decide +kernel
  have hportless : (run portlessWorld moduleLogger []).outcome =
      .raised (.invalidSettings [⟨"port", .intParsing⟩]) := by
    decide +kernel
  exact ⟨⟨hsilly, not_endsProperly_of_raised hsilly⟩, hportless,
    not_endsProperly_of_raised hportless⟩

end Program

end StaticServer
