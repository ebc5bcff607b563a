import Mathlib.Data.List.Basic
import StaticServer.Program.Trace
import StaticServer.Proofs.Program.Release

/-!
# The order of a start

A run of the server is the sequence of its acts (`Server.trace`), which leave behind what the run
leaves behind (`Server.replay_trace`). What is true of the order of these acts is true of every run.

There are three courses (`Server.goes_trace`). Without an application nothing is done but to
configure logging. With one, the run may stop on the way to the serving loop. Otherwise the acts
before the loop are a fixed list (`Server.startActs`), and it is read off that list that the socket
is the only one, is bound and open (`Server.isListening_startActs`), that the start has been
reported, and that the access logger is quiet. `Server.inOrder_trace` puts this together.
-/

namespace StaticServer

namespace Act

/-- Is something done to a socket or with one? -/
def isOfSocket : Act → Bool
  | .create _ _ | .reuseAddress _ | .bind _ _ _ _ | .setInheritable _ _ | .serve _ _ | .close _ =>
    true
  | _ => false

/-- Is a socket created? -/
def isCreate : Act → Bool
  | .create _ _ => true
  | _ => false

/-- Is a socket to be bound? -/
def isBind : Act → Bool
  | .bind _ _ _ _ => true
  | _ => false

/-- Is a message sent to a logger? -/
def isRecord : Act → Bool
  | .record _ _ _ => true
  | _ => false

/-- Is the serving loop entered? -/
def isServe : Act → Bool
  | .serve _ _ => true
  | _ => false

end Act

namespace Server

variable {w : World} {s : Settings} {given : Option App} {l : Logging} {socket : Handle} {app : App}

/-! ### The steps of a run -/

/-- What is done before there is an application: logging is configured for a new one. -/
def configuration (s : Settings) : Option App → List Act
  | some _ => []
  | none => s.logLevel.toList.map .configure

/-- What is done to a new socket up to the attempt to bind it. -/
def opening (s : Settings) (socket : Handle) (result : BindResult) : List Act :=
  [.create socket (Family.ofHost s.host), .reuseAddress socket, .bind socket s.host s.port result]

/-- Without an application there is nothing but its configuration. -/
theorem getApplication_of_error {f : Failure} (h : (application w s given l).2 = .error f) :
    getApplication w s given l = ⟨configuration s given, .error f⟩ := by
  rcases given with - | app
  · have hsetUp : (App.setUp w.circumstances w.tree s l).2 = .error f := h
    simp only [getApplication, hsetUp, Trace.error_bind, configuration]
  · cases h

/-- An application that is there is recorded as an act, whether given or new. -/
theorem getApplication_of_ok (h : (application w s given l).2 = .ok app) :
    getApplication w s given l = ⟨configuration s given ++ [.application app], .ok app⟩ := by
  rcases given with - | app'
  · have hsetUp : (App.setUp w.circumstances w.tree s l).2 = .ok app := h
    simp only [getApplication, hsetUp, Trace.ok_bind, configuration]
    rfl
  · cases h
    rfl

/-- How the attempt to get a socket goes, by the answers of the operating system. -/
inductive Opens (s : Settings) (o : SocketResults) (socket : Handle) : Trace Handle → Prop
  /-- No socket is created. -/
  | notCreated {e : SystemError} (hcreate : o.create = some e) :
    Opens s o socket ⟨[], .error (.system e)⟩
  /-- The address is refused. -/
  | refused {e : SystemError} (hcreate : o.create = none) (hbind : o.bind = .refused e) :
    Opens s o socket
      ⟨opening s socket (.refused e) ++ [.close socket], .error (.serving (s.bindError e))⟩
  /-- The port is none. -/
  | outOfRange (hcreate : o.create = none) (hbind : o.bind = .portOutOfRange) :
    Opens s o socket ⟨opening s socket .portOutOfRange, .error .portOutOfRange⟩
  /-- The socket is bound and cannot be made inheritable. -/
  | notInheritable {e : SystemError} (hcreate : o.create = none) (hbind : o.bind = .bound)
    (hinherit : o.setInheritable = some e) :
    Opens s o socket
      ⟨opening s socket .bound ++ [.setInheritable socket (some e)], .error (.system e)⟩
  /-- The socket is bound. -/
  | bound (hcreate : o.create = none) (hbind : o.bind = .bound)
      (hinherit : o.setInheritable = none) :
    Opens s o socket ⟨opening s socket .bound ++ [.setInheritable socket none], .ok socket⟩

/-- **Getting a socket goes in one of these ways.** The order of a start is read off from them, and
nothing below looks at how a socket is opened again. -/
theorem opens_openSocket (s : Settings) (o : SocketResults) (socket : Handle) :
    Opens s o socket (openSocket s o socket) := by
  obtain ⟨create, bind, setInheritable⟩ := o
  rcases create with - | e
  · cases bind with
    | refused e => exact .refused rfl rfl
    | portOutOfRange => exact .outOfRange rfl rfl
    | bound =>
      rcases setInheritable with - | e
      · exact .bound rfl rfl rfl
      · exact .notInheritable rfl rfl rfl
  · exact .notCreated rfl

/-- The report of the start. -/
def announcement (s : Settings) : Act :=
  .record logger Logging.info (startMessage s)

/-- What is done between the application and the serving loop when all goes well. -/
def startActs (s : Settings) (socket : Handle) (level : Int) : List Act :=
  opening s socket .bound ++ [.setInheritable socket none, announcement s, .giveLevel level,
    .quietAccess]

/-- A level that is not known ends the start behind its report, -/
theorem serveOn_of_level_error {f : Failure} (h : levelOf s = .error f) :
    serveOn w s app socket = ⟨[announcement s], .error f⟩ := by
  simp only [serveOn, h]
  rfl

/-- a number of workers that is none when the level has been given, -/
theorem serveOn_of_workers_error {level : Int} {f : Failure} (h : levelOf s = .ok level)
    (hworkers : checkWorkers w.environment = .error f) :
    serveOn w s app socket = ⟨[announcement s, .giveLevel level], .error f⟩ := by
  simp only [serveOn, h, hworkers]
  rfl

/-- and otherwise the loop is entered, and the socket closed behind it. -/
theorem serveOn_of_ok {level : Int} (h : levelOf s = .ok level)
    (hworkers : checkWorkers w.environment = .ok ()) :
    serveOn w s app socket = ⟨[announcement s, .giveLevel level, .quietAccess,
      .serve [socket] app, .close socket], .ok ()⟩ := by
  simp only [serveOn, h, hworkers]
  rfl

/-! ### What the acts leave behind -/

/-- What configuring leaves behind is the logging of the application. -/
theorem after_configuration (w : World) (s : Settings) (given : Option App) (l : Logging) :
    Remains.after w s l (configuration s given) = { logging := (application w s given l).1 } := by
  rcases given with - | app
  · rcases hname : s.logLevel with - | name
    · simp only [configuration, application, App.setUp, hname]
      rfl
    · rcases hconfigure : l.configure name with ⟨l', - | v⟩
      · simp [configuration, application, App.setUp, Remains.after, Act.perform, hname, hconfigure]
      · simp [configuration, application, App.setUp, Remains.after, Act.perform, hname, hconfigure]
  · rfl

/-- **The acts of a run leave behind what the run leaves behind.** -/
theorem replay_trace (w : World) (s : Settings) (given : Option App) (l : Logging)
    (socket : Handle) : (trace w s given l socket).replay w s l = run w s given l := by
  rw [run_eq, trace]
  have hafter := after_configuration w s given l
  rcases happ : application w s given l with ⟨l', f | app⟩
  · rw [happ] at hafter
    rw [getApplication_of_error (congrArg Prod.snd happ)]
    show Trace.replay w s l ⟨_, _⟩ = _
    rw [Trace.replay, hafter]
  rw [happ] at hafter
  rw [getApplication_of_ok (congrArg Prod.snd happ)]
  have hsplit (x : Trace Unit) :
      Trace.replay w s l ⟨configuration s given ++ [.application app] ++ x.acts, x.result⟩ =
        x.replay w s l' := by
    rw [Trace.replay, Trace.replay, Remains.after, List.foldl_append, List.foldl_append,
      ← Remains.after, hafter]
    rfl
  refine (hsplit (openSocket s w.sockets socket >>= serveOn w s app)).trans ?_
  have hopens := opens_openSocket s w.sockets socket
  generalize openSocket s w.sockets socket = x at hopens ⊢
  cases hopens with
  | notCreated hcreate =>
    simp only [runWith, bindSocket, hcreate]
    rfl
  | refused hcreate hbind | outOfRange hcreate hbind =>
    simp only [runWith, bindSocket, hcreate, hbind]
    rfl
  | notInheritable hcreate hbind hinherit =>
    simp only [runWith, bindSocket, hcreate, hbind, hinherit]
    rfl
  | bound hcreate hbind hinherit =>
    rw [Trace.ok_bind]
    simp only [runWith, bindSocket, hcreate, hbind, hinherit]
    rcases hlevel : levelOf s with f | level
    · simp only [serve, serveOn_of_level_error hlevel, hlevel]
      rfl
    rcases hworkers : checkWorkers w.environment with f | ⟨⟩
    · simp only [serve, serveOn_of_workers_error hlevel hworkers, hlevel, hworkers]
      rfl
    · simp only [serve, serveOn_of_ok hlevel hworkers, hlevel, hworkers]
      rfl

/-! ### The courses of a run -/

/-- **The courses of a run**, by its acts. -/
inductive Goes (w : World) (s : Settings) (given : Option App) (l : Logging) (socket : Handle) :
    Trace Unit → Prop
  /-- There is no application. -/
  | noApplication {f : Failure} (happ : (application w s given l).2 = .error f) :
    Goes w s given l socket ⟨configuration s given, .error f⟩
  /-- There is one, and the run stops on the way to the serving loop; a refused address is what it
  stops for. -/
  | stopped {app : App} {acts : List Act} {f : Failure}
    (happ : (application w s given l).2 = .ok app) (hserve : ∀ act ∈ acts, act.isServe = false)
    (hrefused : ∀ socket' host port e, .bind socket' host port (.refused e) ∈ acts →
      host = s.host ∧ port = s.port ∧ f = .serving (s.bindError e)) :
    Goes w s given l socket ⟨configuration s given ++ .application app :: acts, .error f⟩
  /-- The serving loop is entered. -/
  | served {app : App} {level : Int} (happ : (application w s given l).2 = .ok app)
    (hlevel : levelOf s = .ok level) :
    Goes w s given l socket
      ⟨configuration s given ++ .application app :: startActs s socket level ++
        .serve [socket] app :: [.close socket], .ok ()⟩

/-- **A run goes one of these ways.** What is said about the order of its acts, and about what they
leave behind, is a case analysis of this. -/
theorem goes_trace (w : World) (s : Settings) (given : Option App) (l : Logging)
    (socket : Handle) : Goes w s given l socket (trace w s given l socket) := by
  rw [trace]
  rcases happ : (application w s given l).2 with f | app
  · rw [getApplication_of_error happ]
    exact .noApplication happ
  rw [getApplication_of_ok happ]
  have hassoc (acts : List Act) : configuration s given ++ [.application app] ++ acts =
      configuration s given ++ .application app :: acts := List.append_assoc _ _ _
  show Goes w s given l socket
    ⟨configuration s given ++ [.application app] ++
      (openSocket s w.sockets socket >>= serveOn w s app).acts,
      (openSocket s w.sockets socket >>= serveOn w s app).result⟩
  rw [hassoc]
  have hopens := opens_openSocket s w.sockets socket
  generalize openSocket s w.sockets socket = x at hopens ⊢
  cases hopens with
  | notCreated hcreate =>
    rw [Trace.error_bind]
    exact .stopped happ (by simp) (by simp)
  | refused hcreate hbind =>
    -- the one case with a refusal among the acts, which has to be that of the error
    rw [Trace.error_bind]
    refine .stopped happ (by simp [opening, Act.isServe]) fun socket' host port e h ↦ ?_
    simp only [opening, List.cons_append, List.nil_append, List.mem_cons, reduceCtorEq,
      Act.bind.injEq, BindResult.refused.injEq, List.not_mem_nil, or_false, false_or] at h
    obtain ⟨-, rfl, rfl, rfl⟩ := h
    exact ⟨rfl, rfl, rfl⟩
  | outOfRange hcreate hbind =>
    rw [Trace.error_bind]
    exact .stopped happ (by simp [opening, Act.isServe]) (by simp [opening])
  | notInheritable hcreate hbind hinherit =>
    rw [Trace.error_bind]
    exact .stopped happ (by simp [opening, Act.isServe]) (by simp [opening])
  | bound hcreate hbind hinherit =>
    rw [Trace.ok_bind]
    rcases hlevel : levelOf s with f | level
    · rw [serveOn_of_level_error hlevel]
      exact .stopped happ (by simp [opening, announcement, Act.isServe])
        (by simp [opening, announcement])
    rcases hworkers : checkWorkers w.environment with f | ⟨⟩
    · rw [serveOn_of_workers_error hlevel hworkers]
      exact .stopped happ (by simp [opening, announcement, Act.isServe])
        (by simp [opening, announcement])
    · rw [serveOn_of_ok hlevel hworkers]
      have hserved : Goes w s given l socket _ := .served happ hlevel
      rwa [List.append_assoc] at hserved

/-! ### The acts before the application -/

theorem eq_configure_of_mem {act : Act} (h : act ∈ configuration s given) :
    ∃ name, act = .configure name := by
  rcases given with - | app
  · obtain ⟨name, -, rfl⟩ := List.mem_map.1 h
    exact ⟨name, rfl⟩
  · cases h

/-- Logging is configured before there is an application, and nothing else is done. -/
theorem filter_configuration {p : Act → Bool} (hp : ∀ name, p (.configure name) = false) :
    (configuration s given).filter p = [] := by
  refine List.filter_eq_nil_iff.2 fun act hact ↦ ?_
  obtain ⟨name, rfl⟩ := eq_configure_of_mem hact
  exact Bool.eq_false_iff.1 (hp name)

/-- What is done once there is an application is to configure logging, and what comes after it. -/
theorem mem_course {acts : List Act} {act : Act}
    (h : act ∈ configuration s given ++ .application app :: acts) :
    (∃ name, act = .configure name) ∨ act = .application app ∨ act ∈ acts := by
  rcases List.mem_append.1 h with hconfiguration | hrest
  · exact .inl (eq_configure_of_mem hconfiguration)
  · exact .inr (List.mem_cons.1 hrest)

/-- What is done to a socket or with one is done after there is an application. -/
theorem application_mem_of_isOfSocket {acts front back : List Act} {act : Act}
    (hsocket : act.isOfSocket = true)
    (hsplit : configuration s given ++ .application app :: acts = front ++ act :: back) :
    .application app ∈ front := by
  rcases List.append_eq_append_iff.1 hsplit with
    ⟨middle, hfront, hmiddle⟩ | ⟨middle, hfront, hmiddle⟩
  · rcases middle with - | ⟨first, middle⟩
    · -- the act would be the application itself
      obtain rfl := (List.cons.inj hmiddle).1
      cases hsocket
    · obtain rfl := (List.cons.inj hmiddle).1
      rw [hfront]
      exact List.mem_append_right _ List.mem_cons_self
  · rcases middle with - | ⟨first, middle⟩
    · obtain rfl := (List.cons.inj hmiddle).1
      cases hsocket
    · -- the act would be part of the configuration
      obtain rfl := (List.cons.inj hmiddle).1
      have hmem : act ∈ configuration s given := List.mem_iff_append.2 ⟨front, middle, hfront⟩
      obtain ⟨name, rfl⟩ := eq_configure_of_mem hmem
      cases hsocket

/-! ### The socket that is served on -/

/-- After some acts a socket is the only one that there is, bound to the address of the settings,
left to child processes, and open. -/
structure IsListening (s : Settings) (socket : Handle) (front : List Act) : Prop where
  /-- It is the only one that has been created, and of the family of the host's addresses. -/
  created : front.filter Act.isCreate = [.create socket (Family.ofHost s.host)]
  /-- That is the one of IPv6 exactly if the host has a colon. -/
  family : Family.ofHost s.host = .inet6 ↔ ∃ host, s.host = some host ∧ ':' ∈ host
  /-- It has been bound to the host and the port, and nothing else has been bound. -/
  bound : front.filter Act.isBind = [.bind socket s.host s.port .bound]
  /-- Before that its address was made one that may be used again at once. -/
  reusable : ∃ before after, front = before ++ .bind socket s.host s.port .bound :: after ∧
    .reuseAddress socket ∈ before
  /-- Child processes may inherit it. -/
  inheritable : .setInheritable socket none ∈ front
  /-- It has not been closed. -/
  isOpen : .close socket ∉ front

/-- A colon in the host tells the families of addresses apart. -/
theorem ofHost_eq_inet6_iff {o : Option Text} :
    Family.ofHost o = .inet6 ↔ ∃ host, o = some host ∧ ':' ∈ host := by
  rcases o with - | host
  · simp [Family.ofHost]
  · simp [Family.ofHost]

/-- What is done before the serving loop leaves one socket, and it is ready. -/
theorem isListening_startActs (s : Settings) (given : Option App) (app : App) (socket : Handle)
    (level : Int) : IsListening s socket
      (configuration s given ++ .application app :: startActs s socket level) where
  created := by
    rw [List.filter_append, filter_configuration fun _ ↦ rfl]
    rfl
  family := ofHost_eq_inet6_iff
  bound := by
    rw [List.filter_append, filter_configuration fun _ ↦ rfl]
    rfl
  reusable := by
    refine ⟨configuration s given ++ [.application app, .create socket (Family.ofHost s.host),
      .reuseAddress socket], [.setInheritable socket none, announcement s, .giveLevel level,
      .quietAccess], ?_, by simp⟩
    rw [List.append_assoc]
    rfl
  inheritable := by simp [startActs]
  isOpen := by
    intro h
    rcases mem_course h with ⟨name, hname⟩ | happlication | hstart
    · cases hname
    · cases happlication
    · simp [startActs, opening, announcement] at hstart

theorem isServe_of_mem_startActs {level : Int} {act : Act} (h : act ∈ startActs s socket level) :
    act.isServe = false := by
  have hall : (startActs s socket level).all (fun act ↦ !act.isServe) = true := rfl
  simpa using List.all_eq_true.1 hall act h

/-- The access logger is quiet before the serving loop, whatever level it was given. -/
theorem accessLevel_after_startActs (acts : List Act) (level : Int) :
    (Remains.after w s l (acts ++ startActs s socket level)).logging.accessLevel =
      .number Logging.quietLevel := by
  rw [Remains.after, List.foldl_append]
  rfl

/-! ### The order of a start -/

/-- **The order of a start**: what stands where among the acts of a run. -/
structure StartsInOrder (w : World) (s : Settings) (given : Option App) (l : Logging)
    (socket : Handle) (x : Trace Unit) : Prop where
  /-- Nothing is done to a socket, and none is created, before there is an application. -/
  sockets : ∀ front act back, x.acts = front ++ act :: back → act.isOfSocket = true →
    ∃ app, (application w s given l).2 = .ok app ∧ .application app ∈ front
  /-- Where there is none, that is what the run ends with, and no socket is touched. -/
  withoutApplication : ∀ f, (application w s given l).2 = .error f →
    x.result = .error f ∧ ∀ act ∈ x.acts, act.isOfSocket = false
  /-- The serving loop is entered when nothing fails before it, and only then. -/
  entered : x.result = .ok () ↔ ∃ sockets app, .serve sockets app ∈ x.acts
  /-- It is entered once, with the one socket, which is ready, and with the application. The start
  has been reported once, as what the program does and not as a failure, with the directory that is
  served and the address for a browser. And the access logger is quiet, whatever level it was given
  before: it leaves out all that is below a warning. -/
  serving : ∀ front sockets app back, x.acts = front ++ .serve sockets app :: back →
    sockets = [socket] ∧ IsListening s socket front ∧
      (application w s given l).2 = .ok app ∧ .application app ∈ front ∧
      front.filter Act.isRecord = [.record "devserver.server" (.number 20)
        ("Serving " ++ (s.shownDirectory ++ (" on " ++ s.localUrl)))] ∧
      (∃ level, levelOf s = .ok level ∧ .giveLevel level ∈ front) ∧
      (Remains.after w s l front).logging.accessLevel = .number 30 ∧
      ∀ act ∈ front ++ back, act.isServe = false
  /-- An address that is refused ends the run with an error that names it, and the serving loop is
  not entered. -/
  refusal : ∀ socket' host port e, .bind socket' host port (.refused e) ∈ x.acts →
    host = s.host ∧ port = s.port ∧ x.result = .error (.serving (s.bindError e)) ∧
      ∀ act ∈ x.acts, act.isServe = false

/-- The order holds where there is no application, for nothing follows. -/
theorem startsInOrder_of_error {f : Failure} (happ : (application w s given l).2 = .error f) :
    StartsInOrder w s given l socket ⟨configuration s given, .error f⟩ := by
  have hnone (act : Act) (hact : act ∈ configuration s given) : act.isOfSocket = false := by
    obtain ⟨name, rfl⟩ := eq_configure_of_mem hact
    rfl
  refine ⟨fun front act back hsplit hsocket ↦ ?_, fun f' happ' ↦ ?_, ⟨nofun, ?_⟩,
    fun front sockets app back hsplit ↦ ?_, fun socket' host port e hbind ↦ ?_⟩
  · have hact := hnone act (List.mem_iff_append.2 ⟨front, back, hsplit⟩)
    exact absurd hsocket (Bool.eq_false_iff.1 hact)
  · obtain rfl := Except.error.inj (happ.symm.trans happ')
    exact ⟨rfl, hnone⟩
  · rintro ⟨sockets, app, hserve⟩
    cases hnone _ hserve
  · cases hnone (.serve sockets app) (List.mem_iff_append.2 ⟨front, back, hsplit⟩)
  · cases hnone _ hbind

/-- It holds where the start stops behind the application, and a refused address is what it stops
for. -/
theorem startsInOrder_of_stopped {acts : List Act} {f : Failure}
    (happ : (application w s given l).2 = .ok app) (hserve : ∀ act ∈ acts, act.isServe = false)
    (hrefused : ∀ socket' host port e, .bind socket' host port (.refused e) ∈ acts →
      host = s.host ∧ port = s.port ∧ f = .serving (s.bindError e)) :
    StartsInOrder w s given l socket
      ⟨configuration s given ++ .application app :: acts, .error f⟩ := by
  have hnone (act : Act) (hact : act ∈ configuration s given ++ .application app :: acts) :
      act.isServe = false := by
    rcases mem_course hact with ⟨name, rfl⟩ | rfl | hacts
    · rfl
    · rfl
    · exact hserve act hacts
  refine ⟨fun front act back hsplit hsocket ↦ ⟨app, happ, ?_⟩, fun f' happ' ↦ ?_, ⟨nofun, ?_⟩,
    fun front sockets app' back hsplit ↦ ?_, fun socket' host port e hbind ↦ ?_⟩
  · exact application_mem_of_isOfSocket hsocket hsplit
  · exact nomatch happ.symm.trans happ'
  · rintro ⟨sockets, app', hmem⟩
    cases hnone _ hmem
  · cases hnone (.serve sockets app') (List.mem_iff_append.2 ⟨front, back, hsplit⟩)
  · rcases mem_course hbind with ⟨name, hname⟩ | happlication | hacts
    · cases hname
    · cases happlication
    · obtain ⟨rfl, rfl, rfl⟩ := hrefused socket' host port e hacts
      exact ⟨rfl, rfl, rfl, hnone⟩

/-- It holds where the loop is entered. -/
theorem startsInOrder_of_served {level : Int} (happ : (application w s given l).2 = .ok app)
    (hlevel : levelOf s = .ok level) :
    StartsInOrder w s given l socket
      ⟨configuration s given ++ .application app :: startActs s socket level ++
        .serve [socket] app :: [.close socket], .ok ()⟩ := by
  set before := configuration s given ++ .application app :: startActs s socket level with hbefore
  have hnone (act : Act) (hact : act ∈ before) : act.isServe = false := by
    rcases mem_course hact with ⟨name, rfl⟩ | rfl | hstart
    · rfl
    · rfl
    · exact isServe_of_mem_startActs hstart
  refine ⟨fun front act back hsplit hsocket ↦ ⟨app, happ, ?_⟩, fun f' happ' ↦ ?_,
    iff_of_true rfl ⟨[socket], app, by simp⟩, fun front sockets app' back hsplit ↦ ?_,
    fun socket' host port e hbind ↦ ?_⟩
  · rw [hbefore, List.append_assoc] at hsplit
    exact application_mem_of_isOfSocket hsocket hsplit
  · exact nomatch happ.symm.trans happ'
  · -- the loop is entered nowhere else, so the acts split there in one way
    have hnotMem : .serve sockets app' ∉ before := fun h ↦ nomatch hnone _ h
    obtain ⟨rfl, hact, rfl⟩ := (List.append_cons_inj_of_notMem hnotMem (by simp)).1 hsplit
    obtain ⟨rfl, rfl⟩ := Act.serve.inj hact
    refine ⟨rfl, isListening_startActs s given app socket level, happ, by simp [hbefore], ?_,
      ⟨level, hlevel, by simp [hbefore, startActs]⟩, ?_, ?_⟩
    · rw [hbefore, List.filter_append, filter_configuration fun _ ↦ rfl]
      rfl
    · rw [hbefore, List.append_cons]
      exact accessLevel_after_startActs _ level
    · intro act hact
      rcases List.mem_append.1 hact with hbefore | hclose
      · exact hnone act hbefore
      · obtain rfl := List.mem_singleton.1 hclose
        rfl
  · have hmem : .bind socket' host port (.refused e) ∈ before := by simpa using hbind
    rcases mem_course hmem with ⟨name, hname⟩ | happlication | hstart
    · cases hname
    · cases happlication
    · simp [startActs, opening, announcement] at hstart

example : (trace easyWorld { directory := some "site" } none {} 3).acts =
    [.configure "INFO", .application App.siteApp, .create 3 .inet, .reuseAddress 3,
      .bind 3 (some "0.0.0.0") (some 7070) .bound, .setInheritable 3 none,
      .record "devserver.server" Logging.info "Serving site on http://localhost:7070",
      .giveLevel 20, .quietAccess, .serve [3] App.siteApp, .close 3] :=
  rfl

end Server

end StaticServer
