import StaticServer.Program.Run

/-!
# A run act by act

`Server.run` answers what a run of the server leaves behind. `Server.trace` is the same run as the
list of the acts that it consists of, in their order: what is done to the socket and with it, what
is sent to the loggers, and what happens to their levels. A socket goes by the handle that the
operating system gives it.

`Trace.replay` performs the acts of a trace one after another and answers what they leave behind.
-/

namespace StaticServer

/-- The number by which the operating system calls a socket. -/
abbrev Handle := Nat

/-- One thing that a run of the server does. -/
inductive Act where
  /-- Logging is configured for the level with a name. -/
  | configure (name : Text)
  /-- There is an application from now on. -/
  | application (app : App)
  /-- A socket is created. -/
  | create (socket : Handle) (family : Family)
  /-- The address of a socket may be used again at once. -/
  | reuseAddress (socket : Handle)
  /-- A socket is to be bound to an address, with what comes of it. -/
  | bind (socket : Handle) (host : Option Text) (port : Option Int) (result : BindResult)
  /-- Child processes may inherit a socket, unless something is said against it. -/
  | setInheritable (socket : Handle) (refusal : Option SystemError)
  /-- A message is sent to a logger. -/
  | record (logger : Text) (level : Level) (message : Text)
  /-- The server is set up and gives its loggers a level, the access logger among them. -/
  | giveLevel (level : Int)
  /-- The access logger is made quiet. -/
  | quietAccess
  /-- The serving loop is entered with some sockets. -/
  | serve (sockets : List Handle) (app : App)
  /-- A socket is closed. -/
  | close (socket : Handle)

/-- Acts one after another, and what comes of them. -/
structure Trace (α : Type) where
  /-- The acts. -/
  acts : List Act
  /-- What comes of them. -/
  result : Except Failure α

namespace Trace

instance : Monad Trace where
  pure a := ⟨[], .ok a⟩
  bind x f :=
    match x.result with
    | .error e => ⟨x.acts, .error e⟩
    | .ok a => ⟨x.acts ++ (f a).acts, (f a).result⟩

/-- One act. -/
def one (act : Act) : Trace Unit :=
  ⟨[act], .ok ()⟩

/-- What comes of no act at all. -/
def ofExcept {α : Type} (result : Except Failure α) : Trace α :=
  ⟨[], result⟩

/-- Nothing is done behind a failure. -/
theorem error_bind {α β : Type} (acts : List Act) (e : Failure) (f : α → Trace β) :
    (⟨acts, .error e⟩ >>= f : Trace β) = ⟨acts, .error e⟩ :=
  rfl

/-- Otherwise what follows is done behind the acts so far. -/
theorem ok_bind {α β : Type} (acts : List Act) (a : α) (f : α → Trace β) :
    (⟨acts, .ok a⟩ >>= f : Trace β) = ⟨acts ++ (f a).acts, (f a).result⟩ :=
  rfl

end Trace

namespace Server

/-- Getting an application: the one that is given, or else a new one, for which logging is
configured first. -/
def getApplication (w : World) (s : Settings) (given : Option App) (l : Logging) : Trace App := do
  let app ← match given with
    | some app => pure app
    | none => ⟨s.logLevel.toList.map .configure, (App.setUp w.circumstances w.tree s l).2⟩
  Trace.one (.application app)
  pure app

/-- Getting a socket that is bound to the address of the settings. -/
def openSocket (s : Settings) (o : SocketResults) (socket : Handle) : Trace Handle := do
  match o.create with
  | some e => Trace.ofExcept (.error (.system e))
  | none =>
    Trace.one (.create socket (Family.ofHost s.host))
    Trace.one (.reuseAddress socket)
    Trace.one (.bind socket s.host s.port o.bind)
    match o.bind with
    | .refused e =>
      Trace.one (.close socket)
      Trace.ofExcept (.error (.serving
        (.cannotBind (.ofField .text s.host) (.ofField .integer s.port) (.text e.reason))))
    | .portOutOfRange => Trace.ofExcept (.error .portOutOfRange)
    | .bound =>
      Trace.one (.setInheritable socket o.setInheritable)
      match o.setInheritable with
      | some e => Trace.ofExcept (.error (.system e))
      | none => pure socket

/-- Serving with an application on a socket. -/
def serveOn (w : World) (s : Settings) (app : App) (socket : Handle) : Trace Unit := do
  Trace.one (.record logger Logging.info (startMessage s))
  let level ← Trace.ofExcept (levelOf s)
  Trace.one (.giveLevel level)
  Trace.ofExcept (checkWorkers w.environment)
  Trace.one .quietAccess
  Trace.one (.serve [socket] app)
  Trace.one (.close socket)

/-- A run of the server for settings, with an application that is given or else created, and with
the handle that its socket gets if there is one. -/
def trace (w : World) (s : Settings) (given : Option App) (l : Logging) (socket : Handle) :
    Trace Unit := do
  let app ← getApplication w s given l
  let socket ← openSocket s w.sockets socket
  serveOn w s app socket

end Server

/-! ### Performing acts -/

/-- What acts have left behind at some moment. -/
structure Remains where
  /-- What was done to the socket and with it. -/
  events : List Event := []
  /-- What was written. -/
  output : Text := []
  /-- What the serving loop had to do with, if it was entered. -/
  served : Option Server.Served := none
  /-- The level that the server gave its loggers last. -/
  serverLevel : Int := 0
  /-- The state of logging. -/
  logging : Logging

/-- What one more act leaves behind. -/
def Act.perform (w : World) (s : Settings) (m : Remains) : Act → Remains
  | .configure name => { m with logging := (m.logging.configure name).1 }
  | .application _ => m
  | .create _ family => { m with events := m.events ++ [.socket family] }
  | .reuseAddress _ => { m with events := m.events ++ [.reuseAddress] }
  | .bind _ host port _ => { m with events := m.events ++ [.bind host port] }
  | .setInheritable _ _ => { m with events := m.events ++ [.setInheritable] }
  | .record logger level message =>
    { m with output := m.output ++ m.logging.emit w.circumstances.time logger level message }
  | .giveLevel level =>
    { m with serverLevel := level, logging := { m.logging with accessLevel := .number level } }
  | .quietAccess => { m with logging := m.logging.quietAccess }
  | .serve sockets app =>
    { m with
      events := m.events ++ [.serve sockets.length]
      served := some ⟨s, m.serverLevel, m.logging.accessLevel.rank,
        app.respondAll w.tree w.requests⟩ }
  | .close _ => { m with events := m.events ++ [.close] }

/-- What acts leave behind from a state of logging on. -/
def Remains.after (w : World) (s : Settings) (l : Logging) (acts : List Act) : Remains :=
  acts.foldl (Act.perform w s) { logging := l }

/-- The run that consists of the acts of a trace. -/
def Trace.replay (w : World) (s : Settings) (l : Logging) (x : Trace Unit) : Server.Run :=
  let m := Remains.after w s l x.acts
  let runEnd := match x.result with
    | .ok () => .ofLoop w.loopEnd
    | .error f => .failed f
  ⟨m.events, m.output, m.served, runEnd, m.logging⟩

end StaticServer
