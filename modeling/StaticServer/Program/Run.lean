import StaticServer.CommandLine.Parse
import StaticServer.Program.Create
import StaticServer.Program.Listener

/-!
# Running the server

`Server.run` creates the application, binds the socket, says that it serves, enters the
serving loop and closes the socket when the loop ends, however it ends. `Program.run` is the
whole program: it reads the command line, loads the settings, runs the server and reports
errors of serving.

What the operating system and the serving loop do is an argument; what the program does is
the answer: events, lines of output, the responses, and how it ends.
-/

namespace StaticServer

/-- How the serving loop ends. -/
inductive LoopEnd where
  /-- It returns. -/
  | returned
  /-- The user interrupts it. -/
  | interrupted
  /-- It fails. -/
  | crashed (t : Text)
  deriving DecidableEq

/-- What the world outside the program does. -/
structure World where
  /-- The file tree. -/
  tree : FileTree
  /-- The environment. -/
  environment : Environment := []
  /-- What differs from run to run. -/
  circumstances : Circumstances
  /-- How the calls for a socket are answered. -/
  sockets : SocketResults := {}
  /-- The requests that reach the serving loop. -/
  requests : List Request := []
  /-- How the serving loop ends. -/
  loopEnd : LoopEnd := .returned

/-- The answers of an application to requests, one after the other. -/
def App.respondAll (t : FileTree) : App → List Request → List Response
  | _, [] => []
  | app, r :: rest =>
    let (response, app) := app.handle t r
    response :: App.respondAll t app rest

namespace Server

/-- The names of levels that the server knows, in lower case. -/
def levels : List (Text × Int) :=
  [("critical", 50), ("error", 40), ("warning", 30), ("info", 20), ("debug", 10), ("trace", 5)]

/-- The name of the logger that reports the start. -/
def logger : Text :=
  "devserver.server"

/-- The message that reports the start. -/
def startMessage (s : Settings) : Text :=
  "Serving " ++ (s.shownDirectory ++ (" on " ++ s.localUrl))

/-- What the serving loop has to do with. -/
structure Served where
  /-- The settings. -/
  settings : Settings
  /-- The level of the server's own loggers. -/
  serverLevel : Int
  /-- The level of the access logger. -/
  accessLevel : Int
  /-- The responses to the requests. -/
  responses : List Response
  deriving DecidableEq

/-- How a run ends. -/
inductive RunEnd where
  /-- It returns. -/
  | returned
  /-- The user interrupts it. -/
  | interrupted
  /-- It fails. -/
  | failed (f : Failure)
  deriving DecidableEq

/-- A run of the server. -/
structure Run where
  /-- What was done to the socket and with it. -/
  events : List Event
  /-- What was written. -/
  output : Text
  /-- What the serving loop had to do with, if it was entered. -/
  served : Option Served
  /-- How the run ends. -/
  runEnd : RunEnd
  /-- The state of logging at the end. -/
  logging : Logging

/-- A run's end by the end of its loop. -/
def RunEnd.ofLoop : LoopEnd → RunEnd
  | .returned => .returned
  | .interrupted => .interrupted
  | .crashed t => .failed (.crashed t)

/-- The variable of the environment with the number of workers. -/
def workersVariable : Text :=
  "WEB_CONCURRENCY"

/-- The number of workers has to be a whole number, if the environment gives it. -/
def checkWorkers (env : Environment) : Except Failure Unit :=
  match env.get? workersVariable with
  | some t => if (Text.toInt? t).isSome then .ok () else .error (.notAnInteger t)
  | none => .ok ()

/-- The level that the server takes from settings. -/
def levelOf (s : Settings) : Except Failure Int :=
  match s.logLevel.map Text.lower with
  | none => .error (.blankLevel "lower")
  | some name =>
    match levels.lookup name with
    | none => .error (.unknownLevel name)
    | some level => .ok level

/-- Serves with an application on a bound socket. Setting the server up gives its loggers
their level, the access logger among them, which is then made quiet again. -/
def serve (w : World) (s : Settings) (app : App) (events : List Event) (l : Logging) : Run :=
  let output := l.emit w.circumstances.time logger Logging.info (startMessage s)
  match levelOf s with
  | .error f => ⟨events, output, none, .failed f, l⟩
  | .ok level =>
    let l := { l with accessLevel := .number level }
    match checkWorkers w.environment with
    | .error f => ⟨events, output, none, .failed f, l⟩
    | .ok () =>
      let l := l.quietAccess
      let served : Served := ⟨s, level, l.accessLevel.rank, app.respondAll w.tree w.requests⟩
      ⟨events ++ [.serve 1, .close], output, some served, .ofLoop w.loopEnd, l⟩

/-- Binds the socket for an application and serves with it. -/
def runWith (w : World) (s : Settings) (app : App) (l : Logging) : Run :=
  match bindSocket s w.sockets with
  | (events, .error f) => ⟨events, [], none, .failed f, l⟩
  | (events, .ok ()) => serve w s app events l

/-- Runs the server for settings, with an application that is given or else created. -/
def run (w : World) (s : Settings) (given : Option App) (l : Logging) : Run :=
  match given with
  | some app => runWith w s app l
  | none =>
    match App.setUp w.circumstances w.tree s l with
    | (l, .error f) => ⟨[], [], none, .failed f, l⟩
    | (l, .ok app) => runWith w s app l

end Server

namespace Program

/-- How the program ends. -/
inductive Outcome where
  /-- It returns. -/
  | returned
  /-- It exits with a status. -/
  | exited (status : Int)
  /-- It fails with what nothing in it reports. -/
  | raised (f : Failure)
  deriving DecidableEq

/-- What the program has done. -/
structure Result where
  /-- How it ends. -/
  outcome : Outcome
  /-- What the serving loop had to do with, if it was entered. -/
  served : Option Server.Served
  /-- What was done to the socket and with it. -/
  events : List Event
  /-- What was written to standard output. -/
  output : Text
  /-- What was written to standard error. -/
  diagnostic : Text

/-- The logger of the program when it is called by its module's name. -/
def moduleLogger : Text :=
  "devserver.cli"

/-- The logger of the program when its module is run itself. -/
def mainLogger : Text :=
  "__main__"

/-- The message that reports an interruption. -/
def interruptMessage : Text :=
  "Shutting down dev server..."

/-- The result of a run of the server: an error of serving is reported in one line and gives
the status 1, an interruption is reported. -/
def report (w : World) (logger : Text) (r : Server.Run) : Result :=
  let emit := r.logging.emit w.circumstances.time logger
  match r.runEnd with
  | .returned => ⟨.returned, r.served, r.events, r.output, []⟩
  | .interrupted =>
    ⟨.returned, r.served, r.events, r.output ++ emit Logging.info interruptMessage, []⟩
  | .failed (.serving e) =>
    ⟨.exited 1, r.served, r.events, r.output ++ emit Logging.error e.message, []⟩
  | .failed f => ⟨.raised f, r.served, r.events, r.output, []⟩

/-- The program: a command line and the world it runs in. -/
def run (w : World) (logger : Text) (arguments : List Text) : Result :=
  match CommandLine.parse arguments with
  | .error stop =>
    let columns := CommandLine.columns w.environment
    ⟨.exited stop.status, none, [], stop.output columns, stop.diagnostic columns⟩
  | .ok flags =>
    match Settings.read {} [] w.environment w.tree with
    | .error f => ⟨.raised f, none, [], [], []⟩
    | .ok base => report w logger (Server.run w (flags.apply base) none {})

end Program

end StaticServer
