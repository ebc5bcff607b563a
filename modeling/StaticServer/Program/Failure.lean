import StaticServer.Program.Logging
import StaticServer.Settings.Load
import StaticServer.Text.Fault

/-!
# Failures

What can go wrong before and while the server runs. Two failures are errors of serving,
which the program reports in one line; the others end it.
-/

namespace StaticServer

/-- An error of serving, with what it is about. -/
inductive ServingError where
  /-- An error with a message only. -/
  | general (message : RawValue)
  /-- The directory to be served is none. -/
  | rootNotFound (directory : RawValue)
  /-- The address cannot be bound. -/
  | cannotBind (host port reason : RawValue)
  deriving DecidableEq

/-- The message of an error of serving. -/
def ServingError.message : ServingError → Text
  | .general message => message.shown
  | .rootNotFound directory => "Serving root not found: " ++ directory.shown
  | .cannotBind host port reason =>
    "Could not bind " ++ (host.shown ++ ':' :: port.shown ++ (": " ++ reason.shown))

/-- What the operating system says about a call that failed. -/
inductive SystemError where
  /-- A number and perhaps words for it. -/
  | numbered (number : Int) (words : Option Text)
  /-- A text. -/
  | plain (t : Text)
  deriving DecidableEq

namespace SystemError

/-- The error as a text. -/
def text : SystemError → Text
  | .numbered n words => "[Errno " ++ (Text.ofInt n ++ ("] " ++ words.getD "None"))
  | .plain t => t

/-- The reason that is shown: the words when there are any, and the whole text otherwise. -/
def reason (e : SystemError) : Text :=
  match e with
  | .numbered _ (some (c :: words)) => c :: words
  | _ => e.text

end SystemError

/-- A failure of the program. -/
inductive Failure where
  /-- An error of serving. -/
  | serving (e : ServingError)
  /-- The settings are not valid. -/
  | invalidSettings (details : List Detail)
  /-- The sources of settings cannot be read. -/
  | unreadable (e : SourceError)
  /-- The directory to be served has been left blank. -/
  | blankDirectory
  /-- The name of the logging level has been left blank, so that it cannot be written in upper
  or lower case. -/
  | blankLevel (letterCase : Text)
  /-- The name of the logging level stands for something that is no level. -/
  | notALevel (v : Logging.NoLevel)
  /-- The server does not know the name of the logging level. -/
  | unknownLevel (name : Text)
  /-- The number of workers that the environment gives is no whole number. -/
  | notAnInteger (t : Text)
  /-- A port outside the range of ports was to be bound. -/
  | portOutOfRange
  /-- A call of the operating system failed. -/
  | system (e : SystemError)
  /-- The serving loop ended with an error. -/
  | crashed (t : Text)
  deriving DecidableEq

/-- The message of a failure. -/
def Failure.message : Failure → Text
  | .serving e => e.message
  | .invalidSettings details => Text.join "\n" (details.map (·.issue.message))
  | .unreadable e => e.message
  | .blankDirectory => "expected str, bytes or os.PathLike object, not list"
  | .blankLevel letterCase =>
    "'list' object has no attribute " ++ Text.quoted letterCase
  | .notALevel v => v.message
  | .unknownLevel name => Text.quoted name
  | .notAnInteger t => Text.integerMessage t
  | .portOutOfRange => "bind(): port must be 0-65535."
  | .system e => e.text
  | .crashed t => t

end StaticServer
