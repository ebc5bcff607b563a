import StaticServer.FileTree.Edit
import StaticServer.Program.Run

/-!
# Scripts

A script stands in for what is around the program: the environment, the file tree and the
network. Each line is a word and what it is about, percent-encoded and with single blanks
between:

* `variable name value` sets a variable of the environment;
* `directory path`, `file path content` and `link path target` put an entry into the tree;
* `request method target` is a request that reaches the serving loop.

Other lines say nothing. `Script.run` runs the program in such surroundings, and `transcript`
shows what comes of it.
-/

namespace StaticServer

/-- What is around the program. -/
structure Script where
  /-- The environment. -/
  environment : Environment
  /-- The file tree. -/
  tree : FileTree
  /-- The requests, in order. -/
  requests : List Request

namespace Script

/-- The directory that a script's paths start from. -/
def workingDirectory : Path :=
  ["work"]

/-- Nothing but a working directory. -/
def empty : Script :=
  ⟨[], (FileTree.empty workingDirectory).set workingDirectory .directory, []⟩

/-- The modification time of a script's files: the start of 1970. -/
def modified : Int :=
  0

/-- The surroundings with a changed tree; a change that fails says nothing. -/
def changeTree (s : Script) (change : FileTree → Except EditError FileTree) : Script :=
  match change s.tree with
  | .ok t => { s with tree := t }
  | .error _ => s

/-- The surroundings with what one line adds. -/
def addLine (s : Script) (line : Text) : Script :=
  match line.splitOn ' ' with
  | [word, a] =>
    if word = "directory" then s.changeTree (·.putDirectory (Text.Percent.decode a)) else s
  | [word, a, b] =>
    let first := Text.Percent.decode a
    let second := Text.Percent.decode b
    if word = "variable" then { s with environment := s.environment.put first second }
    else if word = "file" then
      s.changeTree (·.putFile first ⟨Text.Percent.decodeBytes b, modified⟩)
    else if word = "link" then s.changeTree (·.putLink first second)
    else if word = "request" then { s with requests := s.requests ++ [Request.ofParts a b [] []] }
    else s
  | _ => s

/-- The surroundings that the lines of a script describe. -/
def ofLines (lines : List Text) : Script :=
  lines.foldl addLine empty

/-- What stands in for what differs from run to run. -/
def circumstances : Circumstances :=
  ⟨List.replicate 26 '0', "TIME"⟩

/-- The program in these surroundings. -/
def run (s : Script) (arguments : List Text) : Program.Result :=
  let w : World := { tree := s.tree, environment := s.environment, circumstances := circumstances,
                     requests := s.requests }
  Program.run w Program.moduleLogger arguments

/-- A header as a line. -/
def headerLine : Text × Text → Text
  | (name, value) => name ++ (": " ++ (value ++ ['\n']))

/-- A response as a text. -/
def showResponse (a : Response) : Text :=
  Text.ofNat a.status ++ '\n' :: a.headers.flatMap headerLine ++
    '\n' :: Text.Utf8.decode a.body ++ ['\n']

/-- What the program writes, and the responses that it gives. -/
def transcript (r : Program.Result) : Text :=
  r.output ++ (match r.served with
    | some s => s.responses.flatMap showResponse
    | none => [])

/-- What the program writes about failures. -/
def diagnostic (r : Program.Result) : Text :=
  match r.outcome with
  | .raised f => r.diagnostic ++ (f.message ++ ['\n'])
  | _ => r.diagnostic

/-- The status that the program ends with. -/
def status (r : Program.Result) : Nat :=
  match r.outcome with
  | .returned => 0
  | .exited n => n.toNat
  | .raised _ => 1

end Script

end StaticServer
