import StaticServer.CommandLine.Target
import StaticServer.Settings.Environment
import StaticServer.Text.Integer

/-!
# Usage and help

The answers to who calls the program wrongly and to who asks for help. Both are set in lines
that fit the terminal (`Lines.wrap`): words go into a line as long as there is room, and each
line has at least one word.
-/

namespace StaticServer.CommandLine

/-! ### Setting words in lines -/

namespace Lines

/-- The lines of some words: `line` has been begun and ends at `column`. A word that would pass
the margin starts a line of its own at `indent`. -/
def wrapFrom (margin indent : Int) (line : Text) (column : Int) : List Text → List Text
  | [] => [line]
  | w :: rest =>
    let stop := column + 1 + w.length
    if stop ≤ margin then wrapFrom margin indent (line ++ ' ' :: w) stop rest
    else line :: wrapFrom margin indent w (indent + w.length) rest

/-- The lines of some words, without what stands before them: the first one starts at the
column `start`, the others at `indent`. -/
def wrap (margin start indent : Int) : List Text → List Text
  | [] => []
  | w :: rest => wrapFrom margin indent w (start + w.length) rest

/-- Blanks up to a column. -/
def blanks (column : Nat) : Text :=
  List.replicate column ' '

/-- Lines as one text, with blanks before all but the first. -/
def hang (indent : Nat) (lines : List Text) : Text :=
  Text.join ('\n' :: blanks indent) lines

end Lines

/-! ### The terminal -/

/-- The width of a terminal that does not tell. -/
def defaultColumns : Nat :=
  80

/-- The width of the terminal: the environment tells it, if it is a positive number there. -/
def columns (env : Environment) : Nat :=
  match (env.get? "COLUMNS").bind Text.toInt? with
  | some n => if 0 < n then n.toNat else defaultColumns
  | none => defaultColumns

/-- How far lines go in a terminal. -/
def margin (columns : Nat) : Int :=
  columns - 2

/-- No text is set narrower than this. -/
def leastWidth : Int :=
  11

/-! ### Usage -/

/-- The name of the program. -/
def programName : Text :=
  "devserver"

/-- What stands before the usage. -/
def usageLead : Text :=
  "usage: "

/-- An option in the usage. -/
def usageItem (target : Target) : Text :=
  '[' :: target.withPlaceholder (target.spellings.headD []) ++ [']']

/-- How the program is called. Where the lead and the name would take more than three quarters
of a line, the name has a line of its own. -/
def usage (columns : Nat) : Text :=
  let m := margin columns
  let items := Target.all.map usageItem
  let lead := usageLead.length
  let named := lead + programName.length
  let body :=
    if 4 * (named : Int) ≤ 3 * m then
      Lines.hang (named + 1) (Lines.wrap m lead (named + 1) (programName :: items))
    else Lines.hang lead (programName :: Lines.wrap m lead lead items)
  usageLead ++ (body ++ ['\n'])

/-! ### Help -/

/-- What the program does. -/
def description : Text :=
  "Serve static files with WASM and CORS headers"

/-- The column of the options in the help. -/
def optionIndent : Nat :=
  2

/-- The column of the purposes in the help: there is room behind it if possible. -/
def purposeColumn (columns : Nat) : Nat :=
  min 24 (max (margin columns - 20) 4).toNat

/-- A text in lines, each with a line break: the lines start at `indent`, and the text is as
wide as there is room. -/
def paragraph (columns indent : Nat) (t : Text) : Text :=
  let width := max (margin columns - indent) leastWidth
  Lines.hang indent (Lines.wrap width 0 0 (t.splitOn ' ')) ++ ['\n']

/-- An option in the help: the ways to write it, and its purpose beside them if there is room
and below them otherwise. -/
def helpItem (columns : Nat) (target : Target) : Text :=
  let column := purposeColumn columns
  let written := Text.join ", " (target.spellings.map target.withPlaceholder)
  let purpose := paragraph columns column target.purpose
  Lines.blanks optionIndent ++
    if optionIndent + written.length + 2 ≤ column then
      Text.padRight (column - optionIndent) written ++ purpose
    else written ++ '\n' :: Lines.blanks column ++ purpose

/-- The answer to who asks for help. -/
def helpText (columns : Nat) : Text :=
  usage columns ++ '\n' :: paragraph columns 0 description ++
    ("\noptions:\n" ++ Target.all.flatMap (helpItem columns))

end StaticServer.CommandLine
