import StaticServer.Program.Script

/-!
# The command

Runs the program with the arguments of the command line, in the surroundings that the script
on standard input describes.
-/

namespace StaticServer

/-- The lines of a stream, up to its end. -/
partial def readLines (input : IO.FS.Stream) (lines : List Text) : IO (List Text) := do
  let line ← input.getLine
  if line.isEmpty then return lines.reverse
  readLines input (Text.trimRightBy (· == '\n') line.toList :: lines)

end StaticServer

open StaticServer

/-- Runs the program and ends with its status. -/
def main (arguments : List String) : IO UInt32 := do
  let lines ← readLines (← IO.getStdin) []
  let result := (Script.ofLines lines).run (arguments.map String.toList)
  IO.print (String.ofList (Script.transcript result))
  IO.eprint (String.ofList (Script.diagnostic result))
  return UInt32.ofNat (Script.status result)
