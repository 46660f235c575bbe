import Tombstone.Command.Execution

/-!
# The command line program
-/

open Tombstone Command

/-- The text of a file, if it can be read. -/
def readText? (path : String) : IO (Option String) := do
  try
    return some (← IO.FS.readFile path)
  catch _ => return none

/-- Runs the command line: reads the configuration that is asked for, and prints what is shown. -/
def main (arguments : List String) : IO UInt32 := do
  let started ← IO.monoMsNow
  let request := Command.read arguments
  let configText ←
    match neededPath request with
    | none => pure none
    | some path => readText? path
  let result := execute request configText
  let exit := UInt32.ofNat result.exit
  let finished ← IO.monoMsNow
  for line in result.lines do
    IO.println (line.render (finished - started))
  return exit
