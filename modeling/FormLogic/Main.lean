import FormLogic.CommandLine

/-!
# The program

Reads the snapshot file that the command line names, runs the command and prints its output.
-/

open FormLogic

/-- The bytes of a file, if it can be read. -/
def readFile? (path : String) : IO (Option ByteArray) := do
  try
    return some (← IO.FS.readBinFile path)
  catch _ =>
    return none

def main (args : List String) : IO UInt32 := do
  let outcome ← match CommandLine.Invocation.ofArguments? args with
    | none => pure CommandLine.usage
    | some invocation =>
      let context ← match invocation.settings.context? with
        | some path => pure (Context.ofFile path (← readFile? path))
        | none => pure (.ok Context.empty)
      pure (invocation.run context)
  IO.print outcome.output
  return outcome.exit.toUInt32
