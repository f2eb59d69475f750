import EventSieve.Command.Run

/-!
# The program

Reads the arguments, the environment and files, and writes what a command has to say.
-/
namespace EventSieve

/-- The bytes of a file, or why it cannot be read. -/
def readFile (path : String) : IO (Except FileError ByteArray) := do
  try
    return .ok (← IO.FS.readBinFile path)
  catch
    | .noFileOrDirectory .. => return .error .missing
    | .inappropriateType .. => return .error .notADirectory
    | _ => return .error .directory

/-- The files that a command line may name, as far as they can be read. -/
def readNamed (names : List String) : IO (List (String × Except FileError ByteArray)) :=
  names.mapM fun name => do return (name, ← readFile name)

/-- The files that an invocation reads. -/
def namedFiles (invocation : Command.Invocation) : List String :=
  invocation.common.config.toList ++ invocation.filter.files

end EventSieve

open EventSieve in
/-- Runs the program. -/
def main (arguments : List String) : IO UInt32 := do
  let setting ← IO.getEnv "TRACE_FILTER_CONFIG"
  let terminal ← (← IO.getStdout).isTty
  let names :=
    match Command.Invocation.parse arguments setting with
    | .ok invocation => namedFiles invocation
    | .error _ => []
  let contents ← readNamed names
  let files (name : String) : Except FileError ByteArray :=
    (contents.lookup name).getD (.error .missing)
  let outcome := Command.run arguments setting terminal files
  for warning in outcome.warnings do
    IO.eprintln ("WARN " ++ warning)
  IO.print outcome.output
  IO.eprint outcome.notes
  return UInt32.ofNat outcome.exitCode
