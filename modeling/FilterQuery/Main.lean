import FilterQuery.CommandLine.Run

/-! # The program

Reads the configuration file that the arguments name, and prints the outcome of the run. No log library
stands behind it: `RUST_LOG` is read, since `--log-level` is looked at only without it, but no event is
written, and a reader's words about an unreadable document are missing.
-/

namespace FilterQuery.CommandLine

/-- The text of a file, or why it has none. -/
def readText (path : String) : IO (Except ReadError String) := do
  try
    match String.fromUTF8? (← IO.FS.readBinFile path) with
    | some s => return .ok s
    | none => return .error .notText
  catch
    | .noFileOrDirectory .. => return .error .notFound
    | .permissionDenied .. => return .error .permissionDenied
    | .inappropriateType .. => return .error .directory
    | e => return .error (.other (toString e))

end FilterQuery.CommandLine

open FilterQuery.CommandLine

def main (args : List String) : IO UInt32 := do
  let text ← match Command.ofArgs? args with
    | some (.search a) => readText a.config
    | _ => pure (.error .notFound)
  let logVariable ← IO.getEnv "RUST_LOG"
  let outcome := run { files := fun _ => text, logVariable } args
  IO.print outcome.stdout
  IO.eprint outcome.stderr
  return outcome.exitCode
