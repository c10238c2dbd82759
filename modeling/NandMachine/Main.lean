/-
# NandMachine.Main -- the program

Reads the file that the command line names, carries the command out, and writes
what it leaves behind.
-/
import NandMachine.Command.Perform

namespace NandMachine.Command

/-- What lies under a path. -/
def readContents (path : String) : IO Program.Contents := do
  if let some fault := Program.pathFault? path then return .error fault
  try
    return .ok (← IO.FS.readBinFile path)
  catch
    | .invalidArgument .. => return .error .nameTooLong
    | .noFileOrDirectory .. => return .error .notFound
    | .inappropriateType none .. => return .error .isDirectory
    | .inappropriateType (some _) .. => return .error .notDirectory
    | .permissionDenied .. => return .error (.other "Permission denied (os error 13)")
    | e => return .error (.other (toString e))

/-- The contents that a command line needs. -/
def neededContents (arguments : List String) : IO Program.Contents := do
  match Invocation.ofArguments arguments with
  | .ok invocation => match invocation.request.path? with
      | some path => readContents path
      | none => return .error .notFound
  | .error _ => return .error .notFound

end NandMachine.Command

open NandMachine.Command

def main (arguments : List String) : IO UInt32 := do
  let contents ← neededContents arguments
  let setting ← IO.getEnv "RUST_LOG"
  let outcome := perform arguments setting fun _ => contents
  for event in outcome.events do IO.eprintln event.line
  IO.print outcome.stdout
  IO.eprint outcome.stderr
  return UInt32.ofNat outcome.exit
