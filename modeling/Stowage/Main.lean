import Std.Time.DateTime.Timestamp
import Stowage.CommandLine.Run

/-!
The operator's tool.
-/

open Stowage CommandLine

/-- What reading a file of this machine gives. -/
def readContents (name : String) : IO (Except FileFault String) := do
  try
    let bytes ← IO.FS.readBinFile name
    return match String.fromUTF8? bytes with
      | some text => .ok text
      | none => .error .notText
  catch
    | .inappropriateType .. => return .error .isDirectory
    | .invalidArgument .. => return .error .invalid
    | _ => return .error .noEntry

/-- The values of the variables that the tool looks at. -/
def readEnvironment : IO Environment := do
  let names := (everywhere ++ checkRules ++ targetRules).filterMap (·.envName?)
  let values ← names.mapM fun name => return (name, ← IO.getEnv name)
  return fun name => (values.lookup name).join

def main (args : List String) : IO UInt32 := do
  let env ← readEnvironment
  let now := (← Std.Time.Timestamp.now).toSecondsSinceUnixEpoch.val
  let contents ← match Invocation.read env args with
    | .ok (.check config _) => readContents config
    | _ => pure (.error .noEntry)
  let outcome := run now env (fun _ => contents) args
  (← IO.getStdout).putStr outcome.stdout
  if let some e := outcome.failure then
    (← IO.getStderr).putStrLn e.display
  return outcome.exit
