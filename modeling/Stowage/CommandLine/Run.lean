import Stowage.CommandLine.Invocation
import Stowage.Config.File
import Stowage.Stack.Basic
import Stowage.Token

/-!
Carrying out what the operator's tool is asked for.
-/
namespace Stowage.CommandLine

/-- How the tool ends: its exit code, what it prints, and the failure it reports in its log. -/
structure Outcome where
  exit : UInt32
  stdout : String := ""
  failure : Option Error := none
  deriving Repr

def helpText : String :=
  "\n".intercalate [
    "Pluggable storage virtualization stack",
    "",
    "Commands:",
    "  check --config <file> [--user <name>]",
    "  token generate --secret <secret> --id <id> --path <file> [--lifetime <seconds>] [--write]",
    "  token validate --secret <secret> --id <id> --path <file> --token <token> [--write]",
    "",
    "Options: --log-level <level>, --log-json", ""]

def versionText : String :=
  "gridstack 0.2.0\n"

/-- The outcome of a command line that asks for nothing to be done. -/
def Outcome.ofStop : Stop → Outcome
  | .misuse => { exit := 2 }
  | .help => { exit := 0, stdout := helpText }
  | .version => { exit := 0, stdout := versionText }

/-- A working catalog under the identity asked for. -/
def checkStack (user : Option String) : StackM Unit := do
  match user with
  | some name => StackM.setCredentials { mechanism := "local", clientName := name }
  | none => StackM.setSecurity .root
  let _ ← StackM.catalog .workingDir
  let _ ← Action.query fun s => s.stack.securityContext

/-- Loads a configuration, whose text or fault is `contents`, and builds a stack. -/
def checkConfiguration (config : String) (contents : Except FileFault String) (user : Option String) :
    Except Error Unit := do
  let ((), manager) ← match Manager.loadFile config contents .initial with
    | .ok a manager => Except.ok (a, manager)
    | .error e _ => .error e
  let stack ← Stack.create manager
  match checkStack user ⟨stack, { manager }⟩ with
  | .ok () _ => return ()
  | .error e _ => throw e

/-- Carries out an invocation at the time `now`; `contents` is what reading a file gives. -/
def Invocation.run (now : Int) (contents : String → Except FileFault String) :
    Invocation → Outcome
  | .check config user =>
    match checkConfiguration config (contents config) user with
    | .ok () => { exit := 0 }
    | .error e => { exit := 1, failure := e }
  | .issue t lifetime =>
    { exit := 0, stdout := Token.issue now t.id t.file t.secret lifetime t.write ++ "\n" }
  | .validate t token =>
    let status := Token.check now token t.id t.file t.secret t.write
    { exit := if status = .valid then 0 else 1, stdout := status.text ++ "\n" }

/-- The outcome of a command line. -/
def run (now : Int) (env : Environment) (contents : String → Except FileFault String)
    (args : List String) : Outcome :=
  match Invocation.read env args with
  | .error stop => .ofStop stop
  | .ok invocation => invocation.run now contents

end Stowage.CommandLine
