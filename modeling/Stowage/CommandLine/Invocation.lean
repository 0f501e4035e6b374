import Stowage.CommandLine.Options
import Stowage.Text

/-!
What the operator's tool is asked to do: to check a configuration, or to issue or check a token.
-/
namespace Stowage.CommandLine

/-- Who a token is for, for which file, and how it is signed. -/
structure TokenTarget where
  secret : String
  id : String
  file : String
  write : Bool
  deriving Repr

inductive Invocation where
  /-- Builds a stack from a configuration, as root or as a user. -/
  | check (config : String) (user : Option String)
  | issue (target : TokenTarget) (lifetime : Nat)
  | validate (target : TokenTarget) (token : String)
  deriving Repr

/-- The options that can stand anywhere. -/
def everywhere : List OptionRule :=
  [{ name := "log-level", envName? := some "LOG_LEVEL" },
    { name := "log-json", takesValue := false, envName? := some "LOG_JSON" }]

def checkRules : List OptionRule :=
  [{ name := "config", envName? := some "GRIDSTACK_CONFIG" }, { name := "user" }]

def targetRules : List OptionRule :=
  [{ name := "secret", envName? := some "GRIDSTACK_TOKEN_SECRET" }, { name := "id" },
    { name := "path" }, { name := "write", takesValue := false }]

def issueRules : List OptionRule :=
  targetRules ++ [{ name := "lifetime" }]

def validateRules : List OptionRule :=
  targetRules ++ [{ name := "token" }]

/-- The lifetime of a token for which none is given. -/
def defaultLifetime : String := "600"

/-- The value of an option that has to be given. -/
def need (values : List (String × String)) (name : String) : Except Stop String :=
  match values.lookup name with
  | some value => .ok value
  | none => .error .misuse

def readTarget (values : List (String × String)) : Except Stop TokenTarget := do
  return {
    secret := ← need values "secret"
    id := ← need values "id"
    file := ← need values "path"
    write := (values.lookup "write").isSome }

/-- The options of a command that is the last word. -/
def lastOptions (env : Environment) (rules : List OptionRule) (args : List String) :
    Except Stop (List (String × String)) := do
  let rules := rules ++ everywhere
  let given ← readOptions rules false [] args
  if !given.rest.isEmpty then throw .misuse
  addEnvironment env given.values rules

def readCheck (env : Environment) (args : List String) : Except Stop Invocation := do
  let values ← lastOptions env checkRules args
  let config ← need values "config"
  if config == "" then throw .misuse
  return .check config (values.lookup "user")

def readIssue (env : Environment) (args : List String) : Except Stop Invocation := do
  let values ← lastOptions env issueRules args
  let target ← readTarget values
  match Text.readU64? ((values.lookup "lifetime").getD defaultLifetime) with
  | some lifetime => return .issue target lifetime
  | none => throw .misuse

def readValidate (env : Environment) (args : List String) : Except Stop Invocation := do
  let values ← lastOptions env validateRules args
  return .validate (← readTarget values) (← need values "token")

/-- The word that names a command, with what follows it. Its options are checked, and what the
environment says of them, but only after those of the command. -/
def readCommand (env : Environment) (hasVersion : Bool) (args : List String)
    (command : String → List String → Except Stop Invocation) : Except Stop Invocation := do
  let given ← readOptions everywhere hasVersion [] args
  match given.rest with
  | [] => throw .misuse
  | word :: args =>
    let invocation ← if word == "help" then throw .help else command word args
    let _ ← addEnvironment env given.values everywhere
    return invocation

/-- What the arguments ask for. -/
def Invocation.read (env : Environment) (args : List String) : Except Stop Invocation :=
  readCommand env true args fun word args =>
    if word == "check" then readCheck env args
    else if word == "token" then
      readCommand env false args fun word args =>
        if word == "generate" then readIssue env args
        else if word == "validate" then readValidate env args
        else throw .misuse
    else throw .misuse

end Stowage.CommandLine
