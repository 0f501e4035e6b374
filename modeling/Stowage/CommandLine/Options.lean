/-!
Options of a command line. Options stand in front of a command's own word and behind it, each at
most once in a place; `--` ends them, after which nothing may follow.
-/
namespace Stowage.CommandLine

/-- An option: a flag, or one that takes a value, which the environment can give too. -/
structure OptionRule where
  name : String
  takesValue : Bool := true
  envName? : Option String := none
  deriving Repr

/-- Looks up the variables of the environment. -/
abbrev Environment := String → Option String

/-- What a row of options is followed by. -/
structure Given where
  values : List (String × String)
  rest : List String
  deriving Repr

/-- Why reading the options stopped. -/
inductive Stop where
  | misuse
  | help
  | version
  deriving DecidableEq, Repr

/-- Whether an argument would be taken for an option. -/
def looksLikeOption (arg : String) : Bool :=
  arg != "-" && arg.toList.head? == some '-'

/-- An option's name, without its dashes, and the value behind an equals sign. -/
def splitOption (arg : String) : String × Option String :=
  let body := arg.toList.drop 2
  match body.dropWhile (· != '=') with
  | [] => (String.ofList body, none)
  | _ :: value => (String.ofList (body.takeWhile (· != '=')), some (String.ofList value))

/-- The value of an option, and the arguments behind it: the value is attached, or it is the next
argument. -/
def optionValue (rule : OptionRule) (attached : Option String) (args : List String) :
    Option (String × List String) :=
  match rule.takesValue, attached, args with
  | false, none, args => some ("true", args)
  | false, some _, _ => none
  | true, some value, args => some (value, args)
  | true, none, [] => none
  | true, none, value :: args => if looksLikeOption value then none else some (value, args)

theorem length_of_optionValue {rule : OptionRule} {attached : Option String} {args : List String}
    {value : String} {rest : List String}
    (h : optionValue rule attached args = some (value, rest)) : rest.length ≤ args.length := by
  unfold optionValue at h
  split at h <;> grind

/-- Reads options up to the first word that is none. -/
def readOptions (rules : List OptionRule) (hasVersion : Bool) (values : List (String × String))
    (args : List String) : Except Stop Given :=
  match args with
  | [] => .ok ⟨values, []⟩
  | arg :: rest =>
    if arg == "--" then if rest.isEmpty then .ok ⟨values, []⟩ else .error .misuse
    else if arg == "--help" || arg == "-h" then .error .help
    else if hasVersion && (arg == "--version" || arg == "-V") then .error .version
    else if !looksLikeOption arg then .ok ⟨values, arg :: rest⟩
    else
      let (name, attached) := splitOption arg
      match rules.find? fun rule => rule.name == name && arg.startsWith "--" with
      | none => .error .misuse
      | some rule =>
        match h : optionValue rule attached rest with
        | none => .error .misuse
        | some (value, rest') =>
          if (values.lookup name).isSome then .error .misuse
          else
            have := length_of_optionValue h
            readOptions rules hasVersion ((name, value) :: values) rest'
termination_by args.length
decreasing_by grind

/-- A flag in the environment is a truth value. -/
def flagValue? (text : String) : Option String :=
  if text == "true" || text == "false" then some text else none

/-- Adds what the environment says of options that were not given. -/
def addEnvironment (env : Environment) (values : List (String × String)) :
    List OptionRule → Except Stop (List (String × String))
  | [] => .ok values
  | rule :: rest =>
    match values.lookup rule.name, rule.envName?.bind env with
    | none, some text =>
      if rule.takesValue then addEnvironment env ((rule.name, text) :: values) rest
      else
        match flagValue? text with
        | some text => addEnvironment env ((rule.name, text) :: values) rest
        | none => .error .misuse
    | _, _ => addEnvironment env values rest

end Stowage.CommandLine
