import Stowage.Config.Lenient

/-!
Configuration by lines. `LoadPlugin` and an id load a plugin; any other line is a key and its value,
offered to whom it may concern. A number sign begins a comment.
-/
namespace Stowage.Manager

/-- The key of a line and its value, which is what follows the first blank. -/
def keyAndValue (line : String) : String × String :=
  match Text.splitFirst Text.isBlank line.toList with
  | some (key, value) => (String.ofList key, String.ofList (Text.trimChars value))
  | none => (line, "")

/-- What a line says, without its comment. -/
def statement (line : String) : String :=
  Text.trim (((Text.cut '#' line).map Prod.fst).getD line)

/-- Carries out one line. -/
def loadLine (number : Nat) (raw : String) : Action Manager Unit := do
  let line := statement raw
  if line = "" then return ()
  let here := "line " ++ Text.ofInt number
  let (key, value) := keyAndValue line
  if key = "LoadPlugin" then
    match Text.words value with
    | [id] => load id
    | _ => throw (.malformed
        (here ++ ": expected 'LoadPlugin <plugin-id>', got '" ++ line ++ "'"))
  else
    match ← Action.attempt (configureLenient key value) with
    | .ok () => return ()
    | .error e => throw (e.withContext here)

/-- Carries out lines in order, counting them from `number`, up to the first that fails. -/
def loadLinesFrom (number : Nat) : List String → Action Manager Unit
  | [] => pure ()
  | line :: rest => do
    loadLine number line
    loadLinesFrom (number + 1) rest

/-- Carries out a configuration text. -/
def loadLines (text : String) : Action Manager Unit :=
  loadLinesFrom 1 (Text.lines text)

end Stowage.Manager
