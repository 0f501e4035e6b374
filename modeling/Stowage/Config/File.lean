import Stowage.Config.Lines
import Stowage.Config.Yaml
import Stowage.Files.Fault

/-!
Configuration files. The extension of a file's name tells whether it holds a document or lines.
-/
namespace Stowage.Manager

/-- What stands behind the last dot of a file's name, unless that dot begins the name. -/
def extension? (name : String) : Option String :=
  let last := (Text.parts '/' name).getLastD ""
  match (Text.parts '.' last).reverse with
  | [] | [_] | [_, ""] => none
  | extension :: _ => some extension

/-- Carries out what a file holds, or reports why it could not be read. -/
def loadFile (name : String) (contents : Except FileFault String) : Action Manager Unit := do
  match contents with
  | .error fault => throw (fault.toError.withContext name)
  | .ok text =>
    if extension? name = some "yaml" ∨ extension? name = some "yml" then
      applyConfig (← StackConfig.ofYaml text)
    else loadLines text

end Stowage.Manager
