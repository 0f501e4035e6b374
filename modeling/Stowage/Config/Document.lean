import Stowage.Config.Lenient
import Stowage.Yaml.Value

/-!
Configuration by document: plugins to load in order, each with options that it has to know, and
options for whom they may concern, which are offered at the end.
-/
namespace Stowage

/-- Options as the document has them. -/
abbrev OptionMap := List (Yaml.Value × Yaml.Value)

structure PluginConfig where
  id : String
  options : OptionMap := []
  deriving Repr, Inhabited

structure StackConfig where
  plugins : List PluginConfig := []
  options : OptionMap := []
  deriving Repr, Inhabited

namespace OptionMap

/-- The text that a factory gets for a value. -/
def scalar (key : String) : Yaml.Value → Except Error String
  | .str s => .ok s
  | .int n => .ok (Text.ofInt n)
  | .float text => .ok text
  | .bool b => .ok (if b then "true" else "false")
  | _ => .error (.malformed ("option " ++ key ++ " must be a string, number or boolean"))

/-- A key, which may be tagged, has to be a text. -/
def keyText : Yaml.Value → Except Error String
  | .str s => .ok s
  | .tagged _ (.str s) => .ok s
  | _ => .error (.malformed "option keys must be strings")

/-- The options as texts, in order. -/
def entries (options : OptionMap) : Except Error (List (String × String)) :=
  options.mapM fun (key, value) => do
    let key ← keyText key
    return (key, ← scalar key value)

end OptionMap

namespace Manager

/-- Takes options addressed to one plugin, up to the first that it refuses. -/
def configureAll (id : String) : List (String × String) → Action Manager Unit
  | [] => pure ()
  | (key, value) :: rest => do
    configurePlugin id key value
    configureAll id rest

/-- Loads plugins with their options, up to the first failure. -/
def loadAll : List PluginConfig → Action Manager Unit
  | [] => pure ()
  | plugin :: rest => do
    load plugin.id
    configureAll plugin.id (← OptionMap.entries plugin.options)
    loadAll rest

/-- Offers options to whom they may concern, up to the first that is refused. -/
def offerAll : List (String × String) → Action Manager Unit
  | [] => pure ()
  | (key, value) :: rest => do
    configureLenient key value
    offerAll rest

/-- Carries out a configuration document. -/
def applyConfig (config : StackConfig) : Action Manager Unit := do
  loadAll config.plugins
  offerAll (← OptionMap.entries config.options)

end Manager
end Stowage
