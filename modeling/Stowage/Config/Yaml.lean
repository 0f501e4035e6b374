import Stowage.Config.Document
import Stowage.Yaml.Expansion
import Stowage.Yaml.Parse

/-!
Configuration documents in YAML. A document has only the sections that are known, and no name
stands twice; a section of which nothing is written is empty.
-/
namespace Stowage

open Yaml (Document Expanding Node)

namespace StackConfig

/-- The entries of a section by their names; a section may be missing altogether. -/
def sections (d : Document) (known : List String) (node : Node) :
    Expanding (List (String × Node)) := do
  match ← d.follow node with
  | .mapping _ entries =>
    let named ← entries.mapM fun (key, value) => do
      let .scalar _ name _ ← d.follow key | failure
      return (name, value)
    let names := named.map Prod.fst
    if !names.all known.contains || names.eraseDups.length < names.length then failure
    return named
  | node => if node.isAbsent then return [] else failure

/-- Options, under which collections may be nested `depth` deep. -/
def readOptions (d : Document) (depth : Nat) (node : Node) : Expanding OptionMap := do
  match ← d.follow node with
  | .mapping _ entries => Yaml.Node.expandEntries (Yaml.Node.expand d depth) [] entries
  | node => if node.isAbsent then return [] else failure

/-- A plugin: its id, which can be any scalar, and its options. -/
def readPlugin (d : Document) (depth : Nat) (node : Node) : Expanding PluginConfig := do
  let parts ← sections d ["id", "options"] node
  let some id := parts.lookup "id" | failure
  let .scalar _ id _ ← d.follow id | failure
  match parts.lookup "options" with
  | some node => return { id, options := ← readOptions d depth node }
  | none => return { id }

def readPlugins (d : Document) (depth : Nat) (node : Node) : Expanding (List PluginConfig) := do
  match ← d.follow node with
  | .sequence _ items => items.mapM (readPlugin d depth)
  | node => if node.isAbsent then return [] else failure

/-- The configuration a document holds. The document, the list of plugins and a plugin each take
one of the levels of nesting, and so do options. -/
def ofDocument (d : Document) : Expanding StackConfig := do
  let depth := Document.greatestDepth
  let parts ← sections d ["plugins", "options"] d.root
  let pluginList ← match parts.lookup "plugins" with
    | some node => readPlugins d (depth - 4) node
    | none => pure []
  match parts.lookup "options" with
  | some node => return { plugins := pluginList, options := ← readOptions d (depth - 2) node }
  | none => return { plugins := pluginList }

/-- Reads a configuration document. -/
def ofYaml (text : String) : Except Error StackConfig := do
  let some d := Document.ofText? text | throw .yaml
  let some (config, _) := (ofDocument d).run 0 | throw .yaml
  return config

end StackConfig
end Stowage
