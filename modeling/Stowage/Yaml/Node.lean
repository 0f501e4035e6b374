import Stowage.Yaml.Token

/-!
The nodes of a YAML document. Aliases stay what they are, so that a document is no larger than its
text; the document knows the nodes that they stand for.
-/
namespace Stowage.Yaml

inductive Node where
  /-- An alias, by the number of its anchor. -/
  | alias (anchor : Nat)
  /-- A scalar; a plain one is written without quotes. -/
  | scalar (tag : Option String) (text : String) (plain : Bool)
  | sequence (tag : Option String) (items : List Node)
  | mapping (tag : Option String) (entries : List (Node × Node))
  deriving Repr, Inhabited

namespace Node

/-- What stands where nothing is written. -/
def absent : Node :=
  .scalar none "" true

/-- Whether this is nothing at all, not even a word for it. -/
def isAbsent : Node → Bool
  | .scalar _ text plain => plain && text == ""
  | _ => false

mutual

/-- How many signs of beginning, content and end a node consists of. -/
def events : Node → Nat
  | .alias _ => 1
  | .scalar .. => 1
  | .sequence _ items => 2 + eventsOfItems items
  | .mapping _ entries => 2 + eventsOfEntries entries

def eventsOfItems : List Node → Nat
  | [] => 0
  | item :: rest => item.events + eventsOfItems rest

def eventsOfEntries : List (Node × Node) → Nat
  | [] => 0
  | (key, value) :: rest => key.events + value.events + eventsOfEntries rest

end

end Node

/-- A document: its node, and the nodes that have anchors, by their numbers. -/
structure Document where
  root : Node
  anchored : List (Nat × Node) := []
  deriving Repr, Inhabited

end Stowage.Yaml
