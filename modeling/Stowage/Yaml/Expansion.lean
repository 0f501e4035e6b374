import Stowage.Yaml.Node
import Stowage.Yaml.Scalar

/-!
The values that nodes stand for, with every alias expanded. Two limits keep an expansion finite and
small: collections are nested at most 128 deep, and aliases are followed at most a hundred times as
often as the document has events.
-/
namespace Stowage.Yaml

/-- Expanding nodes, which counts the aliases followed and can find a node without a value. -/
abbrev Expanding := StateT Nat Option

namespace Document

def greatestDepth : Nat := 128

def greatestJumps (d : Document) : Nat :=
  100 * d.root.events

/-- The node an alias stands for. -/
def follow (d : Document) (node : Node) : Expanding Node := do
  match node with
  | .alias anchor =>
    let jumps := (← get) + 1
    if jumps > d.greatestJumps then failure
    set jumps
    let some target := d.anchored.lookup anchor | failure
    return target
  | node => return node

end Document

namespace Node

/-- The value of a scalar whose tag names a kind of values. -/
def standardValue? (kind text : String) : Option Value :=
  if kind == "tag:yaml.org,2002:bool" then (Scalar.readBool? text).map .bool
  else if kind == "tag:yaml.org,2002:int" then
    ((Scalar.readInt? text.toList).filter Scalar.holdsInt).map .int
  else if kind == "tag:yaml.org,2002:float" then (Scalar.readFloat? text.toList).map .float
  else if kind == "tag:yaml.org,2002:null" then
    if Scalar.isNull text then some .null else none
  else some (.str text)

/-- A tag of the document's own, which has an exclamation mark in front. -/
def ownTag? (tag : Option String) : Option String :=
  match tag.map String.toList with
  | some ['!'] => some "!"
  | some ('!' :: name) => some (String.ofList name)
  | _ => none

def untaggedValue? (text : String) (plain : Bool) : Option Value :=
  if plain then Scalar.valueOf? text else some (.str text)

def scalarValue? (tag : Option String) (text : String) (plain : Bool) : Option Value :=
  match ownTag? tag, tag with
  | some own, _ => (untaggedValue? text plain).map (.tagged own)
  | none, some kind => standardValue? kind text
  | none, none => untaggedValue? text plain

def underTag (tag : Option String) (value : Value) : Value :=
  match ownTag? tag with
  | some own => .tagged own value
  | none => value

/-- Expands the entries of a mapping in which no key stands twice. -/
def expandEntries (expand : Node → Expanding Value) :
    List (Value × Value) → List (Node × Node) → Expanding (List (Value × Value))
  | done, [] => return done.reverse
  | done, (key, value) :: rest => do
    let key ← expand key
    if done.any (·.1 == key) then failure
    expandEntries expand ((key, ← expand value) :: done) rest

/-- The value of a node under which collections may be nested `depth` deep. -/
def expand (d : Document) : (depth : Nat) → Node → Expanding Value
  | depth, node => do
    match ← d.follow node, depth with
    | .scalar tag text plain, _ => liftM (scalarValue? tag text plain)
    | .sequence tag items, depth + 1 =>
      return underTag tag (.seq (← items.mapM (expand d depth)))
    | .mapping tag entries, depth + 1 =>
      return underTag tag (.map (← expandEntries (expand d depth) [] entries))
    | _, _ => failure

end Node
end Stowage.Yaml
