import Stowage.Table
import Stowage.Json

/-!
What the nodes of a stack share: the replicas excluded from the current operation and a board of
values, on which nodes leave notes for each other.
-/
namespace Stowage

/-- The ids of excluded replicas, in increasing order. -/
structure Exclusions where
  ids : Table Int Unit := ∅
  deriving Repr, DecidableEq, Inhabited

namespace Exclusions

def contains (x : Exclusions) (id : Int) : Bool :=
  x.ids.contains id

def insert (x : Exclusions) (id : Int) : Exclusions :=
  ⟨x.ids.insert id ()⟩

def toList (x : Exclusions) : List Int :=
  x.ids.keys

def isEmpty (x : Exclusions) : Bool :=
  x.ids.isEmpty

end Exclusions

/-- Values under text keys. -/
abbrev Board := Table String Json

end Stowage
