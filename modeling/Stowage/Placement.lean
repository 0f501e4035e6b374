import Stowage.Error
import Stowage.Pool.Filesystem

/-!
Placement: which of several candidates is taken. Pools are ranked by free space, and a policy
settles ties; inside a pool, filesystems are ranked by weight and then by free space.
-/
namespace Stowage

/-- How ties between equally free candidates are settled. -/
inductive PlacementPolicy where
  /-- The earliest candidate wins. -/
  | freeSpace
  /-- Ties rotate from one choice to the next. -/
  | roundRobin
  deriving DecidableEq, Repr, Inhabited

namespace PlacementPolicy

def name : PlacementPolicy → String
  | .freeSpace => "free-space"
  | .roundRobin => "round-robin"

/-- Reads the value of the option that selects a policy. -/
def parse (s : String) : Except Error PlacementPolicy :=
  let word := Text.lower (Text.trim s)
  if word = "free-space" ∨ word = "freespace" then .ok .freeSpace
  else if word = "round-robin" ∨ word = "roundrobin" then .ok .roundRobin
  else .error (.malformed
    ("WritePlacement must be free-space or round-robin, got '" ++ word ++ "'"))

end PlacementPolicy

/-- A policy at work: how many turns it has taken, counted in a word that starts over once it is
full. -/
structure Placement where
  policy : PlacementPolicy := .freeSpace
  turn : UInt64 := 0
  deriving DecidableEq, Repr, Inhabited

namespace Placement

/-- The largest number of a list, zero for the empty one. -/
def best (free : List Nat) : Nat :=
  free.foldl max 0

/-- The positions of the largest numbers, in order. -/
def tied (free : List Nat) : List Nat :=
  (free.zipIdx.filter fun (amount, _) => amount = best free).map Prod.snd

/-- The position that is chosen among candidates with this free space, and the policy after the
choice. Where there is nothing to choose from no turn is taken. -/
def select (p : Placement) (free : List Nat) : Option Nat × Placement :=
  match p.policy with
  | .freeSpace => ((tied free).head?, p)
  | .roundRobin =>
    match tied free with
    | [] => (none, p)
    | first :: others =>
      ((first :: others)[p.turn.toNat % (others.length + 1)]?, { p with turn := p.turn + 1 })

end Placement

/-- The largest of a list by a comparison. Of two the later one is kept, unless the earlier one
compares as the greater. -/
def maxBy? {α : Type} (order : α → α → Ordering) : List α → Option α
  | [] => none
  | first :: rest =>
    some (rest.foldl (fun best next => if order best next = .gt then best else next) first)

/-- How filesystems compare as places to write to: by weight and then by free space. The first of
two that are equal in both counts as the greater, so that it is the one kept. -/
def Filesystem.order (a b : Filesystem) : Ordering :=
  ((compare a.weight b.weight).then (compare a.free b.free)).then .gt

/-- The best filesystem to write to among those that accept writes. -/
def Filesystem.choose (filesystems : List Filesystem) : Option Filesystem :=
  maxBy? order (filesystems.filter (·.accepts true))

end Stowage
