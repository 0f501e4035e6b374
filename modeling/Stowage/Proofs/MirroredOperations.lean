import Stowage.Proofs.ExclusionFilters
import Stowage.Resolution.Write

/-! Operations of the resolution seen through a view. They ask the catalog, pools, drivers and the
placement policy, and keep the list of excluded replicas; a view that all of this ignores, each whole
operation ignores. -/
namespace Stowage.Resolution

open Stowage.Action StackM

/-- Nothing that the resolution asks for or does depends on what the view changes. -/
structure Ignores (view : OnSite → OnSite) : Prop extends Overlooks view where
  catalog (r : CatalogRequest) : Mirrors view (catalog r) (catalog r)
  begins : Mirrors view (onStack (modify Stack.beginOperation))
    (onStack (modify Stack.beginOperation))
  excludes (id : Int) : Mirrors view (exclude id) (exclude id)

/-- What the resolution does not see of a state, it does not see in the view. -/
theorem Ignores.ignored {view : OnSite → OnSite} (ignores : Ignores view) :
    Ignored fun s t => t = view s where
  toOverlooked := ignores.overlooked
  catalog r := mirrors_iff_agrees.1 (ignores.catalog r)
  begins := mirrors_iff_agrees.1 ignores.begins
  excludes id := mirrors_iff_agrees.1 (ignores.excludes id)

namespace Ignores

variable {view : OnSite → OnSite} (ignores : Ignores view)
include ignores

theorem whereToRead (path : String) : Mirrors view (whereToRead path) (whereToRead path) :=
  mirrors_iff_agrees.2 (ignores.ignored.whereToRead path)

theorem readWithRetries {α τ : Type} (path : String)
    (attempt : Location → τ → Except Error α × τ) (t : τ) :
    Mirrors view (readWithRetries path attempt t) (readWithRetries path attempt t) :=
  mirrors_iff_agrees.2 (ignores.ignored.readWithRetries path attempt t)

theorem whereToWrite (path : String) : Mirrors view (whereToWrite path) (whereToWrite path) :=
  mirrors_iff_agrees.2 (ignores.ignored.whereToWrite path)

theorem doneWriting (location : Location) (size : Nat) :
    Mirrors view (doneWriting location size) (doneWriting location size) :=
  mirrors_iff_agrees.2 (ignores.ignored.doneWriting location size)

theorem cancelWrite (location : Location) : Mirrors view (cancelWrite location) (cancelWrite location) :=
  mirrors_iff_agrees.2 (ignores.ignored.cancelWrite location)

theorem removeReplica (path : String) (row : Replica) :
    Mirrors view (removeReplica path row) (removeReplica path row) :=
  mirrors_iff_agrees.2 (ignores.ignored.removeReplica path row)

end Ignores
end Stowage.Resolution
