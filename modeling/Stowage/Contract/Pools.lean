import Stowage.Contract.Basic
import Stowage.Location
import Stowage.Pool.Basic
import Stowage.Replica

/-!
The contracts around pools: a manager owns the table of pools, and a driver knows one technology
of pools, for which it accounts for space and turns replicas and paths into locations.
-/
namespace Stowage

inductive PoolsRequest where
  | list (filter : PoolAvailability)
  | get (name : String)
  | create (pool : Pool)
  | update (pool : Pool)
  | delete (pool : Pool)
  deriving Repr

namespace PoolsRequest

abbrev Answer : PoolsRequest → Type
  | .list _ => List Pool
  | .get _ => Pool
  | .create _ | .update _ | .delete _ => Unit

def operation : PoolsRequest → String
  | .list _ => "get_pools"
  | .get _ => "get_pool"
  | .create _ => "new_pool"
  | .update _ => "update_pool"
  | .delete _ => "delete_pool"

end PoolsRequest

abbrev Contract.pools : Contract :=
  ⟨.pools, PoolsRequest, PoolsRequest.Answer, PoolsRequest.operation⟩

inductive DriverRequest where
  | isAvailable (pool : Pool) (forWrite : Bool)
  | freeSpace (pool : Pool)
  | totalSpace (pool : Pool)
  /-- Where to read a replica. -/
  | readLocation (pool : Pool) (replica : Replica)
  /-- Where to write a new replica of the logical file `path`. -/
  | writeLocation (pool : Pool) (path : String)
  /-- Accounts for a completed write; the answer is the pool to store. -/
  | writeDone (pool : Pool) (replica : Replica) (size : Nat)
  /-- Releases what a write location holds. -/
  | cancelWrite (pool : Pool) (location : Location)
  /-- Deletes the physical data of a replica. -/
  | remove (pool : Pool) (path : String) (replica : Replica)
  deriving Repr

namespace DriverRequest

abbrev Answer : DriverRequest → Type
  | .isAvailable _ _ => Bool
  | .freeSpace _ | .totalSpace _ => Nat
  | .readLocation _ _ | .writeLocation _ _ => Location
  | .writeDone _ _ _ => Pool
  | .cancelWrite _ _ | .remove _ _ _ => Unit

def operation : DriverRequest → String
  | .isAvailable _ _ => "is_available"
  | .freeSpace _ => "free_space"
  | .totalSpace _ => "total_space"
  | .readLocation _ _ => "get_location"
  | .writeLocation _ _ => "put_location"
  | .writeDone _ _ _ => "put_done"
  | .cancelWrite _ _ => "cancel_write"
  | .remove _ _ _ => "remove"

end DriverRequest

abbrev Contract.driver : Contract :=
  ⟨.driver, DriverRequest, DriverRequest.Answer, DriverRequest.operation⟩

end Stowage
