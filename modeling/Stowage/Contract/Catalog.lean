import Stowage.Contract.Basic
import Stowage.Entry
import Stowage.Replica

/-!
The contract of a catalog: the namespace addressed by paths. Relative paths start at the catalog's
working directory.
-/
namespace Stowage

inductive CatalogRequest where
  | changeDir (path : String)
  | workingDir
  /-- Sets the creation mask; the answer is the previous one. -/
  | umask (mask : Mode)
  | entry (path : String)
  | stat (path : String)
  | access (path : String) (requested : Mode)
  | setMode (path : String) (mode : Mode)
  | setOwner (path : String) (uid gid : UInt32)
  | setSize (path : String) (size : Nat)
  | setAcl (path : String) (acl : Acl)
  | replicas (path : String)
  | addReplica (replica : Replica)
  | deleteReplica (replica : Replica)
  | updateReplica (replica : Replica)
  /-- Makes a regular file. -/
  | create (path : String) (mode : Mode)
  | makeDir (path : String) (mode : Mode)
  | unlink (path : String)
  | removeDir (path : String)
  /-- The entries of a directory, in order of their names. -/
  | readDir (path : String)
  deriving Repr

namespace CatalogRequest

abbrev Answer : CatalogRequest → Type
  | .workingDir => String
  | .umask _ => Mode
  | .entry _ => Entry
  | .stat _ => Stat
  | .access _ _ => Bool
  | .replicas _ => List Replica
  | .readDir _ => List Entry
  | .changeDir _ | .setMode _ _ | .setOwner _ _ _ | .setSize _ _ | .setAcl _ _ | .addReplica _
  | .deleteReplica _ | .updateReplica _ | .create _ _ | .makeDir _ _ | .unlink _
  | .removeDir _ => Unit

def operation : CatalogRequest → String
  | .changeDir _ => "change_dir"
  | .workingDir => "working_dir"
  | .umask _ => "umask"
  | .entry _ | .stat _ => "extended_stat"
  | .access _ _ => "access"
  | .setMode _ _ => "set_mode"
  | .setOwner _ _ _ => "set_owner"
  | .setSize _ _ => "set_size"
  | .setAcl _ _ => "set_acl"
  | .replicas _ => "get_replicas"
  | .addReplica _ => "add_replica"
  | .deleteReplica _ => "delete_replica"
  | .updateReplica _ => "update_replica"
  | .create _ _ => "create"
  | .makeDir _ _ => "make_dir"
  | .unlink _ => "unlink"
  | .removeDir _ => "remove_dir"
  | .readDir _ => "read_dir"

end CatalogRequest

abbrev Contract.catalog : Contract :=
  ⟨.catalog, CatalogRequest, CatalogRequest.Answer, CatalogRequest.operation⟩

/-- What a node does by itself with a request: a plain status comes from the whole entry, and
everything else is up to the node it wraps. -/
def Contract.catalog.forward {σ : Type} (inner : Contract.catalog.Handler σ) :
    Contract.catalog.Handler σ
  | .stat path => do
    let entry ← inner (.entry path)
    return entry.stat
  | r => inner r

end Stowage
