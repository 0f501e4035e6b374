import Stowage.Contract.Basic
import Stowage.Entry
import Stowage.Replica

/-!
The contract of a namespace addressed by inode numbers. Nothing is checked for permissions at this
level. The root is the child `/` of the parent number 0, which is no entry.
-/
namespace Stowage

inductive InodeRequest where
  /-- Makes an entry from parent, name, owner, mode and list of a template. -/
  | create (template : Entry)
  | entry (ino : Nat)
  | child (parent : Nat) (name : String)
  | stat (ino : Nat)
  | statChild (parent : Nat) (name : String)
  /-- Removes an entry together with its replicas. -/
  | unlink (ino : Nat)
  | readDir (ino : Nat)
  | replicas (ino : Nat)
  | replica (id : Int)
  /-- Registers a replica; one without an id is given one. -/
  | addReplica (replica : Replica)
  | deleteReplica (replica : Replica)
  | updateReplica (replica : Replica)
  /-- Sets owner, permission bits and list together; the type stays. -/
  | setMode (ino : Nat) (uid gid : UInt32) (mode : Mode) (acl : Acl)
  | setSize (ino : Nat) (size : Nat)
  deriving Repr

namespace InodeRequest

abbrev Answer : InodeRequest → Type
  | .create _ | .entry _ | .child _ _ => Entry
  | .stat _ | .statChild _ _ => Stat
  | .readDir _ => List Entry
  | .replicas _ => List Replica
  | .replica _ => Replica
  | .unlink _ | .addReplica _ | .deleteReplica _ | .updateReplica _ | .setMode .. | .setSize _ _ =>
    Unit

def operation : InodeRequest → String
  | .create _ => "create"
  | .entry _ | .stat _ => "extended_stat"
  | .child _ _ | .statChild _ _ => "extended_stat_child"
  | .unlink _ => "unlink"
  | .readDir _ => "read_dir"
  | .replicas _ => "get_replicas"
  | .replica _ => "get_replica"
  | .addReplica _ => "add_replica"
  | .deleteReplica _ => "delete_replica"
  | .updateReplica _ => "update_replica"
  | .setMode .. => "set_mode"
  | .setSize _ _ => "set_size"

end InodeRequest

abbrev Contract.inode : Contract :=
  ⟨.inode, InodeRequest, InodeRequest.Answer, InodeRequest.operation⟩

/-- What a node does by itself with a request: a plain status comes from the whole entry, and
everything else is up to the node it wraps. -/
def Contract.inode.forward {σ : Type} (inner : Contract.inode.Handler σ) :
    Contract.inode.Handler σ
  | .stat ino => do
    let entry ← inner (.entry ino)
    return entry.stat
  | .statChild parent name => do
    let entry ← inner (.child parent name)
    return entry.stat
  | r => inner r

end Stowage
