import Stowage.Attributes

/-!
Replicas: physical copies of a logical file.
-/
namespace Stowage

inductive ReplicaStatus where
  | available
  | beingPopulated
  | toBeDeleted
  deriving DecidableEq, Repr, Inhabited

structure Replica where
  id : Int := 0
  /-- The inode of the logical file. -/
  file : Nat := 0
  pool : String := ""
  server : String := ""
  /-- The physical file name, `server:path`. -/
  rfn : String := ""
  status : ReplicaStatus := .available
  attrs : Attributes := ∅
  deriving Repr, Inhabited

/-- The path in the physical file name: what follows the first colon, or all of it. -/
def Replica.physicalPath (replica : Replica) : String :=
  match Text.cut ':' replica.rfn with
  | some (_, path) => path
  | none => replica.rfn

end Stowage
