import Stowage.Acl.Basic
import Stowage.Attributes
import Stowage.Permission

/-!
Entries of the namespace, addressed by inode number, with their status record.
-/
namespace Stowage

/-- The status record of an entry, without the times of access, of modification and of change: the
program sets and shows them, and nothing that it does depends on them. -/
structure Stat where
  ino : Nat := 0
  mode : Mode := 0
  nlink : Nat := 0
  uid : UInt32 := 0
  gid : UInt32 := 0
  size : Nat := 0
  deriving DecidableEq, Repr, Inhabited

namespace Stat

def isDirectory (stat : Stat) : Bool :=
  Mode.isDirectory stat.mode

def isRegular (stat : Stat) : Bool :=
  Mode.isRegular stat.mode

def ownership (stat : Stat) : Ownership :=
  ⟨stat.uid, stat.gid, stat.mode⟩

end Stat

/-- Whether an entry's data is at hand. -/
inductive FileStatus where
  | online
  | migrated
  deriving DecidableEq, Repr, Inhabited

/-- An entry: its status record and what the namespace knows around it. -/
structure Entry where
  stat : Stat := {}
  parent : Nat := 0
  name : String := ""
  guid : String := ""
  status : FileStatus := .online
  checksumType : String := ""
  checksumValue : String := ""
  acl : Acl := ∅
  attrs : Attributes := ∅
  deriving Repr, Inhabited

/-- Whether an identity may access the entry. -/
def Entry.permits (entry : Entry) (ctx : SecurityContext) (requested : Mode) : Bool :=
  Permission.permits ctx entry.acl entry.stat.ownership requested

end Stowage
