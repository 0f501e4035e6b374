import Stowage.Attributes
import Stowage.Pool.Filesystem

/-!
Storage pools and the filters of pool listings.
-/
namespace Stowage

/-- A storage pool. Its type names the driver that serves it. -/
structure Pool where
  name : String := ""
  type : String := ""
  attrs : Attributes := ∅
  deriving Repr, Inhabited

namespace Pool

/-- The attribute that holds the filesystems. -/
def filesystemsKey : String := "filesystems"

/-- The filesystems among the attributes; a pool without the attribute has none. The text of the
failure stops in front of the colon after which the program quotes what the reader of JSON has against
the value. -/
def filesystems (pool : Pool) : Except Error (List Filesystem) :=
  match pool.attrs.get? filesystemsKey with
  | none => .ok []
  | some value =>
    match Filesystem.listOfJson? value with
    | some filesystems => .ok filesystems
    | none => .error (.invalidArgument ("pool " ++ pool.name ++ " has bad filesystems"))

def withFilesystems (pool : Pool) (filesystems : List Filesystem) : Pool :=
  { pool with attrs := pool.attrs.insert filesystemsKey (Filesystem.listToJson filesystems) }

/-- Filesystems that were stored are read back. -/
theorem filesystems_withFilesystems (pool : Pool) (filesystems : List Filesystem) :
    (pool.withFilesystems filesystems).filesystems = .ok filesystems := by
  unfold Pool.filesystems withFilesystems
  simp only [Table.get?_insert, if_true, Filesystem.listOfJson?_listToJson]

/-- Storing filesystems is nothing to the other attributes. -/
theorem attrs_withFilesystems (pool : Pool) (filesystems : List Filesystem) {key : String}
    (other : key ≠ filesystemsKey) :
    (pool.withFilesystems filesystems).attrs.get? key = pool.attrs.get? key := by
  unfold withFilesystems
  rw [Table.get?_insert, if_neg other]

/-- Whether a filesystem of the pool serves the requested mode. -/
def hasUsableFilesystem (pool : Pool) (forWrite : Bool) : Except Error Bool := do
  return (← pool.filesystems).any (·.accepts forWrite)

end Pool

/-- Which pools a listing asks for. -/
inductive PoolAvailability where
  | any
  | forRead
  | forWrite
  | forBoth
  | unavailable
  deriving DecidableEq, Repr, Inhabited

/-- Whether the pool's own filesystems satisfy the filter. -/
def PoolAvailability.admits (filter : PoolAvailability) (pool : Pool) : Except Error Bool :=
  match filter with
  | .any => .ok true
  | .forRead => pool.hasUsableFilesystem false
  | .forWrite => pool.hasUsableFilesystem true
  | .forBoth => do
    let forRead ← pool.hasUsableFilesystem false
    let forWrite ← pool.hasUsableFilesystem true
    return forRead && forWrite
  | .unavailable => do return !(← pool.hasUsableFilesystem false)

end Stowage
