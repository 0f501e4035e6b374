import Stowage.Contract.Pools

/-!
The table of pools in memory, and how an operator writes pools and filesystems.
-/
namespace Stowage

/-- Pools under their names. -/
abbrev PoolTable := Table String Pool

namespace PoolTable

/-- The pools that satisfy the filter, in order of their names. One pool whose filesystems cannot
be read fails the listing. -/
def list (t : PoolTable) (filter : PoolAvailability) : Except Error (List Pool) := do
  let admitted ← t.values.filterMapM fun pool => do
    return if ← filter.admits pool then some pool else none
  return admitted

def pool (t : PoolTable) (name : String) : Except Error Pool :=
  match t.get? name with
  | some pool => .ok pool
  | none => .error (.noSuchPool name)

def create (t : PoolTable) (pool : Pool) : Except Error PoolTable :=
  if t.contains pool.name then .error (.alreadyExists pool.name)
  else .ok (t.insert pool.name pool)

def update (t : PoolTable) (pool : Pool) : Except Error PoolTable :=
  if t.contains pool.name then .ok (t.insert pool.name pool)
  else .error (.noSuchPool pool.name)

def delete (t : PoolTable) (pool : Pool) : Except Error PoolTable :=
  if t.contains pool.name then .ok (t.erase pool.name)
  else .error (.noSuchPool pool.name)

private def change (f : PoolTable → Except Error PoolTable) : Action PoolTable Unit :=
  Action.update fun t => do return ((), ← f t)

/-- The table as an implementation of its contract. -/
def handler : Contract.pools.Handler PoolTable
  | .list filter => Action.query (PoolTable.list · filter)
  | .get name => Action.query (PoolTable.pool · name)
  | .create pool => change (PoolTable.create · pool)
  | .update pool => change (PoolTable.update · pool)
  | .delete pool => change (PoolTable.delete · pool)

end PoolTable

/-- Reads `name:type`. -/
def Pool.parse (value : String) : Except Error Pool :=
  let shape : Error := .malformed ("expected name:type, got '" ++ value ++ "'")
  match Text.cut ':' value with
  | none => .error shape
  | some (name, type) =>
    let name := Text.trim name
    let type := Text.trim type
    if name = "" ∨ type = "" then .error shape else .ok { name, type }

/-- Reads `pool:server:path[:weight[:free[:status]]]` into the name of the pool and the
filesystem. All of a new filesystem is free. -/
def Filesystem.parse (value : String) : Except Error (String × Filesystem) :=
  let shape : Error :=
    .malformed ("expected pool:server:path[:weight[:free[:status]]], got '" ++ value ++ "'")
  match (Text.parts ':' value).map Text.trim with
  | pool :: server :: path :: options =>
    if pool = "" ∨ server = "" ∨ path = "" ∨ options.length > 3 then .error shape
    else do
      let some weight := (options[0]?.map Text.readU32?).getD (some 1) | throw shape
      let some free := (options[1]?.map Text.readU64?).getD (some 0) | throw shape
      let status ← match options[2]? with
        | some word => FilesystemStatus.parse word
        | none => .ok .active
      let free := UInt64.ofNat free
      return (pool, { server, path, weight, free, total := free, status })
  | _ => .error shape

/-- Adds a filesystem at the end of a pool, in the place of one with its server and path. -/
def Pool.addFilesystem (pool : Pool) (fs : Filesystem) : Except Error Pool := do
  let others := (← pool.filesystems).filter fun old =>
    ¬ (old.server = fs.server ∧ old.path = fs.path)
  return pool.withFilesystems (others ++ [fs])

/-- Adds a filesystem to the pool of that name. -/
def PoolTable.addFilesystem (t : PoolTable) (name : String) (fs : Filesystem) :
    Except Error PoolTable := do
  return t.insert name (← (← t.pool name).addFilesystem fs)

end Stowage
