import Stowage.Resolution.Basic

/-!
Where to write a file, and what follows. Pools that serve writes are asked for a location in the
order of their free space until one accepts; the entry of a new file is made only then. A finished
write registers a replica and charges the pool; a cancelled one leaves no entry behind that has no
replica.
-/
namespace Stowage.Resolution

/-- A pool that can be written to. -/
structure WriteCandidate where
  pool : Pool
  free : Nat

/-- The pools that serve writes, in order. -/
def writeCandidates : List Pool → StackM (List WriteCandidate)
  | [] => return []
  | pool :: rest => do
    let candidate := (← freeSpace? pool true).map fun free => { pool, free : WriteCandidate }
    return candidate.toList ++ (← writeCandidates rest)

/-- Whether `path` names an entry that can be written; directories are refused. -/
def entryExists (path : String) : StackM Bool := do
  match ← orNone .fileNotFound (StackM.catalog (.entry path)) with
  | none => return false
  | some entry => if entry.stat.isDirectory then throw (.isADirectory path) else return true

/-- No pool is left to ask. -/
def noPoolLeft (path : String) : Option Error → Error
  | some e => .noReplicaAvailable
      ("no pool accepted " ++ path ++ ", last refusal: " ++ e.display)
  | none => .noReplicaAvailable ("no pool is available for writing " ++ path)

/-- Asks the candidates for a location, the chosen one first, until one accepts. There are at least
as many rounds as candidates. -/
def placeWrite (path : String) (refused : Option Error) :
    Nat → List WriteCandidate → StackM (Pool × Location)
  | 0, _ => throw (noPoolLeft path refused)
  | rounds + 1, candidates => do
    let chosen ← select (candidates.map (·.free))
    match chosen with
    | none => throw (noPoolLeft path refused)
    | some i =>
      match candidates[i]? with
      | none => throw (noPoolLeft path refused)
      | some candidate =>
        let driver ← StackM.driver candidate.pool.type
        match ← Action.attempt
            (StackM.askDriver driver (.writeLocation candidate.pool path)) with
        | .ok location => return (candidate.pool, location)
        | .error e => placeWrite path (some e) rounds (candidates.eraseIdx i)

/-- The permissions that a new file is asked for with. -/
def newFileMode : Mode := 0o664

/-- Makes the entry of a new file; if that fails the location is given back. -/
def createFor (path : String) (pool : Pool) (location : Location) : StackM Unit := do
  match ← Action.attempt (StackM.catalog (.create path newFileMode)) with
  | .ok () => return ()
  | .error e =>
    let _ ← Action.attempt (do
      let driver ← StackM.driver pool.type
      StackM.askDriver driver (.cancelWrite pool location))
    throw e

/-- The location to write a new replica of `path` to. -/
def whereToWrite (path : String) : StackM Location := do
  let path ← absolute path
  let pools ← StackM.pools (.list .any)
  if pools.isEmpty then
    throw (.make .user Subcode.noSuchPool "there are no pools to write to")
  let candidates ← writeCandidates pools
  let exists_ ← entryExists path
  let (pool, location) ← placeWrite path none candidates.length candidates
  if ¬ exists_ then createFor path pool location
  return (location.tag Chunk.poolKey (.str pool.name)).tag Chunk.nameKey (.str path)

/-- The replica that was written to a chunk. -/
def writtenReplica (chunk : Chunk) (pool : Pool) (entry : Entry) : Replica where
  file := entry.stat.ino
  pool := pool.name
  server := chunk.host
  rfn := chunk.host ++ ":" ++ chunk.path
  attrs :=
    match chunk.attrs.get? Chunk.filesystemKey with
    | some filesystem => (∅ : Attributes).insert Chunk.filesystemKey filesystem
    | none => ∅

/-- Registers the replica written to a location and accounts for its size. -/
def doneWriting (location : Location) (size : Nat) : StackM Unit := do
  let chunk ← location.first
  let poolName ← chunk.attrs.str Chunk.poolKey ""
  let name ← chunk.attrs.str Chunk.nameKey ""
  if poolName = "" ∨ name = "" then
    throw (.invalidArgument "location does not come from where_to_write")
  let pool ← StackM.pools (.get poolName)
  let entry ← StackM.catalog (.entry name)
  let replica := writtenReplica chunk pool entry
  StackM.catalog (.addReplica replica)
  StackM.catalog (.setSize name size)
  let driver ← StackM.driver pool.type
  let updated ← StackM.askDriver driver (.writeDone pool replica size)
  StackM.pools (.update updated)

/-- Gives up a write. The entry goes too if the catalog shows no replica of it. -/
def cancelWrite (location : Location) : StackM Unit := do
  let chunk ← location.first
  let poolName ← chunk.attrs.str Chunk.poolKey ""
  let name ← chunk.attrs.str Chunk.nameKey ""
  let pool ← StackM.pools (.get poolName)
  let driver ← StackM.driver pool.type
  StackM.askDriver driver (.cancelWrite pool location)
  if name ≠ "" then
    let replicas ← StackM.catalog (.replicas name)
    if replicas.isEmpty then StackM.catalog (.unlink name)

/-- Deletes a replica: its data, and then its record. -/
def removeReplica (path : String) (replica : Replica) : StackM Unit := do
  let path ← absolute path
  let pool ← StackM.pools (.get replica.pool)
  let driver ← StackM.driver pool.type
  StackM.askDriver driver (.remove pool path replica)
  StackM.catalog (.deleteReplica replica)

end Stowage.Resolution
