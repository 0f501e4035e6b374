import Stowage.Resolution.Basic

/-!
Where to read a file. Of its replicas those count that are available, not excluded and in a pool
that serves reads; the policy chooses among them by the free space of their pools, and the pool's
driver makes the location. A caller that cannot use a location excludes its replica and asks
again.
-/
namespace Stowage.Resolution

/-- A replica that can be read, with its pool. -/
structure ReadCandidate where
  replica : Replica
  pool : Pool
  free : Nat

/-- The replica with its pool, if the pool is known and serves reads. -/
def readCandidate (replica : Replica) : StackM (Option ReadCandidate) := do
  let some pool ← orNone .noSuchPool (StackM.pools (.get replica.pool)) | return none
  let some free ← freeSpace? pool false | return none
  return some { replica, pool, free }

/-- The candidates among the replicas, in order. -/
def readCandidates : List Replica → StackM (List ReadCandidate)
  | [] => return []
  | replica :: rest => do
    let excluded := (← get).stack.excluded.contains replica.id
    if excluded ∨ replica.status ≠ .available then readCandidates rest
    else
      let candidate ← readCandidate replica
      return candidate.toList ++ (← readCandidates rest)

/-- The location marked with what it was resolved from. -/
def tagRead (location : Location) (path : String) (candidate : ReadCandidate) : Location :=
  ((location.tag Chunk.poolKey (.str candidate.pool.name)).tag
    Chunk.replicaKey (.int candidate.replica.id)).tag Chunk.nameKey (.str path)

/-- The location to read `path` from. -/
def whereToRead (path : String) : StackM Location := do
  let path ← absolute path
  let replicas ← StackM.catalog (.replicas path)
  if replicas.isEmpty then
    if (← get).stack.excluded.isEmpty then
      throw (.noSuchReplica (path ++ " has no replicas"))
    throw (.noReplicaAvailable ("every replica of " ++ path ++ " has been excluded"))
  let candidates ← readCandidates replicas
  let chosen ← select (candidates.map (·.free))
  let some candidate := chosen.bind (candidates[·]?)
    | throw (.noReplicaAvailable ("no replica of " ++ path ++ " is available"))
  let driver ← StackM.driver candidate.pool.type
  let location ← StackM.askDriver driver (.readLocation candidate.pool candidate.replica)
  return tagRead location path candidate

/-- Skips a replica for the rest of the operation. -/
def exclude (id : Int) : StackM Unit :=
  StackM.onStack (modify (·.exclude id))

variable {α τ : Type}

/-- Tries locations of `path`, at most as many as there are rounds. `attempt` may keep a state of
its own from one try to the next. -/
def readRounds (path : String) (attempt : Location → τ → Except Error α × τ) :
    Nat → τ → StackM (Except Error α × τ)
  | 0, t => return (.error (.noReplicaAvailable ("no replica of " ++ path ++ " is available")), t)
  | rounds + 1, t => do
    match ← Action.attempt (whereToRead path) with
    | .error e => return (.error e, t)
    | .ok location =>
      match attempt location t with
      | (.ok a, t) => return (.ok a, t)
      | (.error e, t) =>
        match location.replicaId? with
        | none => return (.error e, t)
        | some id =>
          exclude id
          readRounds path attempt rounds t

/-- How many replicas the catalog shows, none if it refuses to. -/
def replicaCount (path : String) : StackM Nat := do
  match ← Action.attempt (do StackM.catalog (.replicas (← absolute path))) with
  | .ok replicas => return replicas.length
  | .error _ => return 0

/-- Tries locations of `path` until one can be used. A failed try excludes its replica. Every round
but the last excludes one replica more, so one round more than there are replicas is enough. -/
def readWithRetries (path : String) (attempt : Location → τ → Except Error α × τ) (t : τ) :
    StackM (Except Error α × τ) := do
  StackM.onStack (modify Stack.beginOperation)
  let rounds ← replicaCount path
  readRounds path attempt (rounds + 1) t

end Stowage.Resolution
