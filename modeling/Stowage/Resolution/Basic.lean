import Stowage.Stack.Basic

/-!
What the resolution of reads and writes shares: paths as the catalog sees them, the site's
placement policy, and the space that pools have.
-/
namespace Stowage.Resolution

/-- The normal form of a path, from the catalog's working directory if it has one. -/
def absolute (path : String) : StackM String := do
  let _ ← StackM.need .catalog Stack.catalog
  match ← Action.attempt (StackM.catalog .workingDir) with
  | .ok cwd => return Path.absolute cwd path
  | .error _ => return Path.absolute "/" path

/-- Lets the policy of the site choose among candidates with this free space. -/
def select (free : List Nat) : StackM (Option Nat) := fun s =>
  let (chosen, placement) := s.site.manager.placement.select free
  .ok chosen { s with site := { s.site with manager := { s.site.manager with placement } } }

/-- What an action gives, or nothing if it fails in this way. -/
def orNone {α : Type} (kind : ErrorKind) (act : StackM α) : StackM (Option α) := do
  match ← Action.attempt act with
  | .ok a => return some a
  | .error e => if e.kind = kind then return none else throw e

/-- The free space of a pool that its driver serves in the requested mode. There is none if no
driver knows the pool's type, if the driver does not serve it, or if it cannot tell the space. -/
def freeSpace? (pool : Pool) (forWrite : Bool) : StackM (Option Nat) := do
  let some driver ← orNone .unknownPoolType (StackM.driver pool.type) | return none
  let available : Bool ← StackM.askDriver driver (.isAvailable pool forWrite)
  if ¬ available then return none
  match ← Action.attempt (StackM.askDriver driver (.freeSpace pool)) with
  | .ok free => return some free
  | .error _ => return none

end Stowage.Resolution
