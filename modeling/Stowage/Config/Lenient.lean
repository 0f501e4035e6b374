import Stowage.Manager.Basic

/-!
Options for nobody in particular: one that no plugin knows is passed over.
-/
namespace Stowage.Manager

/-- Takes an option if anyone knows it. -/
def configureLenient (key value : String) : Action Manager Unit := do
  match ← Action.attempt (configure key value) with
  | .ok () => return ()
  | .error e => if e.kind ≠ .unknownOption then throw e

end Stowage.Manager
