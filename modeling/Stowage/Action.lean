import Stowage.Error

/-!
Actions: computations that read and change a state and may fail. What an action changed before it
failed stays changed. Main statements: a query never changes the state, an update that fails changes
nothing, and a sequence succeeds exactly if its parts do, each in the state that the last one left.
-/
namespace Stowage

/-- A computation over the state `σ` that gives an `α` or fails. -/
abbrev Action (σ α : Type) := EStateM Error σ α

namespace Action

variable {σ τ α : Type}

/-- A result that needs no state. -/
def ofExcept : Except Error α → Action σ α
  | .ok a => fun s => .ok a s
  | .error e => fun s => .error e s

instance : MonadLift (Except Error) (EStateM Error σ) := ⟨ofExcept⟩

/-- Runs an action and gives its outcome as a value. -/
def attempt (act : Action σ α) : Action σ (Except Error α) := fun s =>
  match act s with
  | .ok a t => .ok (.ok a) t
  | .error e t => .ok (.error e) t

/-- Runs an action on a part of the state. -/
def zoom (get : σ → τ) (set : τ → σ → σ) (act : Action τ α) : Action σ α := fun s =>
  match act (get s) with
  | .ok a t => .ok a (set t s)
  | .error e t => .error e (set t s)

/-- An action that only looks at the state. -/
def query (f : σ → Except Error α) : Action σ α := fun s =>
  ofExcept (f s) s

/-- An action that either takes the state to a new one or fails and leaves it alone. -/
def update (f : σ → Except Error (α × σ)) : Action σ α := fun s =>
  match f s with
  | .ok (a, t) => .ok a t
  | .error e => .error e s

/-- The action with a given outcome and state left. -/
def ofOutcome (f : σ → Except Error α × σ) : Action σ α := fun s =>
  match f s with
  | (.ok a, t) => .ok a t
  | (.error e, t) => .error e t

/-- The outcome of an action and the state it leaves. -/
def outcome (act : Action σ α) (s : σ) : Except Error α × σ :=
  match act s with
  | .ok a t => (.ok a, t)
  | .error e t => (.error e, t)

@[simp] theorem ofExcept_ok (a : α) (s : σ) : ofExcept (.ok a) s = .ok a s := rfl

@[simp] theorem ofExcept_error (e : Error) (s : σ) :
    (ofExcept (.error e) : Action σ α) s = .error e s := rfl

/-- A query leaves the state alone, whether it succeeds or not. -/
theorem outcome_query (f : σ → Except Error α) (s : σ) : (query f).outcome s = (f s, s) := by
  unfold outcome query
  cases f s <;> rfl

/-- An update that fails leaves the state alone. -/
theorem update_eq_error {f : σ → Except Error (α × σ)} {s t : σ} {e : Error}
    (failed : update f s = .error e t) : f s = .error e ∧ t = s := by
  unfold update at failed
  split at failed
  · cases failed
  · rename_i fault same
    cases failed
    exact ⟨same, rfl⟩

theorem update_eq_ok {f : σ → Except Error (α × σ)} {s t : σ} {a : α}
    (done : update f s = .ok a t) : f s = .ok (a, t) := by
  unfold update at done
  split at done
  · rename_i same
    cases done
    exact same
  · cases done

/-- A sequence of two actions succeeds exactly if both do. -/
theorem bind_eq_ok_iff {β : Type} {act : Action σ α} {next : α → Action σ β} {s t : σ} {b : β} :
    (act >>= next) s = .ok b t ↔ ∃ a u, act s = .ok a u ∧ next a u = .ok b t := by
  constructor
  · intro done
    change EStateM.bind act next s = .ok b t at done
    unfold EStateM.bind at done
    split at done
    · rename_i a u first
      exact ⟨a, u, first, done⟩
    · cases done
  · rintro ⟨a, u, first, second⟩
    change EStateM.bind act next s = .ok b t
    unfold EStateM.bind
    rw [first]
    exact second

/-- An outcome taken as a value never fails. -/
theorem attempt_ne_error (act : Action σ α) (s t : σ) (e : Error) :
    attempt act s ≠ .error e t := by
  unfold attempt
  split <;> simp

end Action
end Stowage
