import Stowage.Action

/-!
Contracts. A contract is a set of requests, each with the type of its answer. A handler answers
every request of a contract by an action; what implements a contract is a handler, and what
decorates an implementation turns one handler into another.
-/
namespace Stowage

structure Contract where
  kind : ContractKind
  Request : Type
  /-- The type of the answer to a request. -/
  Answer : Request → Type
  /-- The name of the operation that a request comes down to. -/
  operation : Request → String

namespace Contract

/-- An implementation of the contract over the state `σ`. -/
abbrev Handler (C : Contract) (σ : Type) : Type :=
  (r : C.Request) → Action σ (C.Answer r)

/-- The failure of a request that nothing answers. -/
def unanswered (C : Contract) (r : C.Request) : Error :=
  .notImplemented (C.kind.text ++ "::" ++ C.operation r)

/-- The handler that answers no request. -/
def bare (C : Contract) {σ : Type} : C.Handler σ := fun r => throw (C.unanswered r)

/-- A handler on a part of the state. -/
def Handler.zoom {C : Contract} {σ τ : Type} (h : C.Handler τ) (get : σ → τ) (set : τ → σ → σ) :
    C.Handler σ :=
  fun r => Action.zoom get set (h r)

end Contract
end Stowage
