import Stowage.Contract.Accounts
import Stowage.Contract.Inode
import Stowage.Stack.Board
import Stowage.Stack.Profiler

/-!
Chains: an innermost node and the decorators around it. A decorator passes on every request that
it has no answer of its own to; the librarian alone changes an answer, hiding excluded replicas.
Two messages travel down a chain from the outermost node: a new identity, and the stack that the
chain is part of. A node can refuse either.
-/
namespace Stowage

/-- What comes of telling something an identity: whether it was accepted, and what was told as it
is afterwards. -/
abbrev Told (α : Type) := Except Error Unit × α

def Told.map {α β : Type} (f : α → β) (told : Told α) : Told β :=
  (told.1, f told.2)

/-- Tells all of a list, in order, up to the first that refuses. -/
def tellAll {α : Type} (tell : α → Told α) : List α → Told (List α)
  | [] => (.ok (), [])
  | a :: rest =>
    match tell a with
    | (.error e, a) => (.error e, a :: rest)
    | (.ok (), a) => (tellAll tell rest).map (a :: ·)

/-- A place where an identity is kept. -/
structure Seat where
  /-- Whether the place accepts an identity. -/
  adopt : SecurityContext → Except Error Unit := fun _ => .ok ()
  /-- The identity that it accepted last. -/
  security : Option SecurityContext := none

/-- Tells the place an identity, which it keeps if it accepts it. -/
def Seat.tell (ctx : SecurityContext) (seat : Seat) : Told Seat :=
  match seat.adopt ctx with
  | .error e => (.error e, seat)
  | .ok () => (.ok (), { seat with security := some ctx })

/-- A node brought by a plugin, which answers no request itself. -/
structure PlainNode extends Seat where
  implId : String
  /-- What the node leaves on the board of its stack, if it accepts to be part of one. -/
  attach : Board → Except Error Board := .ok

namespace PlainNode

/-- The node as a factory makes it, before it was told any identity. -/
def untold (node : PlainNode) : PlainNode :=
  { node with security := none }

def tell (ctx : SecurityContext) (node : PlainNode) : Told PlainNode :=
  (node.toSeat.tell ctx).map fun seat => { node with toSeat := seat }

end PlainNode

/-- A node that wraps another one. -/
inductive Decorator where
  | plain (node : PlainNode)
  /-- Measures the requests that go through. -/
  | profiler (slowMs : Nat)
  /-- Hides excluded replicas, once it is attached to a stack that knows which they are. -/
  | librarian (attached : Bool)

namespace Decorator

/-- The name of the node in a chain of the given contract. -/
def implId (kind : ContractKind) : Decorator → String
  | .plain node => node.implId
  | .profiler _ => "Profiler" ++ kind.text
  | .librarian _ => "Librarian" ++ kind.text

def tell (ctx : SecurityContext) : Decorator → Told Decorator
  | .plain node => (node.tell ctx).map .plain
  | .profiler slowMs => (.ok (), .profiler slowMs)
  | .librarian attached => (.ok (), .librarian attached)

def attach (board : Board) : Decorator → Except Error (Decorator × Board)
  | .plain node => do return (.plain node, ← node.attach board)
  | .profiler slowMs => .ok (.profiler slowMs, board)
  | .librarian _ => .ok (.librarian true, board)

end Decorator

/-- Decorators, the outermost first, around an innermost node. -/
structure Chain (τ : Type) where
  decorators : List Decorator
  base : τ

namespace Chain

variable {τ : Type}

/-- A chain of one node. -/
def single (base : τ) : Chain τ :=
  ⟨[], base⟩

/-- The chain with one more node around it. -/
def wrap (decorator : Decorator) (chain : Chain τ) : Chain τ :=
  { chain with decorators := decorator :: chain.decorators }

/-- The names of the nodes, the outermost first. -/
def implIds (kind : ContractKind) (baseId : τ → String) (chain : Chain τ) : List String :=
  chain.decorators.map (·.implId kind) ++ [baseId chain.base]

/-- The name of the outermost node. -/
def implId (kind : ContractKind) (baseId : τ → String) (chain : Chain τ) : String :=
  match chain.decorators with
  | [] => baseId chain.base
  | outermost :: _ => outermost.implId kind

/-- Tells all nodes of a chain an identity, from the outermost in. A node that refuses it keeps
it from those further in. -/
def tell (tellBase : SecurityContext → τ → Told τ) (ctx : SecurityContext) (chain : Chain τ) :
    Told (Chain τ) :=
  match tellAll (Decorator.tell ctx) chain.decorators with
  | (.error e, decorators) => (.error e, { chain with decorators })
  | (.ok (), decorators) => (tellBase ctx chain.base).map (⟨decorators, ·⟩)

/-- Attaches the decorators, the outermost first. -/
def attachDecorators (board : Board) : List Decorator → Except Error (List Decorator × Board)
  | [] => .ok ([], board)
  | d :: rest => do
    let (d, board) ← d.attach board
    let (rest, board) ← attachDecorators board rest
    return (d :: rest, board)

/-- The handler of a chain: each decorator in turn around the handler of the innermost node. -/
def handler {C : Contract} {σ : Type} (decorate : Decorator → C.Handler σ → C.Handler σ)
    (base : τ → C.Handler σ) (chain : Chain τ) : C.Handler σ :=
  chain.decorators.foldr decorate (base chain.base)

end Chain

/-- A decorator over a database of users. There is none with answers of its own. -/
def Decorator.overAccounts {σ : Type} (_ : Decorator) (inner : Contract.accounts.Handler σ) :
    Contract.accounts.Handler σ :=
  inner

/-- A decorator over a namespace addressed by inode numbers. There is none with answers of its own. -/
def Decorator.overInode {σ : Type} (_ : Decorator) (inner : Contract.inode.Handler σ) :
    Contract.inode.Handler σ :=
  Contract.inode.forward inner

/-- A decorator over a pool manager. -/
def Decorator.overPools {σ : Type} (d : Decorator) (inner : Contract.pools.Handler σ) :
    Contract.pools.Handler σ :=
  match d with
  | .profiler _ => Profiler.pools inner
  | _ => inner

theorem Decorator.overPools_eq {σ : Type} (d : Decorator) (inner : Contract.pools.Handler σ) :
    d.overPools inner = inner := by
  cases d with
  | profiler slowMs => exact Profiler.pools_eq inner
  | plain | librarian => rfl

/-- A decorator over an IO driver. -/
def Decorator.overIo {σ : Type} (d : Decorator) (inner : Contract.io.Handler σ) :
    Contract.io.Handler σ :=
  match d with
  | .profiler slowMs => Profiler.io slowMs inner
  | _ => inner

/-- The replicas that are not excluded. -/
def Exclusions.hide (x : Exclusions) (replicas : List Replica) : List Replica :=
  replicas.filter fun r => !x.contains r.id

/-- The answers of a librarian: those of the node it wraps, less the excluded replicas. -/
def Exclusions.hideIn {σ : Type} (excluded : Exclusions) (inner : Contract.catalog.Handler σ) :
    Contract.catalog.Handler σ
  | .replicas path => do
    let found ← inner (.replicas path)
    return excluded.hide found
  | r => Contract.catalog.forward inner r

/-- A decorator over a catalog of a stack with these exclusions. -/
def Decorator.overCatalog {σ : Type} (excluded : Exclusions) (d : Decorator)
    (inner : Contract.catalog.Handler σ) : Contract.catalog.Handler σ :=
  match d with
  | .librarian true => excluded.hideIn inner
  | .profiler _ => Profiler.catalog inner
  | _ => Contract.catalog.forward inner

/-- All but a librarian that is part of a stack do what a node does by itself. -/
theorem Decorator.overCatalog_eq {σ : Type} (excluded : Exclusions) {d : Decorator}
    (shows : d ≠ .librarian true) (inner : Contract.catalog.Handler σ) :
    d.overCatalog excluded inner = Contract.catalog.forward inner := by
  cases d with
  | plain node => rfl
  | profiler slowMs => exact Profiler.catalog_eq inner
  | librarian attached =>
    cases attached with
    | false => rfl
    | true => exact absurd rfl shows

end Stowage
