import Stowage.Catalog.BuiltIn
import Stowage.Disk.Driver
import Stowage.Disk.LocalFiles
import Stowage.Stack.Chain

/-!
Innermost nodes. Some of them keep the identity they were told; the tables in memory belong to the
factory that made the node, which is known by its number.
-/
namespace Stowage

/-- The number of a factory. -/
abbrev FactoryId := Nat

/-- The innermost node of a chain over a table in memory: accounts, namespace or pools. -/
inductive TableNode where
  | memory (factory : FactoryId)
  | plain (node : PlainNode)

namespace TableNode

def implId (kind : ContractKind) : TableNode → String
  | .memory _ => "Memory" ++ kind.text
  | .plain node => node.implId

def tell (ctx : SecurityContext) : TableNode → Told TableNode
  | .memory factory => (.ok (), .memory factory)
  | .plain node => (node.tell ctx).map .plain

def attach (board : Board) : TableNode → Except Error Board
  | .memory _ => .ok board
  | .plain node => node.attach board

end TableNode

/-- A chain over a table in memory. -/
abbrev TableChain := Chain TableNode

namespace TableChain

/-- Attaches every node. -/
def attachAll (chain : TableChain) (board : Board) : Except Error (TableChain × Board) := do
  let (decorators, board) ← Chain.attachDecorators board chain.decorators
  return ({ chain with decorators }, ← chain.base.attach board)

end TableChain

/-- The innermost node of a catalog. -/
inductive CatalogNode where
  /-- The built-in catalog over a chain of its own, if there is a namespace to look at. -/
  | builtIn (below : Option TableChain) (session : CatalogSession)
  | plain (node : PlainNode)

namespace CatalogNode

def implId : CatalogNode → String
  | .builtIn .. => "BuiltInCatalog"
  | .plain node => node.implId

/-- What the node remembers between requests. -/
def session : CatalogNode → CatalogSession
  | .builtIn _ session => session
  | .plain _ => {}

def withSession (session : CatalogSession) : CatalogNode → CatalogNode
  | .builtIn below _ => .builtIn below session
  | .plain node => .plain node

/-- Tells the node an identity. The built-in catalog takes it before it asks the chain below. -/
def tell (ctx : SecurityContext) : CatalogNode → Told CatalogNode
  | .builtIn (some chain) session =>
    (chain.tell TableNode.tell ctx).map fun chain =>
      .builtIn (some chain) { session with security := some ctx }
  | .builtIn none session => (.ok (), .builtIn none { session with security := some ctx })
  | .plain node => (node.tell ctx).map .plain

def attach (board : Board) : CatalogNode → Except Error (CatalogNode × Board)
  | .builtIn (some chain) session => do
    let (chain, board) ← chain.attachAll board
    return (.builtIn (some chain) session, board)
  | .builtIn none session => .ok (.builtIn none session, board)
  | .plain node => do return (.plain node, ← node.attach board)

end CatalogNode

/-- The innermost node of an IO chain. -/
inductive IoNode where
  | localFiles (node : LocalFiles)
  | plain (node : PlainNode)

namespace IoNode

def implId : IoNode → String
  | .localFiles _ => "LocalIODriver"
  | .plain node => node.implId

def tell (ctx : SecurityContext) : IoNode → Told IoNode
  | .localFiles node => (.ok (), .localFiles { node with security := some ctx })
  | .plain node => (node.tell ctx).map .plain

def attach (board : Board) : IoNode → Except Error (IoNode × Board)
  | .localFiles node => .ok (.localFiles node, board)
  | .plain node => do return (.plain node, ← node.attach board)

def handler : IoNode → Contract.io.Handler Host
  | .localFiles node => node.handler
  | .plain _ => Contract.io.bare

end IoNode

/-- Attaches all nodes of a chain, from the outermost in. -/
def Chain.attach {τ : Type} (attachBase : Board → τ → Except Error (τ × Board)) (board : Board)
    (chain : Chain τ) : Except Error (Chain τ × Board) := do
  let (decorators, board) ← attachDecorators board chain.decorators
  let (base, board) ← attachBase board chain.base
  return (⟨decorators, base⟩, board)

/-- A pool driver brought by a plugin. -/
structure PlainDriver extends Seat where
  implId : String
  type : String
  /-- The answers to the requests that the driver knows. -/
  answer : (r : DriverRequest) → Option (Except Error r.Answer) := fun _ => none
  attach : Board → Except Error Board := .ok

namespace PlainDriver

/-- The driver as a factory makes it, before it was told any identity. -/
def untold (driver : PlainDriver) : PlainDriver :=
  { driver with security := none }

def tell (ctx : SecurityContext) (driver : PlainDriver) : Told PlainDriver :=
  (driver.toSeat.tell ctx).map fun seat => { driver with toSeat := seat }

end PlainDriver

/-- A pool driver; drivers do not form chains. -/
inductive DriverNode where
  | disk (driver : DiskDriver)
  | plain (driver : PlainDriver)

namespace DriverNode

def implId : DriverNode → String
  | .disk _ => "FsPoolDriver"
  | .plain driver => driver.implId

/-- The pool type that the driver says it serves. -/
def type : DriverNode → String
  | .disk _ => DiskDriver.poolType
  | .plain driver => driver.type

def tell (ctx : SecurityContext) : DriverNode → Told DriverNode
  | .disk driver => (.ok (), .disk { driver with security := some ctx })
  | .plain driver => (driver.tell ctx).map .plain

def attach (board : Board) : DriverNode → Except Error Board
  | .disk _ => .ok board
  | .plain driver => driver.attach board

def handler : DriverNode → Contract.driver.Handler Host
  | .disk driver => driver.handler
  | .plain driver => fun r =>
    match driver.answer r with
    | some result => Action.ofExcept result
    | none => Contract.driver.bare r

end DriverNode
end Stowage
