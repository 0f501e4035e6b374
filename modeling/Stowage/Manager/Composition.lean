import Stowage.Manager.Basic

/-!
How chains are composed. The last factory that does not decorate makes the innermost node, and
every factory registered after it wraps the chain so far, so the last one is outermost.
-/
namespace Stowage

/-- The last element that does not decorate and those after it. -/
def splitAtBase {φ : Type} (decorates : φ → Bool) (factories : List φ) : Option (φ × List φ) :=
  match factories.reverse.span decorates with
  | (_, []) => none
  | (wrappers, base :: _) => some (base, wrappers.reverse)

namespace Manager

/-- Wraps a chain in nodes of the factories, in order. -/
def wrapAll {τ : Type} (kind : ContractKind) (chain : Chain τ) :
    List (FactoryId × Factory) → Except Error (Chain τ)
  | [] => .ok chain
  | (_, factory) :: rest => do wrapAll kind (chain.wrap (← factory.decorator kind)) rest

/-- Composes the chain of a contract; `base` makes the innermost node. -/
def compose {τ : Type} (m : Manager) (kind : ContractKind)
    (base : FactoryId → Factory → Except Error τ) : Except Error (Chain τ) :=
  match splitAtBase (fun (_, factory) => factory.decorates kind) (m.registered kind) with
  | none => .error (.noFactory kind)
  | some ((id, factory), wrappers) => do
    wrapAll kind (Chain.single (← base id factory)) wrappers

def createTable (m : Manager) (kind : ContractKind) : Except Error TableChain :=
  m.compose kind fun id factory => factory.tableNode kind id

def createAccounts (m : Manager) : Except Error TableChain :=
  m.createTable .accounts

def createInode (m : Manager) : Except Error TableChain :=
  m.createTable .inode

def createPools (m : Manager) : Except Error TableChain :=
  m.createTable .pools

def createIo (m : Manager) : Except Error (Chain IoNode) :=
  m.compose .io fun _ factory => factory.ioNode

/-- What can be made, if it can: a contract that nothing provides is no failure. -/
def orMissing {α : Type} : Except Error α → Except Error (Option α)
  | .ok a => .ok (some a)
  | .error e => if e.kind = .noFactory then .ok none else .error e

/-- Makes the innermost node of a catalog. The built-in one gets a chain of its own. -/
def catalogNode (m : Manager) : Factory → Except Error CatalogNode
  | .builtInCatalog => do return .builtIn (← orMissing m.createInode) {}
  | .custom factory => do return .plain (← factory.node .catalog).untold
  | _ => .error (.noFactory .catalog)

def createCatalog (m : Manager) : Except Error (Chain CatalogNode) :=
  m.compose .catalog fun _ factory => m.catalogNode factory

/-- Makes a driver for a pool type; the factory registered last wins. -/
def createDriver (m : Manager) (type : String) : Except Error DriverNode :=
  match (m.registered .driver).reverse.find? fun (_, factory) =>
      factory.poolType? = some type with
  | some (_, factory) => factory.driverNode
  | none => .error (.unknownPoolType type)

end Manager
end Stowage
