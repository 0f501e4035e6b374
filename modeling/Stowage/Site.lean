import Stowage.Manager.Composition

/-!
A site: a plugin manager with the tables of its factories, and the machine that files are on. All
stacks of a site work on the same tables.
-/
namespace Stowage

structure Site where
  manager : Manager := .initial
  host : Host := {}
  deriving Inhabited

namespace Site

def onHost {C : Contract} (h : C.Handler Host) : C.Handler Site :=
  h.zoom Site.host fun host site => { site with host }

/-- A handler on a part of the tables of a memory factory. -/
def onTables {C : Contract} {τ : Type} (id : FactoryId) (get : MemoryTables → τ)
    (set : τ → MemoryTables → MemoryTables) (h : C.Handler τ) : C.Handler Site :=
  h.zoom (fun site => get (site.manager.memory id)) fun part site =>
    { site with manager := site.manager.setMemory id (set part (site.manager.memory id)) }

/-- The handler of an innermost node over a table. -/
def tableHandler {C : Contract} (memory : FactoryId → C.Handler Site) :
    TableNode → C.Handler Site
  | .memory id => memory id
  | .plain _ => C.bare

def accountsHandler (chain : TableChain) : Contract.accounts.Handler Site :=
  chain.handler Decorator.overAccounts (tableHandler fun id =>
    onTables id (·.accounts) (fun accounts t => { t with accounts }) AccountTable.handler)

def inodeHandler (chain : TableChain) : Contract.inode.Handler Site :=
  chain.handler Decorator.overInode (tableHandler fun id =>
    onTables id (·.namespace_) (fun namespace_ t => { t with namespace_ }) Namespace.handler)

def poolsHandler (chain : TableChain) : Contract.pools.Handler Site :=
  chain.handler Decorator.overPools (tableHandler fun id =>
    onTables id (·.pools) (fun pools t => { t with pools }) PoolTable.handler)

def ioHandler (chain : Chain IoNode) : Contract.io.Handler Site :=
  chain.handler Decorator.overIo fun node => onHost node.handler

def driverHandler (driver : DriverNode) : Contract.driver.Handler Site :=
  onHost driver.handler

/-- The handler of the innermost node of a catalog; its session is the one in the state. -/
def catalogNodeHandler : CatalogNode → Contract.catalog.Handler (Browsing Site)
  | .builtIn below _ => BuiltIn.handler (below.map inodeHandler)
  | .plain _ => Contract.catalog.bare

def catalogHandler (excluded : Exclusions) (chain : Chain CatalogNode) :
    Contract.catalog.Handler (Browsing Site) :=
  chain.handler (Decorator.overCatalog excluded) catalogNodeHandler

/-- Asks a catalog. The answer comes with the catalog as it is afterwards. -/
def askCatalog (excluded : Exclusions) (chain : Chain CatalogNode) (r : CatalogRequest) :
    Action (Chain CatalogNode × Site) r.Answer :=
  Action.zoom (fun (chain, site) => ⟨chain.base.session, site⟩)
    (fun browsing (chain, _) =>
      ({ chain with base := chain.base.withSession browsing.session }, browsing.store))
    (catalogHandler excluded chain r)

/-- The replicas of a path, seen as root through a catalog that is part of no stack. -/
def looseReplicas (path : String) : Action Site (List Replica) := do
  let chain ← Action.query fun site => site.manager.createCatalog
  let (result, chain) := chain.tell CatalogNode.tell .root
  Action.ofExcept result
  fun site =>
    match askCatalog {} chain (.replicas path) (chain, site) with
    | .ok replicas (_, site) => .ok replicas site
    | .error e (_, site) => .error e site

end Site
end Stowage
