import Stowage.Site

/-!
Stacks: one chain per contract, composed by the manager of a site, and the identity they all run
under. A stack keeps the replicas that the current operation gave up on, and makes a pool driver
when one of its type is first asked for.
-/
namespace Stowage

structure Stack where
  accounts : Option TableChain
  inode : Option TableChain
  catalog : Option (Chain CatalogNode)
  pools : Option TableChain
  io : Option (Chain IoNode)
  /-- The drivers made so far, by pool type, in the order in which they were made. -/
  drivers : List (String × DriverNode) := []
  security : Option SecurityContext := none
  excluded : Exclusions := {}
  board : Board := ∅

/-- A stack together with the site it works on. -/
structure OnSite where
  stack : Stack
  site : Site

/-- What is done with a stack. -/
abbrev StackM (α : Type) := Action OnSite α

namespace Stack

/-- Attaches what there is. -/
def attachSome {α : Type} (attach : Board → α → Except Error (α × Board)) (board : Board) :
    Option α → Except Error (Option α × Board)
  | none => .ok (none, board)
  | some a => do
    let (a, board) ← attach board a
    return (some a, board)

/-- Composes all chains that the manager has factories for, and attaches them in order. -/
def create (m : Manager) : Except Error Stack := do
  let accounts ← Manager.orMissing m.createAccounts
  let inode ← Manager.orMissing m.createInode
  let catalog ← Manager.orMissing m.createCatalog
  let pools ← Manager.orMissing m.createPools
  let io ← Manager.orMissing m.createIo
  let attachTable (board : Board) (chain : TableChain) := chain.attachAll board
  let (accounts, board) ← attachSome attachTable ∅ accounts
  let (inode, board) ← attachSome attachTable board inode
  let (catalog, board) ← attachSome (Chain.attach CatalogNode.attach) board catalog
  let (pools, board) ← attachSome attachTable board pools
  let (io, board) ← attachSome (Chain.attach IoNode.attach) board io
  return { accounts, inode, catalog, pools, io, board }

/-- The contracts that the stack has chains for, with the names of the nodes, the outermost
first. -/
def chains (s : Stack) : List (ContractKind × List String) :=
  let table (kind : ContractKind) (chain : TableChain) :=
    (kind, chain.implIds kind (TableNode.implId kind))
  (s.accounts.map (table .accounts)).toList ++
    (s.inode.map (table .inode)).toList ++
    (s.catalog.map fun c => (ContractKind.catalog, c.implIds .catalog CatalogNode.implId)).toList ++
    (s.pools.map (table .pools)).toList ++
    (s.io.map fun c => (ContractKind.io, c.implIds .io IoNode.implId)).toList

/-- The stack without the exclusions of the last operation. -/
def beginOperation (s : Stack) : Stack :=
  { s with excluded := {} }

def exclude (s : Stack) (id : Int) : Stack :=
  { s with excluded := s.excluded.insert id }

/-- Tells an identity to the chain of a contract, if there is one. -/
def tellChain {τ : Type} (tell : SecurityContext → τ → Told τ) (ctx : SecurityContext)
    (part : Stack → Option (Chain τ)) (put : Chain τ → Stack → Stack) : Action Stack Unit :=
  Action.ofOutcome fun s =>
    match part s with
    | none => (.ok (), s)
    | some chain => (chain.tell tell ctx).map (put · s)

/-- Tells an identity to the drivers, in order. -/
def tellDrivers (ctx : SecurityContext) : Action Stack Unit :=
  Action.ofOutcome fun s =>
    (tellAll (fun (type, driver) => (DriverNode.tell ctx driver).map (type, ·)) s.drivers).map
      fun drivers => { s with drivers }

/-- Tells an identity to the chains of accounts, namespace, catalog, pools and IO and then to the
drivers. The first node that refuses it ends the round. -/
def tell (ctx : SecurityContext) : Action Stack Unit := do
  tellChain TableNode.tell ctx Stack.accounts fun chain s => { s with accounts := some chain }
  tellChain TableNode.tell ctx Stack.inode fun chain s => { s with inode := some chain }
  tellChain CatalogNode.tell ctx Stack.catalog fun chain s => { s with catalog := some chain }
  tellChain TableNode.tell ctx Stack.pools fun chain s => { s with pools := some chain }
  tellChain IoNode.tell ctx Stack.io fun chain s => { s with io := some chain }
  tellDrivers ctx

/-- Switches to an identity. If a node refuses it, the nodes are told the previous one again, if
there was one, and the stack stays with that. -/
def setSecurity (ctx : SecurityContext) : Action Stack Unit := do
  match ← Action.attempt (tell ctx) with
  | .ok () => modify fun s => { s with security := some ctx }
  | .error e =>
    if let some previous := (← get).security then
      let _ ← Action.attempt (tell previous)
    throw e

/-- The identity that the stack runs under. -/
def securityContext (s : Stack) : Except Error SecurityContext :=
  match s.security with
  | some ctx => .ok ctx
  | none => .error .noSecurityContext

end Stack

namespace StackM

/-- The part of the stack, if the contract has a chain. -/
def need {α : Type} (kind : ContractKind) (part : Stack → Option α) : StackM α :=
  Action.query fun s =>
    match part s.stack with
    | some chain => .ok chain
    | none => .error (.noFactory kind)

/-- An action on the site. -/
def onSite {α : Type} (act : Action Site α) : StackM α :=
  Action.zoom OnSite.site (fun site s => { s with site }) act

def accounts (r : AccountsRequest) : StackM r.Answer := do
  let chain ← need .accounts Stack.accounts
  onSite (Site.accountsHandler chain r)

def inode (r : InodeRequest) : StackM r.Answer := do
  let chain ← need .inode Stack.inode
  onSite (Site.inodeHandler chain r)

def catalog (r : CatalogRequest) : StackM r.Answer := do
  let chain ← need .catalog Stack.catalog
  fun s =>
    match Site.askCatalog s.stack.excluded chain r (chain, s.site) with
    | .ok answer (chain, site) => .ok answer ⟨{ s.stack with catalog := some chain }, site⟩
    | .error e (chain, site) => .error e ⟨{ s.stack with catalog := some chain }, site⟩

def pools (r : PoolsRequest) : StackM r.Answer := do
  let chain ← need .pools Stack.pools
  onSite (Site.poolsHandler chain r)

def io (r : IoRequest) : StackM r.Answer := do
  let chain ← need .io Stack.io
  onSite (Site.ioHandler chain r)

/-- Makes a driver for this stack, under its identity. -/
def makeDriver (m : Manager) (s : Stack) (type : String) : Except Error (DriverNode × Board) := do
  let driver ← m.createDriver type
  let board ← driver.attach s.board
  match s.security with
  | none => return (driver, board)
  | some ctx =>
    let (result, driver) := driver.tell ctx
    result
    return (driver, board)

/-- The driver for a pool type, made if this is the first time it is asked for. -/
def driver (type : String) : StackM DriverNode :=
  Action.update fun s =>
    match (s.stack.drivers.find? fun (t, _) => t = type) with
    | some (_, driver) => .ok (driver, s)
    | none => do
      let (driver, board) ← makeDriver s.site.manager s.stack type
      let stack := { s.stack with board, drivers := s.stack.drivers ++ [(type, driver)] }
      return (driver, { s with stack })

/-- Asks a pool driver. -/
def askDriver (driver : DriverNode) (r : DriverRequest) : StackM r.Answer :=
  onSite (Site.driverHandler driver r)

/-- Resolves credentials to an identity: the user of that name, with the groups that the tags name
or else the user's own. -/
def resolve (credentials : Credentials) : StackM SecurityContext := do
  let chain ← need .accounts Stack.accounts
  let ask (r : AccountsRequest) : StackM r.Answer := onSite (Site.accountsHandler chain r)
  if Text.trim credentials.clientName = "" then
    throw (.authentication "credentials carry no client name")
  if credentials.fqans.any fun tag => Text.trim tag = "" then
    throw (.authentication "credentials carry an empty group tag")
  let user ← ask (.user credentials.clientName)
  let groups ←
    if credentials.fqans = [] then ask (.groupsOf user.name)
    else credentials.fqans.mapM fun tag => ask (.group tag)
  return { user, groups, credentials }

/-- An action on the stack alone. -/
def onStack {α : Type} (act : Action Stack α) : StackM α :=
  Action.zoom OnSite.stack (fun stack s => { s with stack }) act

/-- Switches to an identity. -/
def setSecurity (ctx : SecurityContext) : StackM Unit :=
  onStack (Stack.setSecurity ctx)

/-- Switches to the identity that the credentials resolve to. -/
def setCredentials (credentials : Credentials) : StackM Unit := do
  setSecurity (← resolve credentials)

end StackM
end Stowage
