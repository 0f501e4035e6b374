import Stowage.Proofs.Operations

/-! What a site keeps. Whatever the chains of a stack are asked, all that they can do to a site is to store
tables and to use the machine, and the built-in catalog may also move its session on. So a relation between
sites before and after that allows for tables and the machine holds across every request, and what a stack
keeps as long as its site does it keeps in every request to its chains and drivers. -/
namespace Stowage

/-! ### Decorators -/

section Decorators

variable {σ : Type} {R : σ → σ → Prop} [Action.Frame R]

theorem Contract.inode.keeps_forward {inner : Contract.inode.Handler σ}
    (keeps : ∀ r, Action.Keeps R (inner r)) (r : InodeRequest) :
    Action.Keeps R (Contract.inode.forward inner r) := by
  cases r with
  | stat ino => exact (keeps (.entry ino)).bind fun _ => (Action.reads_pure _).keeps
  | statChild parent name => exact (keeps (.child parent name)).bind fun _ => (Action.reads_pure _).keeps
  | create | entry | child | unlink | readDir | replicas | replica | addReplica | deleteReplica
  | updateReplica | setMode | setSize => exact keeps _

theorem Contract.catalog.keeps_forward {inner : Contract.catalog.Handler σ}
    (keeps : ∀ r, Action.Keeps R (inner r)) (r : CatalogRequest) :
    Action.Keeps R (Contract.catalog.forward inner r) := by
  cases r with
  | stat path => exact (keeps (.entry path)).bind fun _ => (Action.reads_pure _).keeps
  | changeDir | workingDir | umask | entry | access | setMode | setOwner | setSize | setAcl | replicas
  | addReplica | deleteReplica | updateReplica | create | makeDir | unlink | removeDir | readDir =>
    exact keeps _

/-- What a catalog keeps in all requests, a decorator around it keeps. -/
theorem Decorator.keeps_overCatalog (excluded : Exclusions) (d : Decorator)
    {inner : Contract.catalog.Handler σ} (keeps : ∀ r, Action.Keeps R (inner r)) (r : CatalogRequest) :
    Action.Keeps R (d.overCatalog excluded inner r) := by
  by_cases hides : d = .librarian true
  · subst hides
    change Action.Keeps R (excluded.hideIn inner r)
    unfold Exclusions.hideIn
    split
    · exact (keeps (.replicas _)).bind fun _ => (Action.reads_pure _).keeps
    · exact Contract.catalog.keeps_forward keeps _
  · rw [d.overCatalog_eq excluded hides]
    exact Contract.catalog.keeps_forward keeps r

end Decorators

/-! ### Sites -/

/-- The relation allows for tables that are stored, and for anything on the machine. -/
structure Site.Allows (R : Site → Site → Prop) : Prop where
  tables (site : Site) (id : FactoryId) (tables : MemoryTables) :
    R site { site with manager := site.manager.setMemory id tables }
  machine (site : Site) (host : Host) : R site { site with host }

namespace Site

variable {R : Site → Site → Prop}

section Handlers

variable (allows : Allows R)
include allows

theorem Allows.onHost {C : Contract} (h : C.Handler Host) (r : C.Request) :
    Action.Keeps R (onHost h r) := by
  intro s
  unfold Site.onHost Contract.Handler.zoom
  rw [Action.outcome_zoom]
  exact allows.machine s _

theorem Allows.io (chain : Chain IoNode) (r : IoRequest) : Action.Keeps R (ioHandler chain r) := by
  intro site
  rw [StackM.state_ioHandler]
  exact allows.onHost (C := .io) _ r site

variable [Action.Frame R]

theorem Allows.tableHandler {C : Contract} {τ : Type} (get : MemoryTables → τ)
    (set : τ → MemoryTables → MemoryTables) (h : C.Handler τ) (node : TableNode) (r : C.Request) :
    Action.Keeps R (tableHandler (fun id => onTables id get set h) node r) := by
  cases node with
  | memory id =>
    intro s
    unfold Site.tableHandler onTables Contract.Handler.zoom
    rw [Action.outcome_zoom]
    exact allows.tables s id _
  | plain node => exact (Action.reads_throw _).keeps

theorem Allows.accounts (chain : TableChain) (r : AccountsRequest) :
    Action.Keeps R (accountsHandler chain r) := by
  obtain ⟨decorators, base⟩ := chain
  induction decorators with
  | nil => exact allows.tableHandler (C := .accounts) _ _ _ _ r
  | cons d rest ih => exact ih

theorem Allows.pools (chain : TableChain) (r : PoolsRequest) : Action.Keeps R (poolsHandler chain r) := by
  rw [StackM.poolsHandler_eq]
  exact allows.tableHandler (C := .pools) _ _ _ _ r

theorem Allows.inode (chain : TableChain) (r : InodeRequest) : Action.Keeps R (inodeHandler chain r) := by
  obtain ⟨decorators, base⟩ := chain
  induction decorators generalizing r with
  | nil => exact allows.tableHandler (C := .inode) _ _ _ _ r
  | cons d rest ih => exact Contract.inode.keeps_forward ih r

/-! The built-in catalog also keeps a session, of which only the working directory and the umask move. -/

variable {Q : Browsing Site → Browsing Site → Prop} [Action.Frame Q]
  (stores : ∀ {b : Browsing Site} {store : Site}, R b.store store → Q b { b with store })
  (sessions : ∀ {b : Browsing Site} {session : CatalogSession},
    session.security = b.session.security → Q b { b with session })
include stores sessions

theorem Allows.catalogNode (node : CatalogNode) (r : CatalogRequest) :
    Action.Keeps Q (catalogNodeHandler node r) := by
  cases node with
  | plain node => exact (Action.reads_throw _).keeps
  | builtIn below session =>
    have asks (q : InodeRequest) : Action.Keeps Q (BuiltIn.ask (below.map inodeHandler) q) := by
      cases below with
      | none => exact (Action.reads_throw _).keeps
      | some chain =>
        intro b
        unfold BuiltIn.ask Option.map
        dsimp only
        rw [Action.outcome_zoom]
        exact stores (allows.inode chain q b.store)
    exact BuiltIn.keeps_handler (belowReads below) asks (fun path b => sessions rfl)
      (fun mask b => sessions rfl) r

theorem Allows.catalog (excluded : Exclusions) (chain : Chain CatalogNode) (r : CatalogRequest) :
    Action.Keeps Q (catalogHandler excluded chain r) := by
  obtain ⟨decorators, base⟩ := chain
  induction decorators generalizing r with
  | nil => exact allows.catalogNode stores sessions base r
  | cons d rest ih => exact d.keeps_overCatalog excluded ih r

end Handlers

end Site

/-! ### Stacks -/

namespace StackM

variable {R : Site → Site → Prop} {Q : OnSite → OnSite → Prop} [Action.Frame Q]
  (sites : ∀ {s : OnSite} {site : Site}, R s.site site → Q s { s with site })
include sites

omit [Action.Frame Q] in
theorem keeps_onSite {α : Type} {act : Action Site α} (keeps : Action.Keeps R act) :
    Action.Keeps Q (onSite act) := by
  intro s
  have after : ((onSite act).outcome s).2 = { s with site := (act.outcome s.site).2 } :=
    congrArg Prod.snd (Action.outcome_zoom _ _ act s)
  rw [after]
  exact sites (keeps s.site)

variable (allows : Site.Allows R)
include allows

omit [Action.Frame Q] in
theorem keeps_askDriver (node : DriverNode) (r : DriverRequest) : Action.Keeps Q (askDriver node r) :=
  keeps_onSite sites (allows.onHost (C := .driver) _ r)

theorem keeps_io (r : IoRequest) : Action.Keeps Q (io r) :=
  (Action.reads_query _).keeps.bind fun chain => keeps_onSite sites (allows.io chain r)

variable [Action.Frame R]

theorem keeps_accounts (r : AccountsRequest) : Action.Keeps Q (accounts r) :=
  (Action.reads_query _).keeps.bind fun chain => keeps_onSite sites (allows.accounts chain r)

theorem keeps_inode (r : InodeRequest) : Action.Keeps Q (inode r) :=
  (Action.reads_query _).keeps.bind fun chain => keeps_onSite sites (allows.inode chain r)

theorem keeps_pools (r : PoolsRequest) : Action.Keeps Q (pools r) :=
  (Action.reads_query _).keeps.bind fun chain => keeps_onSite sites (allows.pools chain r)

end StackM
end Stowage
