import Stowage.Proofs.MirroredOperations
import Stowage.Proofs.UnprofiledChains

/-! Stacks without profilers. Whatever a stack is asked on a site, and whatever it is told, the stack
without profilers on the site without them answers and does the same. A stack that is made on such a
site is the one that is made on the site itself, without profilers. -/
namespace Stowage

variable {ρ : Renumbering}

namespace Stack

/-- The stack without profilers in its chains. -/
def unprofiled (ρ : Renumbering) (s : Stack) : Stack :=
  { s with
    accounts := s.accounts.map ρ.tables
    inode := s.inode.map ρ.tables
    catalog := s.catalog.map (Chain.unprofiled ρ.catalog)
    pools := s.pools.map ρ.tables
    io := s.io.map (Chain.unprofiled id) }

/-! ### Making a stack -/

theorem attachSome_map {α : Type} {attach : Board → α → Except Error (α × Board)} {see : α → α}
    (seen : ∀ board a, attach board (see a) = (attach board a).map fun done => (see done.1, done.2))
    (board : Board) (part : Option α) :
    attachSome attach board (part.map see) =
      (attachSome attach board part).map fun done => (done.1.map see, done.2) := by
  cases part with
  | none => rfl
  | some a =>
    simp only [attachSome, Option.map_some, seen]
    cases attach board a <;> rfl

/-- What follows something that is made, seen in another way, is what follows it, if that is. -/
theorem map_bind_map {α β γ δ : Type} {made : Except Error α} {see : α → β}
    {next : α → Except Error γ} {after : β → Except Error δ} {view : γ → δ}
    (same : ∀ a, after (see a) = (next a).map view) :
    (made.map see >>= after) = (made >>= next).map view := by
  cases made with
  | error e => rfl
  | ok a => exact same a

/-- A stack made without profilers is the stack without profilers. -/
theorem create_unprofiled (m : Manager) :
    create (m.unprofiled ρ) = (create m).map (unprofiled ρ) := by
  have made {τ : Type} {image chain : Except Error τ} {see : τ → τ} (same : image = chain.map see) :
      Manager.orMissing image = (Manager.orMissing chain).map (Option.map see) :=
    (congrArg Manager.orMissing same).trans (Manager.orMissing_map see chain)
  have tables (board : Board) (part : Option TableChain) :
      attachSome (fun board (chain : TableChain) => chain.attachAll board) board (part.map ρ.tables) =
        (attachSome (fun board (chain : TableChain) => chain.attachAll board) board part).map
          fun done => (done.1.map ρ.tables, done.2) :=
    attachSome_map (fun board chain => ρ.attach_tables board chain) board part
  have catalogs (board : Board) (part : Option (Chain CatalogNode)) :
      attachSome (Chain.attach CatalogNode.attach) board (part.map (Chain.unprofiled ρ.catalog)) =
        (attachSome (Chain.attach CatalogNode.attach) board part).map
          fun done => (done.1.map (Chain.unprofiled ρ.catalog), done.2) :=
    attachSome_map (Chain.attach_unprofiled ρ.attach_catalog) board part
  have files (board : Board) (part : Option (Chain IoNode)) :
      attachSome (Chain.attach IoNode.attach) board (part.map (Chain.unprofiled id)) =
        (attachSome (Chain.attach IoNode.attach) board part).map
          fun done => (done.1.map (Chain.unprofiled id), done.2) :=
    attachSome_map (Chain.attach_unprofiled fun board node => by
      cases done : IoNode.attach board node <;> simp [done, Except.map]) board part
  have accounts : (m.unprofiled ρ).createAccounts = m.createAccounts.map ρ.tables :=
    Manager.createTable_unprofiled .accounts
  have inode : (m.unprofiled ρ).createInode = m.createInode.map ρ.tables :=
    Manager.createTable_unprofiled .inode
  have pools : (m.unprofiled ρ).createPools = m.createPools.map ρ.tables :=
    Manager.createTable_unprofiled .pools
  unfold create
  rw [made accounts, made inode, made Manager.createCatalog_unprofiled, made pools,
    made Manager.createIo_unprofiled]
  refine map_bind_map fun accounts => map_bind_map fun inode => map_bind_map fun catalog =>
    map_bind_map fun pools => map_bind_map fun io => ?_
  dsimp only
  rw [tables]
  refine map_bind_map fun (accounts, board) => ?_
  dsimp only
  rw [tables]
  refine map_bind_map fun (inode, board) => ?_
  dsimp only
  rw [catalogs]
  refine map_bind_map fun (catalog, board) => ?_
  dsimp only
  rw [tables]
  refine map_bind_map fun (pools, board) => ?_
  dsimp only
  rw [files]
  exact map_bind_map fun (io, board) => rfl

/-! ### Identities -/

section Identities

variable {ctx : SecurityContext}

theorem mirrors_tellChain {τ : Type} {tell : SecurityContext → τ → Told τ}
    {part : Stack → Option (Chain τ)} {put : Chain τ → Stack → Stack} {see : Chain τ → Chain τ}
    (seen : ∀ s, part (s.unprofiled ρ) = (part s).map see)
    (told : ∀ chain, (see chain).tell tell ctx = (chain.tell tell ctx).map see)
    (stored : ∀ chain s, put (see chain) (s.unprofiled ρ) = (put chain s).unprofiled ρ) :
    Action.Mirrors (unprofiled ρ) (tellChain tell ctx part put) (tellChain tell ctx part put) := by
  refine Action.mirrors_ofOutcome fun s => ?_
  rw [seen]
  cases part s with
  | none => rfl
  | some chain =>
    simp only [Option.map_some, told]
    exact congrArg (Prod.mk _) (stored _ s)

theorem mirrors_tell (ctx : SecurityContext) :
    Action.Mirrors (unprofiled ρ) (tell ctx) (tell ctx) := by
  have io (chain : Chain IoNode) : (chain.unprofiled id).tell IoNode.tell ctx =
      (chain.tell IoNode.tell ctx).map (Chain.unprofiled id) :=
    Chain.tell_unprofiled (fun _ => rfl) chain
  refine .bind (mirrors_tellChain (fun _ => rfl) (ρ.tell_tables ctx) fun _ _ => rfl) fun _ => ?_
  refine .bind (mirrors_tellChain (fun _ => rfl) (ρ.tell_tables ctx) fun _ _ => rfl) fun _ => ?_
  refine .bind (mirrors_tellChain (fun _ => rfl) (Chain.tell_unprofiled (ρ.tell_catalog ctx))
    fun _ _ => rfl) fun _ => ?_
  refine .bind (mirrors_tellChain (fun _ => rfl) (ρ.tell_tables ctx) fun _ _ => rfl) fun _ => ?_
  refine .bind (mirrors_tellChain (fun _ => rfl) io fun _ _ => rfl) fun _ => ?_
  exact Action.mirrors_ofOutcome fun _ => rfl

theorem mirrors_setSecurity (ctx : SecurityContext) :
    Action.Mirrors (unprofiled ρ) (setSecurity ctx) (setSecurity ctx) := by
  refine (mirrors_tell ctx).attempt.bind fun result => ?_
  cases result with
  | ok => exact Action.mirrors_modify fun _ => rfl
  | error e =>
    refine Action.mirrors_get_bind fun s => ?_
    have same : (unprofiled ρ s).security = s.security := rfl
    rw [same]
    cases s.security with
    | none => exact Action.mirrors_throw _
    | some previous => exact (mirrors_tell previous).attempt.bind fun _ => Action.mirrors_throw _

end Identities

end Stack

/-! ### Requests -/

theorem Renumbering.session_catalog (ρ : Renumbering) (node : CatalogNode) :
    (ρ.catalog node).session = node.session := by
  cases node <;> rfl

theorem Renumbering.withSession_catalog (ρ : Renumbering) (session : CatalogSession)
    (node : CatalogNode) :
    (ρ.catalog node).withSession session = ρ.catalog (node.withSession session) := by
  cases node <;> rfl

/-- The stack and its site without profilers. -/
def OnSite.unprofiled (ρ : Renumbering) (s : OnSite) : OnSite :=
  ⟨s.stack.unprofiled ρ, s.site.unprofiled ρ⟩

namespace StackM

open OnSite Stowage.Action

theorem unprofiled_onSite {α : Type} {act image : Action Site α}
    (mirrors : Mirrors (Site.unprofiled ρ) act image) :
    Mirrors (unprofiled ρ) (onSite act) (onSite image) :=
  mirrors.zoom (fun _ => rfl) fun _ _ => rfl

theorem unprofiled_onStack {α : Type} {act : Action Stack α}
    (mirrors : Mirrors (Stack.unprofiled ρ) act act) :
    Mirrors (unprofiled ρ) (onStack act) (onStack act) :=
  mirrors.zoom (fun _ => rfl) fun _ _ => rfl

theorem unprofiled_accounts (r : AccountsRequest) :
    Mirrors (unprofiled ρ) (accounts r) (accounts r) :=
  mirrors_need_bind (fun _ => rfl) fun chain =>
    unprofiled_onSite (Site.mirrors_accountsHandler chain r)

theorem unprofiled_inode (r : InodeRequest) : Mirrors (unprofiled ρ) (inode r) (inode r) :=
  mirrors_need_bind (fun _ => rfl) fun chain =>
    unprofiled_onSite (Site.mirrors_inodeHandler chain r)

theorem unprofiled_pools (r : PoolsRequest) : Mirrors (unprofiled ρ) (pools r) (pools r) :=
  mirrors_need_bind (fun _ => rfl) fun chain =>
    unprofiled_onSite (Site.mirrors_poolsHandler chain r)

/-- A stack opens a file as it does without profilers, but for those around the file. -/
theorem unprofiled_open (file : String) (flags : OpenFlags) (attrs : Attributes) :
    Mirrors (unprofiled ρ)
      (do
        let opened ← io (.open_ file flags attrs)
        return opened.unprofiled)
      (io (.open_ file flags attrs)) := by
  unfold io
  rw [bind_assoc]
  refine mirrors_need_bind (fun _ => rfl) fun chain => ?_
  unfold onSite
  rw [← zoom_map]
  exact unprofiled_onSite (Site.mirrors_open file flags attrs chain)

theorem browsed_unprofiled (s : OnSite) (chain : Chain CatalogNode) (b : Browsing Site) :
    browsed (s.unprofiled ρ) (chain.unprofiled ρ.catalog) (b.over (Site.unprofiled ρ)) =
      (browsed s chain b).unprofiled ρ := by
  have session : ((chain.unprofiled ρ.catalog).base.withSession b.session) =
      ρ.catalog (chain.base.withSession b.session) := ρ.withSession_catalog b.session chain.base
  unfold browsed Browsing.over
  rw [session]
  rfl

theorem unprofiled_catalog (r : CatalogRequest) :
    Mirrors (unprofiled ρ) (catalog r) (catalog r) := by
  intro s
  cases wired : s.stack.catalog with
  | none =>
    have unwired : (s.unprofiled ρ).stack.catalog = none := by
      simp [unprofiled, Stack.unprofiled, wired]
    rw [outcome_of_error (catalog_of_unwired wired r),
      outcome_of_error (catalog_of_unwired unwired r)]
  | some chain =>
    have found : (s.unprofiled ρ).stack.catalog = some (chain.unprofiled ρ.catalog) := by
      simp [unprofiled, Stack.unprofiled, wired]
    have mirrored := Site.mirrors_catalogHandler (ρ := ρ) s.stack.excluded chain r
      ⟨chain.base.session, s.site⟩
    have session : (chain.unprofiled ρ.catalog).base.session = chain.base.session :=
      ρ.session_catalog chain.base
    rw [outcome_catalog wired, outcome_catalog found, session]
    refine (congrArg (fun outcome => (outcome.1, browsed (s.unprofiled ρ) _ outcome.2))
      mirrored).trans (congrArg (Prod.mk _) ?_)
    exact browsed_unprofiled _ _ _

theorem unprofiled_driver (type : String) :
    Mirrors (unprofiled ρ) (driver type) (driver type) := by
  refine mirrors_driver type (fun _ => rfl) (fun s => ?_) fun _ _ _ => rfl
  have made : (s.unprofiled ρ).site.manager.createDriver type = s.site.manager.createDriver type :=
    Manager.createDriver_unprofiled type
  unfold makeDriver
  rw [made]
  rfl

theorem unprofiled_askDriver (node : DriverNode) (r : DriverRequest) :
    Mirrors (unprofiled ρ) (askDriver node r) (askDriver node r) :=
  unprofiled_onSite (Site.mirrors_onHost node.handler r)

theorem unprofiled_resolve (credentials : Credentials) :
    Mirrors (unprofiled ρ) (resolve credentials) (resolve credentials) := by
  refine mirrors_need_bind (fun _ => rfl) fun chain => ?_
  have asks (r : AccountsRequest) := unprofiled_onSite (Site.mirrors_accountsHandler (ρ := ρ) chain r)
  refine .guarded (.guarded ((asks (.user _)).bind fun user => .ite ?_ ?_))
  · exact (asks (.groupsOf _)).bind fun _ => mirrors_pure _
  · exact (Mirrors.mapM (fun tag => asks (.group tag)) _).bind fun _ => mirrors_pure _

theorem unprofiled_setSecurity (ctx : SecurityContext) :
    Mirrors (unprofiled ρ) (setSecurity ctx) (setSecurity ctx) :=
  unprofiled_onStack (Stack.mirrors_setSecurity ctx)

theorem unprofiled_setCredentials (credentials : Credentials) :
    Mirrors (unprofiled ρ) (setCredentials credentials) (setCredentials credentials) :=
  (unprofiled_resolve credentials).bind unprofiled_setSecurity

end StackM

namespace Resolution

open OnSite

/-- Nothing that the resolution does depends on profilers. -/
theorem ignores_unprofiled : Ignores (unprofiled ρ) where
  excluded _ := rfl
  wired s := by
    unfold unprofiled Stack.unprofiled
    cases s.stack.catalog <;> rfl
  directory := StackM.unprofiled_catalog _
  pools := StackM.unprofiled_pools
  driver := StackM.unprofiled_driver
  asks := StackM.unprofiled_askDriver
  turns _ _ := rfl
  catalog := StackM.unprofiled_catalog
  begins := StackM.unprofiled_onStack (Action.mirrors_modify fun _ => rfl)
  excludes _ := StackM.unprofiled_onStack (Action.mirrors_modify fun _ => rfl)

end Resolution

end Stowage
