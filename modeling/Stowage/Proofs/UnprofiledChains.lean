import Stowage.Proofs.MirroredRequests
import Stowage.Proofs.Unprofiled

/-! Chains without profilers. A chain answers on a site as the chain without profilers answers on the
site without them: profilers pass everything on, and the tables are found under their new numbers. The
same goes for an identity that the chain is told and for the stack it becomes part of. -/
namespace Stowage

/-- The site without its profilers. -/
def Site.unprofiled (ρ : Renumbering) (site : Site) : Site :=
  { site with manager := site.manager.unprofiled ρ }

variable {ρ : Renumbering}

/-! ### Requests -/

namespace Chain

variable {C : Contract} {σ ν : Type} {view : σ → σ} {see : ν → ν}
  {decorate : Decorator → C.Handler σ → C.Handler σ} {answers : ν → C.Handler σ}

/-- Where profilers change nothing about what they wrap, the chain without them mirrors the chain. -/
theorem mirrors_handler
    (innermost : ∀ node, C.Mirrors view (answers node) (answers (see node)))
    (kept : ∀ d {h image : C.Handler σ}, C.Mirrors view h image →
      C.Mirrors view (decorate d h) (decorate d image))
    (passes : ∀ d chain, d.profiles = true →
      decorate d (handler decorate answers chain) = handler decorate answers chain)
    (chain : Chain ν) :
    C.Mirrors view (handler decorate answers chain)
      (handler decorate answers (chain.unprofiled see)) := by
  obtain ⟨decorators, node⟩ := chain
  induction decorators with
  | nil => exact innermost node
  | cons d rest ih =>
    unfold unprofiled
    dsimp only
    rw [Decorator.unprofiled_cons]
    cases profiler : d.profiles with
    | true =>
      have passed : handler decorate answers ⟨d :: rest, node⟩ =
          handler decorate answers ⟨rest, node⟩ := passes d ⟨rest, node⟩ profiler
      rw [passed]
      exact ih
    | false => exact kept d ih

end Chain

namespace Site

/-- A part of the tables is the same part under the new number. -/
theorem mirrors_onTables {C : Contract} {κ : Type} (id : FactoryId) (get : MemoryTables → κ)
    (set : κ → MemoryTables → MemoryTables) (h : C.Handler κ) :
    C.Mirrors (unprofiled ρ) (onTables id get set h) (onTables (ρ id) get set h) := by
  intro r
  refine Action.Mirrors.zoom (fun _ => rfl : Action.Mirrors (fun part => part) (h r) (h r))
    (fun site => congrArg get Manager.memory_unprofiled) fun part site => ?_
  change Site.mk ((site.manager.unprofiled ρ).setMemory (ρ id)
    (set part ((site.manager.unprofiled ρ).memory (ρ id)))) site.host = _
  rw [Manager.memory_unprofiled, ← Manager.unprofiled_setMemory]
  rfl

theorem mirrors_tableHandler {C : Contract} {memory : FactoryId → C.Handler Site}
    (mirrors : ∀ id, C.Mirrors (unprofiled ρ) (memory id) (memory (ρ id))) (node : TableNode) :
    C.Mirrors (unprofiled ρ) (tableHandler memory node) (tableHandler memory (ρ.table node)) := by
  cases node with
  | memory id => exact mirrors id
  | plain node => exact fun _ => Action.mirrors_throw _

theorem mirrors_accountsHandler (chain : TableChain) :
    Contract.accounts.Mirrors (unprofiled ρ) (accountsHandler chain)
      (accountsHandler (ρ.tables chain)) :=
  Chain.mirrors_handler (mirrors_tableHandler fun id => mirrors_onTables id _ _ _)
    (fun _ _ _ mirrors => mirrors) (fun _ _ _ => rfl) chain

theorem mirrors_inodeHandler (chain : TableChain) :
    Contract.inode.Mirrors (unprofiled ρ) (inodeHandler chain) (inodeHandler (ρ.tables chain)) :=
  Chain.mirrors_handler (mirrors_tableHandler fun id => mirrors_onTables id _ _ _)
    (fun _ _ _ => Contract.inode.mirrors_forward)
    (fun _ chain _ => Contract.inode.forward_eq_iff.2 (derives_inodeHandler chain)) chain

theorem mirrors_poolsHandler (chain : TableChain) :
    Contract.pools.Mirrors (unprofiled ρ) (poolsHandler chain) (poolsHandler (ρ.tables chain)) :=
  Chain.mirrors_handler (mirrors_tableHandler fun id => mirrors_onTables id _ _ _)
    (fun d h image mirrors => by rwa [d.overPools_eq h, d.overPools_eq image])
    (fun d _ _ => d.overPools_eq _) chain

theorem mirrors_onHost {C : Contract} (h : C.Handler Host) :
    C.Mirrors (unprofiled ρ) (onHost h) (onHost h) :=
  fun r => Action.Mirrors.zoom (fun _ => rfl : Action.Mirrors (fun host => host) (h r) (h r))
    (fun _ => rfl) fun _ _ => rfl

section Opening

variable (file : String) (flags : OpenFlags) (attrs : Attributes)

/-- The innermost node puts no profiler around the file that it opens. -/
theorem onHost_open (node : IoNode) :
    (do
      let opened ← onHost node.handler (.open_ file flags attrs)
      return opened.unprofiled) = onHost node.handler (.open_ file flags attrs) := by
  refine (Action.zoom_map _ _ _ OpenFile.unprofiled).symm.trans (congrArg (Action.zoom _ _) ?_)
  cases node with
  | plain node => rfl
  | localFiles node =>
    unfold IoNode.handler LocalFiles.handler
    simp only [bind_assoc, pure_bind]
    rfl

/-- But for the profilers around it, the file that a chain opens is the one of its innermost node. -/
theorem ioHandler_open (chain : Chain IoNode) :
    (do
      let opened ← ioHandler chain (.open_ file flags attrs)
      return opened.unprofiled) = onHost chain.base.handler (.open_ file flags attrs) := by
  obtain ⟨decorators, node⟩ := chain
  induction decorators with
  | nil => exact onHost_open file flags attrs node
  | cons d rest ih =>
    cases d with
    | plain | librarian => exact ih
    | profiler slowMs =>
      have handed : ioHandler ⟨.profiler slowMs :: rest, node⟩ (.open_ file flags attrs) = _ :=
        Profiler.io_eq slowMs (ioHandler ⟨rest, node⟩) file flags attrs
      simp only [handed, bind_assoc, pure_bind]
      exact ih

/-- Without profilers a chain opens what its innermost node opens. -/
theorem ioHandler_unprofiled (chain : Chain IoNode) :
    ioHandler (chain.unprofiled id) (.open_ file flags attrs) =
      onHost chain.base.handler (.open_ file flags attrs) := by
  obtain ⟨decorators, node⟩ := chain
  induction decorators with
  | nil => rfl
  | cons d rest ih =>
    unfold Chain.unprofiled
    rw [Decorator.unprofiled_cons]
    cases d <;> exact ih

/-- A chain opens a file as it does without profilers, but for those around the file. -/
theorem mirrors_open (chain : Chain IoNode) :
    Action.Mirrors (unprofiled ρ)
      (do
        let opened ← ioHandler chain (.open_ file flags attrs)
        return opened.unprofiled)
      (ioHandler (chain.unprofiled id) (.open_ file flags attrs)) := by
  rw [ioHandler_open, ioHandler_unprofiled]
  exact mirrors_onHost chain.base.handler _

end Opening

theorem mirrors_catalogNodeHandler (node : CatalogNode) :
    Contract.catalog.Mirrors (Browsing.over (unprofiled ρ)) (catalogNodeHandler node)
      (catalogNodeHandler (ρ.catalog node)) := by
  cases node with
  | builtIn below session =>
    refine BuiltIn.mirrors_handler ?_
    cases below with
    | none => trivial
    | some chain => exact mirrors_inodeHandler chain
  | plain node => exact fun _ => Action.mirrors_throw _

theorem mirrors_catalogHandler (excluded : Exclusions) (chain : Chain CatalogNode) :
    Contract.catalog.Mirrors (Browsing.over (unprofiled ρ)) (catalogHandler excluded chain)
      (catalogHandler excluded (chain.unprofiled ρ.catalog)) := by
  refine Chain.mirrors_handler mirrors_catalogNodeHandler
    (fun d _ _ => d.mirrors_overCatalog excluded) (fun d chain profiler => ?_) chain
  cases d with
  | profiler slowMs =>
    exact (Profiler.catalog_eq _).trans
      (Contract.catalog.forward_eq_iff.2 (derives_catalogHandler excluded chain))
  | _ => cases profiler

end Site

/-! ### Identities -/

theorem Decorator.profiles_tell (ctx : SecurityContext) (d : Decorator) :
    (d.tell ctx).2.profiles = d.profiles := by
  cases d with
  | plain | profiler | librarian => rfl

theorem Decorator.tellAll_unprofiled (ctx : SecurityContext) (decorators : List Decorator) :
    tellAll (Decorator.tell ctx) (unprofiled decorators) =
      (tellAll (Decorator.tell ctx) decorators).map unprofiled := by
  induction decorators with
  | nil => rfl
  | cons d rest ih =>
    have same := d.profiles_tell ctx
    rw [unprofiled_cons]
    cases profiler : d.profiles with
    | true =>
      cases d with
      | profiler slowMs => exact ih
      | _ => cases profiler
    | false =>
      rw [profiler] at same
      unfold tellAll
      rcases told : d.tell ctx with ⟨e | accepted, after⟩
      · rw [told] at same
        simp [Told.map, unprofiled_cons, same, told]
      · rw [told] at same
        simp [Told.map, unprofiled_cons, same, told, ih]

namespace Chain

variable {τ : Type} {see : τ → τ}

/-- An identity goes past profilers to the others. -/
theorem tell_unprofiled {tellBase : SecurityContext → τ → Told τ} {ctx : SecurityContext}
    (base : ∀ node, tellBase ctx (see node) = (tellBase ctx node).map see) (chain : Chain τ) :
    (chain.unprofiled see).tell tellBase ctx = (chain.tell tellBase ctx).map (unprofiled see) := by
  obtain ⟨decorators, node⟩ := chain
  have above := Decorator.tellAll_unprofiled ctx decorators
  unfold tell unprofiled
  dsimp only
  rw [above]
  rcases tellAll (Decorator.tell ctx) decorators with ⟨e | accepted, after⟩
  · rfl
  · simp [Told.map, base]

end Chain

namespace Renumbering

theorem tell_table (ctx : SecurityContext) (node : TableNode) :
    TableNode.tell ctx (ρ.table node) = (TableNode.tell ctx node).map ρ.table := by
  cases node <;> rfl

theorem tell_tables (ctx : SecurityContext) (chain : TableChain) :
    (ρ.tables chain).tell TableNode.tell ctx = (chain.tell TableNode.tell ctx).map ρ.tables :=
  Chain.tell_unprofiled (ρ.tell_table ctx) chain

theorem tell_catalog (ctx : SecurityContext) (node : CatalogNode) :
    CatalogNode.tell ctx (ρ.catalog node) = (CatalogNode.tell ctx node).map ρ.catalog := by
  match node with
  | .builtIn none session => rfl
  | .builtIn (some chain) session =>
    have below := ρ.tell_tables ctx chain
    simp only [CatalogNode.tell, catalog, Option.map_some, below]
    rfl
  | .plain node => rfl

end Renumbering

/-! ### Becoming part of a stack -/

theorem Decorator.profiles_attach {d after : Decorator} {board left : Board}
    (done : d.attach board = .ok (after, left)) : after.profiles = d.profiles := by
  cases d with
  | plain node =>
    obtain ⟨_, -, same⟩ := Error.bind_eq_ok_iff.1 done
    cases same
    rfl
  | profiler | librarian =>
    cases done
    rfl

namespace Chain

variable {τ : Type} {see : τ → τ}

theorem attachDecorators_unprofiled (board : Board) (decorators : List Decorator) :
    attachDecorators board (Decorator.unprofiled decorators) =
      (attachDecorators board decorators).map fun done => (Decorator.unprofiled done.1, done.2) := by
  induction decorators generalizing board with
  | nil => rfl
  | cons d rest ih =>
    rw [Decorator.unprofiled_cons]
    cases profiler : d.profiles with
    | true =>
      cases d with
      | profiler slowMs =>
        refine (ih board).trans ?_
        simp only [attachDecorators, Decorator.attach, bind, Except.bind]
        cases attachDecorators board rest <;> rfl
      | _ => cases profiler
    | false =>
      simp only [Bool.false_eq_true, if_false, attachDecorators]
      cases done : d.attach board with
      | error e => rfl
      | ok pair =>
        have same := Decorator.profiles_attach done
        simp only [bind, Except.bind, ih]
        cases attachDecorators pair.2 rest with
        | error e => rfl
        | ok left => simp [Except.map, pure, Except.pure, Decorator.unprofiled_cons, same, profiler]

/-- Profilers leave nothing on the board of a stack. -/
theorem attach_unprofiled {attachBase : Board → τ → Except Error (τ × Board)}
    (base : ∀ board node, attachBase board (see node) =
      (attachBase board node).map fun done => (see done.1, done.2))
    (board : Board) (chain : Chain τ) :
    (chain.unprofiled see).attach attachBase board =
      (chain.attach attachBase board).map fun done => (done.1.unprofiled see, done.2) := by
  obtain ⟨decorators, node⟩ := chain
  have above := attachDecorators_unprofiled board decorators
  unfold attach unprofiled
  dsimp only
  rw [above]
  cases attachDecorators board decorators with
  | error e => rfl
  | ok done =>
    simp only [bind, Except.bind, Except.map, base]
    cases attachBase done.2 node <;> rfl

end Chain

/-- A chain over a table is attached as any chain, and its innermost node stays as it is. -/
theorem TableChain.attachAll_eq (board : Board) (chain : TableChain) :
    chain.attachAll board = Chain.attach
      (fun board node => (TableNode.attach board node).map fun left => (node, left)) board chain := by
  unfold attachAll Chain.attach
  cases Chain.attachDecorators board chain.decorators with
  | error e => rfl
  | ok done =>
    simp only [bind, Except.bind]
    cases TableNode.attach done.2 chain.base <;> rfl

namespace Renumbering

theorem attach_tables (board : Board) (chain : TableChain) :
    (ρ.tables chain).attachAll board =
      (chain.attachAll board).map fun done => (ρ.tables done.1, done.2) := by
  rw [TableChain.attachAll_eq, TableChain.attachAll_eq]
  refine Chain.attach_unprofiled (fun board node => ?_) board chain
  have same : TableNode.attach board (ρ.table node) = TableNode.attach board node := by
    cases node <;> rfl
  rw [same]
  cases TableNode.attach board node <;> rfl

theorem attach_catalog (board : Board) (node : CatalogNode) :
    CatalogNode.attach board (ρ.catalog node) =
      (CatalogNode.attach board node).map fun done => (ρ.catalog done.1, done.2) := by
  match node with
  | .builtIn none session => rfl
  | .builtIn (some chain) session =>
    have below := ρ.attach_tables board chain
    simp only [CatalogNode.attach, catalog, Option.map_some, below]
    cases chain.attachAll board <;> rfl
  | .plain node =>
    simp only [CatalogNode.attach, catalog]
    cases node.attach board <;> rfl

end Renumbering

end Stowage
