import Stowage.Proofs.Preparations

/-! Decorators that pass everything on. A node that has no answer of its own hands a request to the node
it wraps, but for a plain status, which it takes from the whole entry that it is handed. A chain of such
nodes therefore does what its innermost node does as long as that one answers for a plain status with
what is in the whole entry (`Derives`), as every implementation in the library does; and this is the
only thing about the innermost node that matters (`forward_eq_iff`). -/
namespace Stowage

/-! ### Statuses that come from entries -/

section Derives

variable {σ τ : Type}

/-- The plain status that the implementation gives, on its own or by default, is the one in the whole
entry. -/
def Contract.catalog.Derives (h : Contract.catalog.Handler σ) : Prop :=
  ∀ path, h (.stat path) = do return (← h (.entry path)).stat

/-- The plain statuses that the implementation gives, on its own or by default, are those in the whole
entries. -/
structure Contract.inode.Derives (h : Contract.inode.Handler σ) : Prop where
  stat : ∀ ino, h (.stat ino) = do return (← h (.entry ino)).stat
  statChild : ∀ parent name, h (.statChild parent name) = do return (← h (.child parent name)).stat

/-- Passing on is doing nothing exactly if plain statuses come from entries anyway. -/
theorem Contract.catalog.forward_eq_iff {h : Contract.catalog.Handler σ} :
    Contract.catalog.forward h = h ↔ Contract.catalog.Derives h := by
  constructor
  · exact fun same path => (congrFun same (.stat path)).symm
  · intro derives
    funext r
    cases r with
    | stat path => exact (derives path).symm
    | _ => rfl

theorem Contract.inode.forward_eq_iff {h : Contract.inode.Handler σ} :
    Contract.inode.forward h = h ↔ Contract.inode.Derives h := by
  constructor
  · exact fun same => ⟨fun ino => (congrFun same (.stat ino)).symm,
      fun parent name => (congrFun same (.statChild parent name)).symm⟩
  · intro derives
    funext r
    cases r with
    | stat ino => exact (derives.stat ino).symm
    | statChild parent name => exact (derives.statChild parent name).symm
    | _ => rfl

/-- What a node does by itself comes from entries, whatever it wraps. -/
theorem Contract.catalog.derives_forward (h : Contract.catalog.Handler σ) :
    Contract.catalog.Derives (Contract.catalog.forward h) :=
  fun _ => rfl

theorem Contract.inode.derives_forward (h : Contract.inode.Handler σ) :
    Contract.inode.Derives (Contract.inode.forward h) :=
  ⟨fun _ => rfl, fun _ _ => rfl⟩

theorem Decorator.derives_overCatalog (excluded : Exclusions) (d : Decorator)
    (h : Contract.catalog.Handler σ) : Contract.catalog.Derives (d.overCatalog excluded h) := by
  by_cases hides : d = .librarian true
  · subst hides
    exact fun _ => rfl
  · rw [d.overCatalog_eq excluded hides]
    exact Contract.catalog.derives_forward h

end Derives

/-! ### The implementations of the library -/

theorem Namespace.derives_handler : Contract.inode.Derives Namespace.handler where
  stat _ := Action.query_map _ _
  statChild _ _ := Action.query_map _ _

/-- A part of the state answers as a whole does. -/
theorem Contract.inode.Derives.zoom {σ τ : Type} {h : Contract.inode.Handler τ}
    (derives : Contract.inode.Derives h) (get : σ → τ) (set : τ → σ → σ) :
    Contract.inode.Derives (h.zoom get set) where
  stat ino := by
    unfold Contract.Handler.zoom
    rw [derives.stat, Action.zoom_map]
  statChild parent name := by
    unfold Contract.Handler.zoom
    rw [derives.statChild, Action.zoom_map]

namespace Site

theorem derives_inodeHandler (chain : TableChain) : Contract.inode.Derives (inodeHandler chain) := by
  obtain ⟨decorators, base⟩ := chain
  cases decorators with
  | cons d rest => exact Contract.inode.derives_forward _
  | nil =>
    cases base with
    | plain node => exact ⟨fun _ => rfl, fun _ _ => rfl⟩
    | memory id => exact Namespace.derives_handler.zoom _ _

theorem derives_catalogNodeHandler (node : CatalogNode) :
    Contract.catalog.Derives (catalogNodeHandler node) := by
  cases node with
  | builtIn below session => exact fun _ => rfl
  | plain node => exact fun _ => rfl

theorem derives_catalogHandler (excluded : Exclusions) (chain : Chain CatalogNode) :
    Contract.catalog.Derives (catalogHandler excluded chain) := by
  obtain ⟨decorators, base⟩ := chain
  cases decorators with
  | cons d rest => exact d.derives_overCatalog excluded _
  | nil => exact derives_catalogNodeHandler base

end Site

/-! ### Chains of nodes that pass on -/

namespace Chain

variable {τ : Type}

/-- Nodes that have nothing but a name, around an innermost one. -/
def passing (names : List String) (innermost : τ) : Chain τ :=
  ⟨names.map fun name => .plain { implId := name }, innermost⟩

section Handlers

variable {C : Contract} {σ : Type} {decorate : Decorator → C.Handler σ → C.Handler σ}
  {answers : τ → C.Handler σ}

/-- Decorators that change nothing about the implementation that they wrap make a chain of it that does
the same. -/
theorem handler_of_passed {decorators : List Decorator} {node : τ}
    (passed : ∀ d ∈ decorators, decorate d (answers node) = answers node) :
    handler decorate answers ⟨decorators, node⟩ = answers node := by
  unfold handler
  induction decorators with
  | nil => rfl
  | cons d rest ih =>
    obtain ⟨here, later⟩ := List.forall_mem_cons.1 passed
    rw [List.foldr_cons, ih later]
    exact here

end Handlers

theorem attachDecorators_passing (board : Board) (names : List String) :
    attachDecorators board (names.map fun name => .plain { implId := name }) =
      .ok (names.map fun name => .plain { implId := name }, board) := by
  induction names with
  | nil => rfl
  | cons name rest ih =>
    rw [List.map_cons, attachDecorators]
    simp only [Decorator.attach, bind, Except.bind, pure, Except.pure, ih]

/-- The innermost node alone decides whether the chain becomes part of a stack. -/
theorem attach_passing (attachBase : Board → τ → Except Error (τ × Board)) (board : Board)
    (names : List String) (node : τ) :
    (passing names node).attach attachBase board =
      (attachBase board node).map fun (node, board) => (passing names node, board) := by
  unfold attach passing
  rw [attachDecorators_passing]
  simp only [bind, Except.bind]
  cases attachBase board node <;> rfl

theorem tellAll_passing (ctx : SecurityContext) (names : List String) :
    (tellAll (Decorator.tell ctx) (names.map fun name => .plain { implId := name })).1 = .ok () := by
  induction names with
  | nil => rfl
  | cons name rest ih => exact ih

/-- The innermost node alone decides whether the chain takes an identity. -/
theorem tell_passing (tellBase : SecurityContext → τ → Told τ) (ctx : SecurityContext)
    (names : List String) (node : τ) :
    ((passing names node).tell tellBase ctx).map Chain.base = tellBase ctx node := by
  have accepted := tellAll_passing ctx names
  unfold tell passing
  rcases told : tellAll (Decorator.tell ctx) (names.map fun name => .plain { implId := name })
    with ⟨result, decorators⟩
  rw [told] at accepted
  subst accepted
  rfl

end Chain

/-! ### The end of a chain -/

/-- A handler that refuses every request as one that nothing implements, by the name of the operation that
the request comes down to. -/
def Contract.Unanswering (C : Contract) {σ : Type} (h : C.Handler σ) : Prop :=
  ∀ r s, h r s = .error (C.unanswered r) s ∧ (C.unanswered r).kind = .notImplemented

theorem Contract.unanswering_bare (C : Contract) {σ : Type} : C.Unanswering (C.bare (σ := σ)) :=
  fun r _ => ⟨rfl, OnSite.kind_of_unanswered C r⟩

/-- The node implements nothing and minds neither an identity nor a stack. -/
structure PlainNode.Terminal (node : PlainNode) : Prop where
  table (C : Contract) (memory : FactoryId → C.Handler Site) :
    C.Unanswering (Site.tableHandler memory (.plain node))
  catalog : Contract.catalog.Unanswering (Site.catalogNodeHandler (.plain node))
  io : Contract.io.Unanswering (IoNode.plain node).handler
  told (ctx : SecurityContext) : (TableNode.tell ctx (.plain node)).1 = .ok () ∧
    (CatalogNode.tell ctx (.plain node)).1 = .ok () ∧ (IoNode.tell ctx (.plain node)).1 = .ok ()
  attached (board : Board) : TableNode.attach board (.plain node) = .ok board ∧
    CatalogNode.attach board (.plain node) = .ok (.plain node, board) ∧
    IoNode.attach board (.plain node) = .ok (.plain node, board)

theorem PlainNode.terminal (name : String) : Terminal { implId := name } where
  table C _ := C.unanswering_bare
  catalog := Contract.catalog.unanswering_bare
  io := Contract.io.unanswering_bare
  told _ := ⟨rfl, rfl, rfl⟩
  attached _ := ⟨rfl, rfl, rfl⟩

/-- A chain of nodes that pass everything on does what its innermost node does, to requests of every
contract, to an identity and to a stack, if that one's plain statuses are those of its entries. A node
that has nothing to pass on to is the end of it. -/
theorem passing_is_transparent {τ α ν κ π ι : Type} (names : List String) (node : τ)
    (accounts : τ → Contract.accounts.Handler α) (inode : τ → Contract.inode.Handler ν)
    (catalog : τ → Contract.catalog.Handler κ) (pools : τ → Contract.pools.Handler π)
    (io : τ → Contract.io.Handler ι)
    (entries : Contract.inode.Derives (inode node))
    (paths : Contract.catalog.Derives (catalog node)) :
    ((Chain.passing names node).handler Decorator.overAccounts accounts = accounts node ∧
      (Chain.passing names node).handler Decorator.overInode inode = inode node ∧
      (∀ excluded, (Chain.passing names node).handler (Decorator.overCatalog excluded) catalog =
        catalog node) ∧
      (Chain.passing names node).handler Decorator.overPools pools = pools node ∧
      (Chain.passing names node).handler Decorator.overIo io = io node) ∧
    (∀ tellNode ctx, ((Chain.passing names node).tell tellNode ctx).map Chain.base =
      tellNode ctx node) ∧
    (∀ attachNode board, (Chain.passing names node).attach attachNode board =
      (attachNode board node).map fun (node, board) => (Chain.passing names node, board)) ∧
    ∀ name, PlainNode.Terminal { implId := name } := by
  have plain (h : Contract.catalog.Handler κ) (excluded : Exclusions) :
      ∀ d ∈ (Chain.passing names node).decorators,
        d.overCatalog excluded h = Contract.catalog.forward h := by
    intro d member
    obtain ⟨name, -, rfl⟩ := List.mem_map.1 member
    rfl
  refine ⟨⟨?_, ?_, fun excluded => ?_, ?_, ?_⟩, ?_, ?_, PlainNode.terminal⟩
  · exact Chain.handler_of_passed fun _ _ => rfl
  · exact Chain.handler_of_passed fun _ _ => Contract.inode.forward_eq_iff.2 entries
  · exact Chain.handler_of_passed fun d member =>
      (plain _ excluded d member).trans (Contract.catalog.forward_eq_iff.2 paths)
  · exact Chain.handler_of_passed fun d _ => d.overPools_eq _
  · refine Chain.handler_of_passed fun d member => ?_
    obtain ⟨name, -, rfl⟩ := List.mem_map.1 member
    rfl
  · exact fun tellNode ctx => Chain.tell_passing tellNode ctx names node
  · exact fun attachNode board => Chain.attach_passing attachNode board names node

/-- Two nodes around the tables in memory and the built-in catalog, which have an answer of their own to
every request for a status. -/
theorem status_through_two_nodes :
    (Chain.passing ["outer", "inner"] ()).handler Decorator.overInode (fun _ => Namespace.handler)
        (.stat 1) = Namespace.handler (.stat 1) ∧
      (Chain.passing ["outer", "inner"] ()).handler (Decorator.overCatalog {})
        (fun _ => BuiltIn.handler (some Namespace.handler)) (.stat "/") =
          BuiltIn.handler (some Namespace.handler) (.stat "/") := by
  obtain ⟨⟨-, inode, catalog, -⟩, -⟩ := passing_is_transparent ["outer", "inner"] ()
    (fun _ => AccountTable.handler) (fun _ => Namespace.handler)
    (fun _ => BuiltIn.handler (some Namespace.handler)) (fun _ => PoolTable.handler)
    (fun _ => IoNode.handler (.localFiles { settings := default }))
    Namespace.derives_handler (fun _ => rfl)
  exact ⟨congrFun inode _, congrFun (catalog {}) _⟩

/-- A catalog that has an answer to requests for a plain status and to no other. -/
def Contract.catalog.statusAlone : Contract.catalog.Handler Unit
  | .stat _ => pure { size := 7 }
  | r => throw (Contract.catalog.unanswered r)

/-- The status that such a catalog gives is lost behind a single node, which asks it for the whole entry. And
a node that has nothing to pass a request for a status on to refuses it by the name of that for the entry. -/
theorem status_lost_behind_node :
    Contract.catalog.statusAlone (.stat "/") () = .ok { size := 7 } () ∧
      (Chain.passing ["outer"] ()).handler (Decorator.overCatalog {})
        (fun _ => Contract.catalog.statusAlone) (.stat "/") () =
          .error (.notImplemented "Catalog::extended_stat") () ∧
      Site.catalogNodeHandler (.plain { implId := "outer" }) (.stat "/") ⟨{}, {}⟩ =
        .error (.notImplemented "Catalog::extended_stat") ⟨{}, {}⟩ :=
  ⟨rfl, rfl, rfl⟩

end Stowage
