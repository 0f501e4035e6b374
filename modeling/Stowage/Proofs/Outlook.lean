import Stowage.Proofs.NamespaceRuns
import Stowage.Proofs.Walks
import Stowage.Stack.Basic

/-! What a stack sees of a namespace. Requests pass through the decorators of two chains on their way
to the tables of a memory factory, and the session of the built-in catalog decides how far they get.
A request that only looks leaves stack and site as they were, whatever the chains are made of; a
stack that browses a namespace gives the answers of that namespace. -/
namespace Stowage

/-- The request only looks. -/
def CatalogRequest.looks : CatalogRequest → Bool
  | .workingDir | .entry _ | .stat _ | .access .. | .replicas _ | .readDir _ => true
  | .changeDir _ | .umask _ | .setMode .. | .setOwner .. | .setSize .. | .setAcl .. | .addReplica _
  | .deleteReplica _ | .updateReplica _ | .create .. | .makeDir .. | .unlink _
  | .removeDir _ => false

namespace Site

/-- The namespace among the tables of a memory factory. -/
def namespace_ (site : Site) (id : FactoryId) : Namespace :=
  (site.manager.memory id).namespace_

/-- The site with another namespace among the tables of a memory factory. -/
def putNamespace (id : FactoryId) (ns : Namespace) (site : Site) : Site :=
  { site with manager :=
      site.manager.setMemory id { site.manager.memory id with namespace_ := ns } }

theorem putNamespace_same (id : FactoryId) (site : Site) :
    site.putNamespace id (site.namespace_ id) = site := by
  unfold putNamespace namespace_
  rw [Manager.setMemory_memory]

theorem foldr_overInode {σ : Type} {r : InodeRequest}
    (passed : ∀ h : Contract.inode.Handler σ, Contract.inode.forward h r = h r)
    (decorators : List Decorator) (h : Contract.inode.Handler σ) :
    decorators.foldr Decorator.overInode h r = h r := by
  induction decorators with
  | nil => rfl
  | cons d rest ih =>
    rw [List.foldr_cons]
    exact (passed _).trans ih

/-- What decorators pass on reaches the namespace in memory. -/
theorem inodeHandler_memory {r : InodeRequest}
    (passed : ∀ h : Contract.inode.Handler Site, Contract.inode.forward h r = h r)
    (inner : List Decorator) (id : FactoryId) :
    inodeHandler ⟨inner, .memory id⟩ r =
      Action.zoom (namespace_ · id) (putNamespace id) (Namespace.handler r) :=
  foldr_overInode passed inner _

theorem inodeHandler_plain {r : InodeRequest}
    (passed : ∀ h : Contract.inode.Handler Site, Contract.inode.forward h r = h r)
    (inner : List Decorator) (node : PlainNode) :
    inodeHandler ⟨inner, .plain node⟩ r = throw (Contract.inode.unanswered r) :=
  foldr_overInode passed inner _

/-- A chain over a namespace in memory shows that namespace. -/
theorem shows_memory (inner : List Decorator) (id : FactoryId) :
    BuiltIn.Shows (inodeHandler ⟨inner, .memory id⟩) (namespace_ · id) where
  entry ino := by
    rw [inodeHandler_memory (fun _ => rfl)]
    exact Action.zoom_query (putNamespace_same id) _
  child parent name := by
    rw [inodeHandler_memory (fun _ => rfl)]
    exact Action.zoom_query (putNamespace_same id) _
  replicas ino := by
    rw [inodeHandler_memory (fun _ => rfl)]
    exact Action.zoom_query (putNamespace_same id) _

theorem reads_forward {σ : Type} {h : Contract.inode.Handler σ}
    (reads : ∀ r : InodeRequest, r.looks = true → Action.Reads (h r)) (r : InodeRequest)
    (looks : r.looks = true) : Action.Reads (Contract.inode.forward h r) := by
  cases r with
  | stat ino => exact (reads (.entry ino) rfl).bind fun _ => Action.reads_pure _
  | statChild parent name => exact (reads (.child parent name) rfl).bind fun _ => Action.reads_pure _
  | entry | child | readDir | replicas | replica => exact reads _ rfl
  | create | unlink | addReplica | deleteReplica | updateReplica | setMode | setSize => cases looks

theorem reads_inodeHandler (chain : TableChain) (r : InodeRequest) (looks : r.looks = true) :
    Action.Reads (inodeHandler chain r) := by
  obtain ⟨decorators, base⟩ := chain
  have bottom : ∀ r : InodeRequest, r.looks = true →
      Action.Reads (inodeHandler ⟨[], base⟩ r) := by
    intro r looks
    cases base with
    | memory id => exact (Namespace.reads_handler looks).zoom (putNamespace_same id)
    | plain node => exact Action.reads_throw _
  induction decorators generalizing r with
  | nil => exact bottom r looks
  | cons d rest ih => exact reads_forward (fun r looks => ih r looks) r looks

end Site

namespace BuiltIn

variable {ν : Type} {below : Below ν}

/-- The namespace under a catalog, if there is one, is left alone by requests that only look. -/
def BelowReads (below : Below ν) : Prop :=
  ∀ inode, below = some inode → ∀ r : InodeRequest, r.looks = true → Action.Reads (inode r)

theorem belowReads_namespace : BelowReads (some Namespace.handler) := by
  rintro inode ⟨⟩ r looks
  exact Namespace.reads_handler looks

theorem reads_ask (reads : BelowReads below) {r : InodeRequest} (looks : r.looks = true) :
    Action.Reads (ask below r) := by
  unfold ask
  split
  · exact (reads _ rfl r looks).zoom fun _ => rfl
  · exact Action.reads_throw _

theorem reads_context : Action.Reads (context (ν := ν)) :=
  Action.reads_query _

theorem reads_require (entry : Entry) (requested : Mode) (what : String) :
    Action.Reads (require (ν := ν) entry requested what) := by
  apply reads_context.bind
  intro ctx
  split
  · exact Action.reads_throw _
  · exact Action.reads_pure _

theorem reads_requireOwner (entry : Entry) (what : String) :
    Action.Reads (requireOwner (ν := ν) entry what) := by
  apply reads_context.bind
  intro ctx
  split
  · exact Action.reads_throw _
  · exact Action.reads_pure _

theorem reads_childOr (reads : BelowReads below) (path : String) (parent : Nat) (name : String) :
    Action.Reads (childOr below path parent name) := by
  apply (reads_ask reads rfl).attempt.bind
  intro result
  cases result with
  | ok entry => exact Action.reads_pure _
  | error e => exact Action.reads_throw _

theorem reads_descend (reads : BelowReads below) (ctx : SecurityContext) (path : String)
    (walked names : List String) (current : Entry) :
    Action.Reads (descend below ctx path walked current names) := by
  induction names generalizing walked current with
  | nil => exact Action.reads_pure _
  | cons name rest ih =>
    have next := (reads_childOr reads path current.stat.ino name).bind fun entry =>
      ih (walked ++ [name]) entry
    unfold descend
    exact (next.guarded).guarded

theorem reads_lookup (reads : BelowReads below) (path : String) :
    Action.Reads (lookup below path) := by
  refine reads_context.bind fun ctx => (reads_ask reads rfl).bind fun root => ?_
  exact reads_descend reads ctx path [] _ root

theorem reads_parentOf (reads : BelowReads below) (path : String) :
    Action.Reads (parentOf below path) := by
  unfold parentOf
  dsimp only
  split
  · exact (reads_lookup reads _).bind fun parent => (Action.reads_pure _).guarded
  · exact Action.reads_throw _

theorem reads_removable (reads : BelowReads below) (path : String) :
    Action.Reads (removable below path) := by
  refine reads_context.bind fun ctx => (reads_parentOf reads path).bind fun held => ?_
  obtain ⟨parent, name⟩ := held
  refine (reads_require parent _ path).bind fun _ => ?_
  exact (reads_childOr reads path _ name).bind fun entry => (Action.reads_pure _).guarded

theorem reads_requireReplica (reads : BelowReads below) (record : Replica) :
    Action.Reads (requireReplica below record) :=
  (reads_ask reads rfl).bind fun entry => reads_require entry _ _

/-- A request that only looks leaves session and namespace as they were. -/
theorem reads_handler (reads : BelowReads below) (r : CatalogRequest) (looks : r.looks = true) :
    Action.Reads (handler below r) := by
  cases r with
  | workingDir => exact Action.reads_query _
  | entry path => exact (Action.reads_query _).bind fun _ => reads_lookup reads _
  | stat path =>
    exact ((Action.reads_query _).bind fun _ => reads_lookup reads _).bind fun _ =>
      Action.reads_pure _
  | access path requested =>
    refine (Action.reads_query _).bind fun path => (reads_lookup reads path).bind fun entry => ?_
    split
    · exact Action.reads_pure _
    · exact reads_context.bind fun _ => Action.reads_pure _
  | replicas path =>
    refine (Action.reads_query _).bind fun path => (reads_lookup reads path).bind fun entry => ?_
    have rows := (reads_require entry Mode.read path).bind fun _ =>
      reads_ask reads (r := .replicas entry.stat.ino) rfl
    exact rows.guarded
  | readDir path =>
    refine (Action.reads_query _).bind fun path => (reads_lookup reads path).bind fun entry => ?_
    have listing := (reads_require entry (Mode.read ||| Mode.search) path).bind fun _ =>
      reads_ask reads (r := .readDir entry.stat.ino) rfl
    exact listing.guarded
  | changeDir | umask | setMode | setOwner | setSize | setAcl | addReplica | deleteReplica
  | updateReplica | create | makeDir | unlink | removeDir => cases looks

end BuiltIn

namespace Site

theorem reads_catalogForward {σ : Type} {h : Contract.catalog.Handler σ}
    (reads : ∀ r : CatalogRequest, r.looks = true → Action.Reads (h r)) (r : CatalogRequest)
    (looks : r.looks = true) : Action.Reads (Contract.catalog.forward h r) := by
  cases r with
  | stat path => exact (reads (.entry path) rfl).bind fun _ => Action.reads_pure _
  | workingDir | entry | access | replicas | readDir => exact reads _ rfl
  | changeDir | umask | setMode | setOwner | setSize | setAcl | addReplica | deleteReplica
  | updateReplica | create | makeDir | unlink | removeDir => cases looks

theorem reads_hideIn {σ : Type} {h : Contract.catalog.Handler σ} (excluded : Exclusions)
    (reads : ∀ r : CatalogRequest, r.looks = true → Action.Reads (h r)) (r : CatalogRequest)
    (looks : r.looks = true) : Action.Reads (excluded.hideIn h r) := by
  cases r with
  | replicas path => exact (reads (.replicas path) rfl).bind fun _ => Action.reads_pure _
  | workingDir | entry | stat | access | readDir => exact reads_catalogForward reads _ rfl
  | changeDir | umask | setMode | setOwner | setSize | setAcl | addReplica | deleteReplica
  | updateReplica | create | makeDir | unlink | removeDir => cases looks

theorem belowReads (below : Option TableChain) : BuiltIn.BelowReads (below.map inodeHandler) := by
  intro inode found
  obtain ⟨chain, -, rfl⟩ := Option.map_eq_some_iff.1 found
  exact reads_inodeHandler chain

theorem reads_catalogNodeHandler (node : CatalogNode) (r : CatalogRequest)
    (looks : r.looks = true) : Action.Reads (catalogNodeHandler node r) := by
  cases node with
  | plain node => exact Action.reads_throw _
  | builtIn below session => exact BuiltIn.reads_handler (belowReads below) r looks

theorem reads_catalogHandler (excluded : Exclusions) (chain : Chain CatalogNode)
    (r : CatalogRequest) (looks : r.looks = true) :
    Action.Reads (catalogHandler excluded chain r) := by
  obtain ⟨decorators, base⟩ := chain
  induction decorators generalizing r with
  | nil => exact reads_catalogNodeHandler base r looks
  | cons d rest ih =>
    have inner : ∀ r : CatalogRequest, r.looks = true →
        Action.Reads (catalogHandler excluded ⟨rest, base⟩ r) := fun r looks => ih r looks
    change Action.Reads (d.overCatalog excluded (catalogHandler excluded ⟨rest, base⟩) r)
    by_cases hides : d = .librarian true
    · subst hides
      exact reads_hideIn excluded inner r looks
    · rw [d.overCatalog_eq excluded hides]
      exact reads_catalogForward inner r looks

end Site

namespace CatalogNode

theorem withSession_session (node : CatalogNode) : node.withSession node.session = node := by
  cases node <;> rfl

end CatalogNode

namespace StackM

theorem need_of_some {α : Type} {kind : ContractKind} {part : Stack → Option α} {a : α}
    {s : OnSite} (found : part s.stack = some a) : need kind part s = .ok a s := by
  unfold need Action.query
  simp only [found]
  rfl

theorem need_of_none {α : Type} {kind : ContractKind} {part : Stack → Option α} {s : OnSite}
    (absent : part s.stack = none) : need kind part s = .error (.noFactory kind) s := by
  unfold need Action.query
  simp only [absent]
  rfl

/-- The stack after its catalog has been asked: it keeps the session and the site that the chain left. -/
def browsed (s : OnSite) (chain : Chain CatalogNode) (b : Browsing Site) : OnSite :=
  ⟨{ s.stack with catalog := some { chain with base := chain.base.withSession b.session } }, b.store⟩

theorem browsed_same {s : OnSite} {chain : Chain CatalogNode}
    (wired : s.stack.catalog = some chain) :
    browsed s chain ⟨chain.base.session, s.site⟩ = s := by
  unfold browsed
  rw [CatalogNode.withSession_session, ← wired]

/-- The answers of a stack are those of its chain. -/
theorem catalog_apply {s : OnSite} {chain : Chain CatalogNode}
    (wired : s.stack.catalog = some chain) (r : CatalogRequest) :
    catalog r s =
      match Site.catalogHandler s.stack.excluded chain r ⟨chain.base.session, s.site⟩ with
      | .ok a b => .ok a (browsed s chain b)
      | .error e b => .error e (browsed s chain b) := by
  refine (Action.bind_of_ok (need_of_some wired)).trans ?_
  unfold Site.askCatalog Action.zoom
  dsimp only
  cases Site.catalogHandler s.stack.excluded chain r ⟨chain.base.session, s.site⟩ <;> rfl

theorem outcome_catalog {s : OnSite} {chain : Chain CatalogNode}
    (wired : s.stack.catalog = some chain) (r : CatalogRequest) :
    (catalog r).outcome s =
      (((Site.catalogHandler s.stack.excluded chain r).outcome ⟨chain.base.session, s.site⟩).1,
        browsed s chain
          ((Site.catalogHandler s.stack.excluded chain r).outcome ⟨chain.base.session, s.site⟩).2) := by
  unfold Action.outcome
  rw [catalog_apply wired]
  cases Site.catalogHandler s.stack.excluded chain r ⟨chain.base.session, s.site⟩ <;> rfl

theorem catalog_of_unwired {s : OnSite} (unwired : s.stack.catalog = none) (r : CatalogRequest) :
    catalog r s = .error (.noFactory .catalog) s :=
  Action.bind_of_error (need_of_none unwired)

/-- What the chain answers to a request that leaves it alone, the stack answers. -/
theorem catalog_of_answer {s : OnSite} {chain : Chain CatalogNode}
    (wired : s.stack.catalog = some chain) {r : CatalogRequest} {answer : Except Error r.Answer}
    (run : Site.catalogHandler s.stack.excluded chain r ⟨chain.base.session, s.site⟩ =
      Action.ofExcept answer ⟨chain.base.session, s.site⟩) :
    catalog r s = Action.ofExcept answer s := by
  rw [catalog_apply wired, run]
  cases answer with
  | ok a => simp only [Action.ofExcept_ok, browsed_same wired]
  | error e => simp only [Action.ofExcept_error, browsed_same wired]

/-- What the stack answers, its chain answered. -/
theorem catalog_eq_ok {r : CatalogRequest} {a : r.Answer} {s t : OnSite}
    (done : catalog r s = .ok a t) :
    ∃ chain after, s.stack.catalog = some chain ∧
      Site.catalogHandler s.stack.excluded chain r ⟨chain.base.session, s.site⟩ = .ok a after ∧
      t = browsed s chain after := by
  cases wired : s.stack.catalog with
  | none =>
    rw [catalog_of_unwired wired] at done
    cases done
  | some chain =>
    rw [catalog_apply wired] at done
    cases run : Site.catalogHandler s.stack.excluded chain r ⟨chain.base.session, s.site⟩ with
    | ok answer after =>
      rw [run] at done
      cases done
      exact ⟨chain, after, rfl, run, rfl⟩
    | error e after =>
      rw [run] at done
      cases done

/-- A catalog request that only looks leaves stack and site as they were. -/
theorem reads_catalog {r : CatalogRequest} (looks : r.looks = true) :
    Action.Reads (catalog r) := by
  intro s
  cases wired : s.stack.catalog with
  | none => exact ⟨.error (.noFactory .catalog), catalog_of_unwired wired r⟩
  | some chain =>
    obtain ⟨answer, run⟩ :=
      Site.reads_catalogHandler s.stack.excluded chain r looks ⟨chain.base.session, s.site⟩
    exact ⟨answer, catalog_of_answer wired run⟩

end StackM
end Stowage
