import Stowage.Proofs.Views

/-! Requests that fail without a trace. The built-in catalog looks before it asks for a change, and asks for
one change at most; so does every decorator, for all it does is to ask what it wraps. A stack whose catalog
refuses a request is therefore left as it was, whatever the request and the chains are. -/
namespace Stowage

namespace BuiltIn

variable {ν : Type} {below : Below ν}

theorem failsClean_modify (f : Browsing ν → Browsing ν) :
    Action.FailsClean (modify f : Action (Browsing ν) Unit) :=
  fun _ _ _ failed => nomatch failed

/-- A namespace that refuses a request has changed nothing. -/
def BelowFailsClean (below : Below ν) : Prop :=
  ∀ inode, below = some inode → ∀ r, Action.FailsClean (inode r)

theorem belowFailsClean_namespace : BelowFailsClean (some Namespace.handler) := by
  rintro inode ⟨⟩ r
  exact Namespace.handler_failsClean r

section Requests

variable (reads : BelowReads below) (clean : BelowFailsClean below)

section Asking
include clean

theorem failsClean_ask (r : InodeRequest) : Action.FailsClean (ask below r) := by
  unfold ask
  split
  · rename_i inode
    exact (clean inode rfl r).zoom fun _ => rfl
  · exact (Action.reads_throw _).failsClean

end Asking

include reads clean

theorem failsClean_createEntry (path : String) (type mode : Mode) :
    Action.FailsClean (createEntry below path type mode) := by
  refine (Action.reads_query _).bind_failsClean fun path => reads_context.bind_failsClean fun ctx =>
    (reads_parentOf reads path).bind_failsClean fun held => ?_
  obtain ⟨parent, name⟩ := held
  refine (reads_require _ _ _).bind_failsClean fun _ =>
    (reads_ask reads rfl).attempt.bind_failsClean fun found => ?_
  have makes : Action.FailsClean (do
      let umask ← Action.query fun b => .ok b.session.umask
      let _ ← ask below (.create (template ctx umask parent name type mode))) :=
    (Action.reads_query _).bind_failsClean fun umask => (failsClean_ask clean _).bind_pure _
  cases found with
  | ok entry => exact (Action.reads_throw _).bind_failsClean fun _ => makes
  | error e => exact makes.guarded

/-- An owner is set by root as it likes, and by others after three checks. -/
theorem failsClean_setOwner (path : String) (uid gid : UInt32) :
    Action.FailsClean (setOwner below path uid gid) := by
  refine (Action.reads_query _).bind_failsClean fun path =>
    (reads_lookup reads path).bind_failsClean fun entry => reads_context.bind_failsClean fun ctx => ?_
  have sets := failsClean_ask clean (.setMode entry.stat.ino uid gid entry.stat.mode.perm entry.acl)
  split
  · exact .guarded (.guarded (.guarded sets))
  · exact sets

theorem failsClean_setSize (path : String) (size : Nat) :
    Action.FailsClean (setSize below path size) := by
  refine (Action.reads_query _).bind_failsClean fun path =>
    (reads_lookup reads path).bind_failsClean fun entry => .guarded ?_
  refine reads_context.bind_failsClean fun ctx => ?_
  have sizes := failsClean_ask clean (.setSize entry.stat.ino size)
  split
  · exact (reads_require _ _ _).bind_failsClean fun _ => sizes
  · exact sizes

/-- The catalog changes nothing where it fails, over a namespace of which the same is true. -/
theorem failsClean_handler (r : CatalogRequest) : Action.FailsClean (handler below r) := by
  cases r with
  | workingDir | entry | stat | access | replicas | readDir =>
    exact (reads_handler reads _ rfl).failsClean
  | changeDir path =>
    refine (Action.reads_query _).bind_failsClean fun path =>
      (reads_lookup reads path).bind_failsClean fun entry => .guarded ?_
    exact (reads_require _ _ _).bind_failsClean fun _ => failsClean_modify _
  | umask mask =>
    exact (Action.reads_query _).bind_failsClean fun _ => (failsClean_modify _).bind_pure _
  | setMode path mode =>
    refine (Action.reads_query _).bind_failsClean fun path =>
      (reads_lookup reads path).bind_failsClean fun entry => ?_
    exact (reads_requireOwner _ _).bind_failsClean fun _ => reads_context.bind_failsClean fun ctx =>
      failsClean_ask clean _
  | setOwner path uid gid => exact failsClean_setOwner reads clean path uid gid
  | setSize path size => exact failsClean_setSize reads clean path size
  | setAcl path acl =>
    refine (Action.reads_query _).bind_failsClean fun path =>
      (reads_lookup reads path).bind_failsClean fun entry => ?_
    have validates : Action.Reads (Action.ofExcept acl.validate : Action (Browsing ν) Unit) :=
      fun _ => ⟨_, rfl⟩
    exact (reads_requireOwner _ _).bind_failsClean fun _ => validates.bind_failsClean fun _ =>
      .guarded (failsClean_ask clean _)
  | addReplica record | deleteReplica record | updateReplica record =>
    exact (reads_requireReplica reads record).bind_failsClean fun _ => failsClean_ask clean _
  | create path mode | makeDir path mode => exact failsClean_createEntry reads clean path _ mode
  | unlink path =>
    refine (Action.reads_query _).bind_failsClean fun path =>
      (reads_removable reads path).bind_failsClean fun entry => ?_
    exact .guarded (failsClean_ask clean _)
  | removeDir path =>
    refine (Action.reads_query _).bind_failsClean fun path => .guarded ?_
    exact (reads_removable reads path).bind_failsClean fun entry => .guarded (failsClean_ask clean _)

end Requests

end BuiltIn

namespace Site

theorem failsClean_inodeHandler (chain : TableChain) (r : InodeRequest) :
    Action.FailsClean (inodeHandler chain r) := by
  obtain ⟨decorators, base⟩ := chain
  induction decorators generalizing r with
  | nil =>
    cases base with
    | memory id => exact (Namespace.handler_failsClean r).zoom (putNamespace_same id)
    | plain node => exact (Action.reads_throw _).failsClean
  | cons d rest ih =>
    cases r with
    | stat ino => exact (ih (.entry ino)).bind_pure _
    | statChild parent name => exact (ih (.child parent name)).bind_pure _
    | _ => exact ih _

theorem belowFailsClean (below : Option TableChain) :
    BuiltIn.BelowFailsClean (below.map inodeHandler) := by
  intro inode found
  obtain ⟨chain, -, rfl⟩ := Option.map_eq_some_iff.1 found
  exact failsClean_inodeHandler chain

/-- A decorator asks what it wraps, and after that nothing that can fail. -/
theorem failsClean_overCatalog {σ : Type} {h : Contract.catalog.Handler σ} (excluded : Exclusions)
    (d : Decorator) (clean : ∀ r, Action.FailsClean (h r)) (r : CatalogRequest) :
    Action.FailsClean (d.overCatalog excluded h r) := by
  have forward : Action.FailsClean (Contract.catalog.forward h r) := by
    cases r with
    | stat path => exact (clean (.entry path)).bind_pure Entry.stat
    | _ => exact clean _
  by_cases hides : d = .librarian true
  · subst hides
    cases r with
    | replicas path => exact (clean (.replicas path)).bind_pure _
    | _ => exact forward
  · rw [d.overCatalog_eq excluded hides]
    exact forward

theorem failsClean_catalogHandler (excluded : Exclusions) (chain : Chain CatalogNode)
    (r : CatalogRequest) : Action.FailsClean (catalogHandler excluded chain r) := by
  obtain ⟨decorators, base⟩ := chain
  induction decorators generalizing r with
  | nil =>
    cases base with
    | plain node => exact (Action.reads_throw _).failsClean
    | builtIn below session =>
      exact BuiltIn.failsClean_handler (belowReads below) (belowFailsClean below) r
  | cons d rest ih => exact failsClean_overCatalog excluded d ih r

end Site

namespace StackM

/-- A request that the catalog of a stack refuses leaves the stack and its site as they were. -/
theorem failsClean_catalog (r : CatalogRequest) : Action.FailsClean (catalog r) := by
  intro s e t failed
  cases wired : s.stack.catalog with
  | none =>
    rw [catalog_of_unwired wired] at failed
    cases failed
    rfl
  | some chain =>
    rw [catalog_apply wired] at failed
    cases run : Site.catalogHandler s.stack.excluded chain r ⟨chain.base.session, s.site⟩ with
    | ok answer after =>
      rw [run] at failed
      cases failed
    | error fault after =>
      rw [run] at failed
      cases failed
      rw [Site.failsClean_catalogHandler _ _ _ _ _ _ run, browsed_same wired]

end StackM
end Stowage
