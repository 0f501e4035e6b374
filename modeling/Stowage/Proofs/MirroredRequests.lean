import Stowage.Proofs.Mirrors
import Stowage.Proofs.Transparency

/-! Requests seen through a view. A handler is mirrored by another one if every request is; decorators
keep that up, and so does the built-in catalog over a namespace that is mirrored, with every check that
it makes on the way. -/
namespace Stowage

variable {σ τ : Type} {view : σ → τ}

/-- From the view of a state, the image answers every request as the handler does. -/
def Contract.Mirrors (C : Contract) (view : σ → τ) (h : C.Handler σ) (image : C.Handler τ) : Prop :=
  ∀ r, Action.Mirrors view (h r) (image r)

/-! ### Decorators -/

theorem Contract.inode.mirrors_forward {h : Contract.inode.Handler σ}
    {image : Contract.inode.Handler τ} (mirrors : Contract.inode.Mirrors view h image) :
    Contract.inode.Mirrors view (Contract.inode.forward h) (Contract.inode.forward image) := by
  intro r
  cases r with
  | stat ino => exact (mirrors (.entry ino)).bind fun _ => Action.mirrors_pure _
  | statChild parent name => exact (mirrors (.child parent name)).bind fun _ => Action.mirrors_pure _
  | _ => exact mirrors _

theorem Contract.catalog.mirrors_forward {h : Contract.catalog.Handler σ}
    {image : Contract.catalog.Handler τ} (mirrors : Contract.catalog.Mirrors view h image) :
    Contract.catalog.Mirrors view (Contract.catalog.forward h) (Contract.catalog.forward image) := by
  intro r
  cases r with
  | stat path => exact (mirrors (.entry path)).bind fun _ => Action.mirrors_pure _
  | _ => exact mirrors _

theorem Decorator.mirrors_overCatalog (excluded : Exclusions) (d : Decorator)
    {h : Contract.catalog.Handler σ} {image : Contract.catalog.Handler τ}
    (mirrors : Contract.catalog.Mirrors view h image) :
    Contract.catalog.Mirrors view (d.overCatalog excluded h) (d.overCatalog excluded image) := by
  have forwards := Contract.catalog.mirrors_forward mirrors
  by_cases hides : d = .librarian true
  · subst hides
    intro r
    cases r with
    | replicas path => exact (mirrors (.replicas path)).bind fun _ => Action.mirrors_pure _
    | _ => exact forwards _
  · rw [d.overCatalog_eq excluded hides, d.overCatalog_eq excluded hides]
    exact forwards

/-! ### The built-in catalog -/

/-- A session over another view of the store. -/
def Browsing.over {ν μ : Type} (view : ν → μ) (b : Browsing ν) : Browsing μ :=
  ⟨b.session, view b.store⟩

namespace BuiltIn

open Stowage.Action

variable {ν μ : Type} {view : ν → μ}

/-- There is a namespace on both sides, the one mirrored by the other, or none on either. -/
def Below.Mirrors (view : ν → μ) : Below ν → Below μ → Prop
  | some inode, some image => Contract.inode.Mirrors view inode image
  | none, none => True
  | _, _ => False

section Requests

variable {below : Below ν} {image : Below μ} (mirrors : Below.Mirrors view below image)
include mirrors

theorem mirrors_ask (r : InodeRequest) :
    Action.Mirrors (Browsing.over view) (ask below r) (ask image r) := by
  match below, image, mirrors with
  | none, none, _ => exact mirrors_throw _
  | some inode, some image, mirrors =>
    exact (mirrors r).zoom (fun _ => rfl) fun _ _ => rfl

omit mirrors in
theorem mirrors_context : Action.Mirrors (Browsing.over view) context context :=
  mirrors_query fun _ => rfl

omit mirrors in
theorem mirrors_absolute (path : String) :
    Action.Mirrors (Browsing.over view) (absolute path) (absolute path) :=
  mirrors_query fun _ => rfl

omit mirrors in
theorem mirrors_require (entry : Entry) (requested : Mode) (what : String) :
    Action.Mirrors (Browsing.over view) (require entry requested what)
      (require entry requested what) :=
  mirrors_context.bind fun _ => .ite (mirrors_throw _) (mirrors_pure _)

omit mirrors in
theorem mirrors_requireOwner (entry : Entry) (what : String) :
    Action.Mirrors (Browsing.over view) (requireOwner entry what) (requireOwner entry what) :=
  mirrors_context.bind fun _ => .ite (mirrors_throw _) (mirrors_pure _)

theorem mirrors_childOr (path : String) (parent : Nat) (name : String) :
    Action.Mirrors (Browsing.over view) (childOr below path parent name)
      (childOr image path parent name) := by
  refine (mirrors_ask mirrors (.child parent name)).attempt.bind fun found => ?_
  cases found with
  | ok entry => exact mirrors_pure _
  | error e => exact mirrors_throw _

theorem mirrors_descend (ctx : SecurityContext) (path : String) (names walked : List String)
    (current : Entry) :
    Action.Mirrors (Browsing.over view) (descend below ctx path walked current names)
      (descend image ctx path walked current names) := by
  induction names generalizing walked current with
  | nil => exact mirrors_pure _
  | cons name rest ih =>
    refine .guarded (.guarded ?_)
    exact (mirrors_childOr mirrors path current.stat.ino name).bind fun next => ih _ next

theorem mirrors_lookup (path : String) :
    Action.Mirrors (Browsing.over view) (lookup below path) (lookup image path) :=
  mirrors_context.bind fun ctx => (mirrors_ask mirrors (.child 0 "/")).bind fun root =>
    mirrors_descend mirrors ctx path _ _ root

theorem mirrors_parentOf (path : String) :
    Action.Mirrors (Browsing.over view) (parentOf below path) (parentOf image path) := by
  unfold parentOf
  obtain ⟨parentPath, name?⟩ := Path.parentAndName path
  cases name? with
  | none => exact mirrors_throw _
  | some name =>
    exact (mirrors_lookup mirrors parentPath).bind fun parent => .guarded (mirrors_pure _)

theorem mirrors_createEntry (path : String) (type mode : Mode) :
    Action.Mirrors (Browsing.over view) (createEntry below path type mode)
      (createEntry image path type mode) := by
  refine (mirrors_absolute path).bind fun path => mirrors_context.bind fun ctx =>
    (mirrors_parentOf mirrors path).bind fun held => ?_
  obtain ⟨parent, name⟩ := held
  refine (mirrors_require _ _ _).bind fun _ =>
    (mirrors_ask mirrors (.child parent.stat.ino name)).attempt.bind fun found => ?_
  cases found with
  | ok entry => exact mirrors_throw _
  | error e =>
    refine .guarded ((mirrors_query fun _ => rfl).bind fun umask => ?_)
    exact (mirrors_ask mirrors _).bind fun _ => mirrors_pure _

theorem mirrors_removable (path : String) :
    Action.Mirrors (Browsing.over view) (removable below path) (removable image path) := by
  refine mirrors_context.bind fun ctx => (mirrors_parentOf mirrors path).bind fun held => ?_
  obtain ⟨parent, name⟩ := held
  refine (mirrors_require _ _ _).bind fun _ => (mirrors_childOr mirrors path _ name).bind fun _ => ?_
  exact .guarded (mirrors_pure _)

theorem mirrors_requireReplica (row : Replica) :
    Action.Mirrors (Browsing.over view) (requireReplica below row) (requireReplica image row) :=
  (mirrors_ask mirrors (.entry row.file)).bind fun _ => mirrors_require _ _ _

theorem mirrors_setOwner (path : String) (uid gid : UInt32) :
    Action.Mirrors (Browsing.over view) (setOwner below path uid gid) (setOwner image path uid gid) := by
  refine (mirrors_absolute path).bind fun path => (mirrors_lookup mirrors path).bind fun entry =>
    mirrors_context.bind fun ctx => ?_
  have sets := mirrors_ask mirrors (.setMode entry.stat.ino uid gid entry.stat.mode.perm entry.acl)
  exact .ite (.guarded (.guarded (.guarded sets))) sets

/-- The catalog answers over what mirrors its namespace as it does over its namespace. -/
theorem mirrors_handler :
    Contract.catalog.Mirrors (Browsing.over view) (handler below) (handler image) := by
  have found (path : String) : Action.Mirrors (Browsing.over view) (entryAt below path)
      (entryAt image path) := (mirrors_absolute path).bind fun path => mirrors_lookup mirrors path
  intro r
  cases r with
  | changeDir path =>
    refine (mirrors_absolute path).bind fun path => (mirrors_lookup mirrors path).bind fun _ => ?_
    exact .guarded ((mirrors_require _ _ _).bind fun _ => mirrors_modify fun _ => rfl)
  | workingDir => exact mirrors_query fun _ => rfl
  | umask mask =>
    refine (mirrors_query fun _ => rfl).bind fun _ => .bind ?_ fun _ => mirrors_pure _
    exact mirrors_modify fun _ => rfl
  | entry path => exact found path
  | stat path => exact (found path).bind fun _ => mirrors_pure _
  | access path requested =>
    refine (mirrors_absolute path).bind fun path => (mirrors_lookup mirrors path).bind fun _ => ?_
    exact .ite (mirrors_pure _) (mirrors_context.bind fun _ => mirrors_pure _)
  | setMode path mode =>
    refine (mirrors_absolute path).bind fun path => (mirrors_lookup mirrors path).bind fun _ => ?_
    exact (mirrors_requireOwner _ _).bind fun _ => mirrors_context.bind fun _ => mirrors_ask mirrors _
  | setOwner path uid gid => exact mirrors_setOwner mirrors path uid gid
  | setSize path size =>
    refine (mirrors_absolute path).bind fun path => (mirrors_lookup mirrors path).bind fun _ => ?_
    refine .guarded (mirrors_context.bind fun _ => .ite ?_ (mirrors_ask mirrors _))
    exact (mirrors_require _ _ _).bind fun _ => mirrors_ask mirrors _
  | setAcl path acl =>
    refine (mirrors_absolute path).bind fun path => (mirrors_lookup mirrors path).bind fun _ => ?_
    refine (mirrors_requireOwner _ _).bind fun _ => (mirrors_ofExcept _).bind fun _ => ?_
    exact .guarded (mirrors_ask mirrors _)
  | replicas path =>
    refine (mirrors_absolute path).bind fun path => (mirrors_lookup mirrors path).bind fun _ => ?_
    exact .guarded ((mirrors_require _ _ _).bind fun _ => mirrors_ask mirrors _)
  | addReplica row | deleteReplica row | updateReplica row =>
    exact (mirrors_requireReplica mirrors row).bind fun _ => mirrors_ask mirrors _
  | create path mode | makeDir path mode => exact mirrors_createEntry mirrors path _ mode
  | unlink path =>
    refine (mirrors_absolute path).bind fun path => (mirrors_removable mirrors path).bind fun _ => ?_
    exact .guarded (mirrors_ask mirrors _)
  | removeDir path =>
    refine (mirrors_absolute path).bind fun path => .guarded ?_
    exact (mirrors_removable mirrors path).bind fun _ => .guarded (mirrors_ask mirrors _)
  | readDir path =>
    refine (mirrors_absolute path).bind fun path => (mirrors_lookup mirrors path).bind fun _ => ?_
    exact .guarded ((mirrors_require _ _ _).bind fun _ => mirrors_ask mirrors _)

end Requests

end BuiltIn
end Stowage
