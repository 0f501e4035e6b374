import Stowage.Proofs.CatalogFailures
import Stowage.Proofs.Creation
import Stowage.Proofs.GrantedRequests
import Stowage.Proofs.ReplicaRights

/-! What a banned identity can do. No entry permits it anything, so every walk that goes further than the
root is refused there, and so is every request that asks an entry for permission. Who owns an entry is
asked without regard to that: an identity that owns the root can still restyle the root, and that is the
only change it can make. -/
namespace Stowage

/-- The path of a request that takes one. -/
def CatalogRequest.path? : CatalogRequest → Option String
  | .changeDir path | .entry path | .stat path | .access path _ | .setMode path _
  | .setOwner path _ _ | .setSize path _ | .setAcl path _ | .replicas path | .create path _
  | .makeDir path _ | .unlink path | .removeDir path | .readDir path => some path
  | .workingDir | .umask _ | .addReplica _ | .deleteReplica _ | .updateReplica _ => none

/-- A normal path without components is that of the root. -/
theorem Path.split_absolute_eq_nil_iff {cwd path : String} :
    split (absolute cwd path) = [] ↔ absolute cwd path = "/" := by
  obtain ⟨components, all, same⟩ := absolute_eq_join cwd path
  rw [same, split_join all]
  constructor
  · rintro rfl
    rfl
  · intro top
    rw [← split_join all, top]
    decide +kernel

theorem Path.absolute_root (cwd : String) : absolute cwd "/" = "/" := by
  unfold absolute
  rw [if_pos (by decide +kernel)]
  decide +kernel

/-- Permission bits that are put in the place of others can be read back. -/
theorem Mode.perm_replaced (mode bits : Mode) :
    ((mode &&& typeMask) ||| bits.perm).perm = bits.perm := by
  have apart : typeMask.toNat &&& permMask.toNat = 0 := by decide
  apply UInt32.toNat_inj.1
  simp only [perm, UInt32.toNat_and, UInt32.toNat_or]
  rw [Nat.and_or_distrib_right, Nat.and_assoc, apart, Nat.and_zero, Nat.zero_or, Nat.and_assoc,
    Nat.and_self]

namespace Action

variable {σ α β : Type} {act : Action σ α} {s : σ}

/-- The action fails for want of permission, and leaves the state as it was. -/
def Denied (act : Action σ α) (s : σ) : Prop :=
  ∃ e, act s = .error e s ∧ e.kind = .permissionDenied

theorem Denied.bind {next : α → Action σ β} (denied : Denied act s) : Denied (act >>= next) s := by
  obtain ⟨e, failed, kind⟩ := denied
  exact ⟨e, bind_of_error failed, kind⟩

theorem denied_after {next : α → Action σ β} {a : α} (done : act s = .ok a s)
    (rest : Denied (next a) s) : Denied (act >>= next) s := by
  obtain ⟨e, failed, kind⟩ := rest
  exact ⟨e, (bind_of_ok done).trans failed, kind⟩

end Action

section Banned

variable {ctx : SecurityContext} (common : ctx.isRoot = false) (banned : ctx.isBanned = true)
include common banned

/-- No entry permits a banned identity anything, whoever owns it. -/
theorem Entry.permits_of_banned (entry : Entry) (requested : Mode) :
    entry.permits ctx requested = false := by
  simp [Entry.permits, Permission.permits, common, banned]

namespace Namespace

variable {ns : Namespace} {names : List String} {path : String} {entry : Entry}

/-- A banned identity comes as far as the root. -/
theorem reaches_of_banned (reaches : ns.Reaches ctx names entry) :
    names = [] ∧ ns.child rootParent "/" = .ok entry := by
  obtain ⟨root, top, opens⟩ := reaches
  cases opens with
  | here => exact ⟨rfl, top⟩
  | down _ searchable =>
    rw [root.permits_of_banned common banned] at searchable
    cases searchable

/-- At the root every walk further down is refused. -/
theorem find_of_banned (tree : ns.Tree) (below : Path.split path ≠ []) :
    ∃ e, ns.find ctx path = .error e ∧ e.kind = .permissionDenied := by
  obtain ⟨root, top, -, -, directory⟩ := tree.child_root
  unfold find
  rw [top]
  cases split : Path.split path with
  | nil => exact absurd split below
  | cons name rest =>
    simp only [bind, Except.bind, descend, directory, root.permits_of_banned common banned]
    exact ⟨_, rfl, rfl⟩

end Namespace

end Banned

namespace BuiltIn

open Stowage.Action

/-- The session is that of a banned identity other than root. -/
structure Barred (ctx : SecurityContext) (b : Browsing Namespace) : Prop where
  known : b.session.security = some ctx
  common : ctx.isRoot = false
  banned : ctx.isBanned = true
  tree : b.store.Tree

section Denials

variable {α : Type} {ctx : SecurityContext} {b : Browsing Namespace} {path : String}

/-- A request begins with the normal form of its path. -/
theorem denied_after_absolute {next : String → Action (Browsing Namespace) α}
    (rest : Denied (next (Path.absolute b.session.workingDir path)) b) :
    Denied (absolute path >>= next) b :=
  denied_after rfl rest

variable (barred : Barred ctx b)
include barred

theorem denied_after_context {next : SecurityContext → Action (Browsing Namespace) α}
    (rest : Denied (next ctx) b) : Denied (context >>= next) b :=
  denied_after (context_eq_ok_iff.2 ⟨barred.known, rfl⟩) rest

theorem require_denied (entry : Entry) (requested : Mode) (what : String) :
    Denied (require entry requested what) b := by
  refine denied_after_context barred ?_
  rw [if_pos (by simp [entry.permits_of_banned barred.common barred.banned])]
  exact ⟨_, rfl, rfl⟩

theorem lookup_denied (below : Path.split path ≠ []) :
    Denied (lookup (some Namespace.handler) path) b := by
  obtain ⟨e, failed, kind⟩ := Namespace.find_of_banned barred.common barred.banned barred.tree below
  refine ⟨e, ?_, kind⟩
  rw [lookup_apply shows_namespace path b barred.known]
  exact congrArg (ofExcept · b) failed

/-- The directory of a path is the root or out of reach, and what follows asks it for permission. -/
theorem parentOf_denied {next : Entry × String → Action (Browsing Namespace) α}
    (below : Path.split path ≠ []) (rest : ∀ parent name, Denied (next (parent, name)) b) :
    Denied (parentOf (some Namespace.handler) path >>= next) b := by
  obtain ⟨front, name, split⟩ : ∃ front name, Path.split path = front ++ [name] :=
    ⟨_, _, (List.dropLast_concat_getLast below).symm⟩
  by_cases short : front = []
  · obtain ⟨root, top, -, -, directory⟩ := barred.tree.child_root
    rw [short] at split
    exact denied_after (parentOf_of_reaches shows_namespace barred.known split
      ⟨root, top, .here root⟩ directory) (rest root name)
  · have components : ∀ part ∈ front, Path.IsComponent part := fun part member =>
      Path.isComponent_of_mem_split (split ▸ List.mem_append_left _ member)
    have refused : Denied (lookup (some Namespace.handler) (Path.join front)) b :=
      lookup_denied barred (by rwa [Path.split_join components])
    unfold parentOf Path.parentAndName
    simp only [split, List.dropLast_concat, List.getLast?_concat]
    exact refused.bind.bind

theorem createEntry_denied {type mode : Mode}
    (below : Path.split (Path.absolute b.session.workingDir path) ≠ []) :
    Denied (createEntry (some Namespace.handler) path type mode) b :=
  denied_after_absolute (denied_after_context barred
    (parentOf_denied barred below fun parent _ => (require_denied barred parent _ _).bind))

theorem removable_denied (below : Path.split path ≠ []) :
    Denied (removable (some Namespace.handler) path) b :=
  denied_after_context barred
    (parentOf_denied barred below fun parent _ => (require_denied barred parent _ _).bind)

/-- Whatever is asked of a path other than the root's is denied to a banned identity. -/
theorem handler_denied {r : CatalogRequest} (asked : r.path? = some path)
    (below : Path.absolute b.session.workingDir path ≠ "/") :
    Denied (handler (some Namespace.handler) r) b := by
  have deep : Path.split (Path.absolute b.session.workingDir path) ≠ [] :=
    fun empty => below (Path.split_absolute_eq_nil_iff.1 empty)
  have missed := lookup_denied barred deep
  cases r with
  | workingDir | umask | addReplica | deleteReplica | updateReplica => cases asked
  | entry => cases asked; exact denied_after_absolute missed
  | stat => cases asked; exact Denied.bind (denied_after_absolute missed)
  | changeDir | access | setMode | setOwner | setSize | setAcl | replicas | readDir =>
    cases asked
    exact denied_after_absolute missed.bind
  | create | makeDir => cases asked; exact createEntry_denied barred deep
  | unlink => cases asked; exact denied_after_absolute (removable_denied barred deep).bind
  | removeDir =>
    cases asked
    refine denied_after_absolute ?_
    rw [if_neg below]
    exact (removable_denied barred deep).bind

end Denials

/-- The namespace that a request leaves, whether it succeeds or fails. -/
def left (r : CatalogRequest) (b : Browsing Namespace) : Namespace :=
  ((handler (some Namespace.handler) r).outcome b).2.store

/-- The request gives the root another group, other bits or another list, for an identity that owns it. -/
def RestylesRoot (ctx : SecurityContext) (r : CatalogRequest) (b : Browsing Namespace) : Prop :=
  ∃ path root gid mode acl, r.restyles = some path ∧
    Path.absolute b.session.workingDir path = "/" ∧
    b.store.entries.get? Namespace.rootIno = some root ∧ ctx.uid = root.stat.uid ∧
    left r b = b.store.store Namespace.rootIno { root with acl, stat := { root.stat with gid, mode } }

section Changes

variable {ctx : SecurityContext} {b : Browsing Namespace} (barred : Barred ctx b)
include barred

/-- A banned identity that changes something restyles the root. -/
theorem restylesRoot_of_changed {r : CatalogRequest} (changed : left r b ≠ b.store) :
    RestylesRoot ctx r b := by
  cases run : handler (some Namespace.handler) r b with
  | error e after =>
    have same := failsClean_handler belowReads_namespace belowFailsClean_namespace r b e after run
    rw [left, Action.outcome_of_error run, same] at changed
    exact absurd rfl changed
  | ok answer after =>
    have there : left r b = after.store := by rw [left, Action.outcome_of_ok run]
    rw [there] at changed
    have permits := fun entry : Entry => entry.permits_of_banned barred.common barred.banned
    obtain ⟨root, top, stored, number, directory⟩ := barred.tree.child_root
    cases granted_of_ok barred.known barred.tree barred.common run with
    | looked same => exact absurd same changed
    | made parent _ _ _ writable => cases (permits parent _).symm.trans writable
    | removed parent _ _ _ _ writable => cases (permits parent _).symm.trans writable
    | relisted file writable => cases (permits file _).symm.trans writable
    | resized names entry size reaches file =>
      obtain ⟨-, here⟩ := Namespace.reaches_of_banned barred.common barred.banned reaches
      cases top.symm.trans here
      cases directory.symm.trans file
    | restyled path asked entry gid mode acl reaches owner _ store =>
      obtain ⟨short, here⟩ := Namespace.reaches_of_banned barred.common barred.banned reaches
      cases top.symm.trans here
      exact ⟨path, root, gid, mode, acl, asked, Path.split_absolute_eq_nil_iff.1 short, stored, owner,
        by rw [there, store, number]⟩

/-- The owner of the root sets its bits, banned or not. -/
theorem setMode_of_owner {root : Entry} (mode : Mode)
    (stored : b.store.entries.get? Namespace.rootIno = some root) (own : ctx.uid = root.stat.uid)
    (plain : mode.perm = mode) (clear : mode &&& ~~~Mode.setGroupId = mode) :
    ∃ new, (left (.setMode "/" mode) b).entries.get? Namespace.rootIno = some new ∧
      new.stat.mode.perm = mode := by
  have identified : context b = .ok ctx b := context_eq_ok_iff.2 ⟨barred.known, rfl⟩
  have named : absolute "/" b = .ok "/" b := by
    change EStateM.Result.ok (Path.absolute b.session.workingDir "/") b = _
    rw [Path.absolute_root]
  have looked : lookup (some Namespace.handler) "/" b = .ok root b := by
    obtain ⟨top, child, there, -, -⟩ := barred.tree.child_root
    cases stored.symm.trans there
    have short : Path.split "/" = [] := by decide +kernel
    exact (lookup_eq_ok_iff shows_namespace).2
      ⟨⟨ctx, barred.known, root, child, short ▸ .here root⟩, rfl⟩
  have owned : requireOwner root "/" b = .ok () b := by
    refine (Action.bind_of_ok identified).trans ?_
    rw [if_neg (not_not_intro (.inr own))]
    rfl
  have kept : (if ¬ ctx.isRoot ∧ ¬ SecurityContext.hasGroup ctx.groups root.stat.gid then
      mode.perm &&& ~~~Mode.setGroupId else mode.perm) = mode := by
    rw [plain, clear, ite_self]
  obtain ⟨bits, acl, rfl, asked⟩ : ∃ bits acl, bits = mode ∧
      handler (some Namespace.handler) (.setMode "/" mode) b =
        ask (some Namespace.handler)
          (.setMode root.stat.ino root.stat.uid root.stat.gid bits acl) b :=
    ⟨_, _, kept, (Action.bind_of_ok named).trans ((Action.bind_of_ok looked).trans
      ((Action.bind_of_ok owned).trans (Action.bind_of_ok identified)))⟩
  have number := barred.tree.keyed _ _ stored
  obtain ⟨new, made, same⟩ : ∃ new,
      b.store.setMode root.stat.ino root.stat.uid root.stat.gid bits acl =
        .ok (b.store.store root.stat.ino new) ∧ new.stat.mode.perm = bits :=
    ⟨_, Namespace.setMode_eq_ok_iff.2 ⟨root, number ▸ stored, rfl⟩,
      (Mode.perm_replaced root.stat.mode bits).trans plain⟩
  have done := asked.trans (ask_eq_ok_iff.2 ⟨_, Namespace.change_eq_ok_iff.2 made, rfl⟩)
  refine ⟨new, ?_, same⟩
  rw [left, Action.outcome_of_ok done, number]
  exact (Namespace.get?_store _ _ _ _).trans (if_pos rfl)

/-- Nothing that a banned identity asks for changes anything, exactly if it does not own the root. -/
theorem unchanging_iff : (∀ r, left r b = b.store) ↔
    ∀ root, b.store.entries.get? Namespace.rootIno = some root → ctx.uid ≠ root.stat.uid := by
  constructor
  · intro unchanged root stored own
    obtain ⟨new, found, none_⟩ := setMode_of_owner barred 0 stored own (by decide) (by decide)
    obtain ⟨other, again, one⟩ := setMode_of_owner barred 1 stored own (by decide) (by decide)
    rw [unchanged, stored] at found again
    cases found
    cases again
    cases none_.symm.trans one
  · intro foreign r
    refine Classical.byContradiction fun changed => ?_
    obtain ⟨_, root, _, _, _, -, -, stored, own, -⟩ := restylesRoot_of_changed barred changed
    exact foreign root stored own

end Changes

/-- Whatever requests came before: a banned identity other than root is denied every request about a path
other than the root's. It changes nothing but group, bits and list of the root, which it has to own for
that; so it can change nothing at all exactly if it does not own the root. -/
theorem locked_out_iff_of_run (requests : List InodeRequest) (session : CatalogSession)
    (ctx : SecurityContext) (known : session.security = some ctx) (common : ctx.isRoot = false)
    (banned : ctx.isBanned = true) :
    let b : Browsing Namespace := ⟨session, Namespace.initial.run requests⟩
    (∀ r path, r.path? = some path → Path.absolute session.workingDir path ≠ "/" →
      ∃ e, handler (some Namespace.handler) r b = .error e b ∧ e.kind = .permissionDenied) ∧
    (∀ r, left r b ≠ b.store → RestylesRoot ctx r b) ∧
    ((∀ r, left r b = b.store) ↔
      ∀ root, b.store.entries.get? Namespace.rootIno = some root → ctx.uid ≠ root.stat.uid) := by
  intro b
  have barred : Barred ctx b := ⟨known, common, banned, Namespace.tree_initial.run requests⟩
  exact ⟨fun r path asked below => handler_denied barred asked below,
    fun r changed => restylesRoot_of_changed barred changed, unchanging_iff barred⟩

/-- Alice, banned. -/
def outcast : SecurityContext :=
  { ReplicaRights.alice with
    user := { ReplicaRights.alice.user with attrs := Table.ofList [("banned", .bool true)] } }

/-- The root of a namespace that was given to alice, with a file in it. -/
def handedOver : List InodeRequest :=
  [.create { parent := 1, name := "f", stat := { mode := Mode.regular ||| 0o666 } },
    .setMode 1 1001 200 0o777 ∅]

/-- Banned, alice is denied the file, and yet there is something that she can change. -/
theorem root_of_outcast :
    let b : Browsing Namespace := ⟨{ security := some outcast }, Namespace.initial.run handedOver⟩
    (∃ e, handler (some Namespace.handler) (.access "/f" Mode.read) b = .error e b ∧
      e.kind = .permissionDenied) ∧ ∃ r, left r b ≠ b.store := by
  intro b
  obtain ⟨denied, -, unchanging⟩ := locked_out_iff_of_run handedOver { security := some outcast } outcast
    rfl (by decide) (by decide +kernel)
  refine ⟨denied _ "/f" rfl (by decide +kernel), ?_⟩
  apply Classical.not_forall.1
  intro unchanged
  obtain ⟨root, stored⟩ : ∃ root, b.store.entries.get? Namespace.rootIno = some root := ⟨_, rfl⟩
  have owner : (b.store.entries.get? Namespace.rootIno).map (·.stat.uid) = some outcast.uid := by
    decide +kernel
  rw [stored] at owner
  exact unchanging.1 unchanged root stored (Option.some.inj owner).symm

end BuiltIn
end Stowage
