import Stowage.Proofs.Ancestry
import Stowage.Proofs.Views

/-! What a request that the catalog grants has done. Over a namespace in memory there are six cases, each
with what the catalog has looked at before, for an identity that is not root. -/
namespace Stowage

/-- The path whose entry the request gives another group, other permission bits or another list. -/
def CatalogRequest.restyles : CatalogRequest → Option String
  | .setMode path _ | .setOwner path _ _ | .setAcl path _ => some path
  | _ => none

namespace Namespace

variable {ns next : Namespace} {ino size : Nat} {uid gid : UInt32} {mode : Mode} {acl : Acl}

theorem setMode_eq_ok_iff :
    ns.setMode ino uid gid mode acl = .ok next ↔
      ∃ entry, ns.entries.get? ino = some entry ∧
        next = ns.store ino { entry with
          acl, stat := { entry.stat with
            uid, gid, mode := (entry.stat.mode &&& Mode.typeMask) ||| mode.perm } } := by
  constructor
  · intro made
    obtain ⟨entry, stored, done⟩ := Error.bind_eq_ok_iff.1 made
    cases done
    exact ⟨entry, entry_eq_ok_iff.1 stored, rfl⟩
  · rintro ⟨entry, stored, rfl⟩
    exact Error.bind_eq_ok_iff.2 ⟨entry, entry_eq_ok_iff.2 stored, rfl⟩

theorem setSize_eq_ok (made : ns.setSize ino size = .ok next) :
    ∃ entry, ns.entries.get? ino = some entry ∧
      next = ns.store ino { entry with stat := { entry.stat with size } } := by
  obtain ⟨entry, stored, done⟩ := Error.bind_eq_ok_iff.1 made
  cases done
  exact ⟨entry, entry_eq_ok_iff.1 stored, rfl⟩

theorem get?_store (ns : Namespace) (place : Nat) (new : Entry) (ino : Nat) :
    (ns.store place new).entries.get? ino = if ino = place then some new else ns.entries.get? ino :=
  Table.get?_insert _ _ _ _

/-- Where names lead to an entry they lead to the one that is stored in its place. -/
theorem at?_store {old new : Entry} {names : List String} (keyed : ns.EntriesKeyed)
    (number : new.stat.ino = old.stat.ino) (there : ns.at? names = some old) :
    (ns.store old.stat.ino new).at? names = some new := by
  let swap (entry : Entry) : Entry := if entry.stat.ino = old.stat.ino then new else entry
  have ino : ∀ entry, (swap entry).stat.ino = entry.stat.ino := by
    intro entry
    by_cases here : entry.stat.ino = old.stat.ino <;> simp [swap, here, number]
  have looked : ∀ {parent : Nat} {name : String} {entry : Entry}, ns.child parent name = .ok entry →
      (ns.store old.stat.ino new).child parent name = .ok (swap entry) := by
    intro parent name entry found
    obtain ⟨place, listed, stored⟩ := Error.bind_eq_ok_iff.1 found
    have stored := entry_eq_ok_iff.1 stored
    obtain rfl := keyed _ _ stored
    refine Error.bind_eq_ok_iff.2 ⟨entry.stat.ino, listed, entry_eq_ok_iff.2 ?_⟩
    rw [get?_store]
    by_cases here : entry.stat.ino = old.stat.ino
    · rw [if_pos here]
      exact congrArg some (if_pos here).symm
    · rw [if_neg here, stored]
      exact congrArg some (if_neg here).symm
  -- The walk goes by numbers alone, and the swapped entries have those of the entries before.
  have walk : ∀ current, ns.follow current names = some old →
      (ns.store old.stat.ino new).follow (swap current) names = some (swap old) := by
    clear there
    induction names with
    | nil =>
      intro current found
      exact congrArg (Option.map swap) found
    | cons name rest ih =>
      intro current found
      unfold follow at found ⊢
      cases named : ns.child current.stat.ino name with
      | error e =>
        rw [named] at found
        cases found
      | ok next =>
        rw [named] at found
        rw [ino, looked named]
        exact ih next found
  have swapped : swap old = new := if_pos rfl
  unfold at? at there ⊢
  cases top : ns.child rootParent "/" with
  | error e =>
    rw [top] at there
    cases there
  | ok root =>
    rw [top] at there
    rw [looked top]
    exact (walk root there).trans (congrArg some swapped)

end Namespace

namespace BuiltIn

section Checks

variable {ν : Type} {inode : Contract.inode.Handler ν} {look : ν → Namespace} {b after : Browsing ν}
  {ctx : SecurityContext} {entry : Entry} {path : String}

section Identity

variable (known : b.session.security = some ctx)
include known

theorem context_of_known {other : SecurityContext} (done : context b = .ok other after) :
    ctx = other ∧ after = b := by
  obtain ⟨same, rfl⟩ := context_eq_ok_iff.1 done
  exact ⟨Option.some.inj (known.symm.trans same), rfl⟩

theorem require_of_known {requested : Mode} {what : String}
    (done : require entry requested what b = .ok () after) :
    entry.permits ctx requested = true ∧ after = b := by
  obtain ⟨⟨other, same, permitted⟩, rfl⟩ := require_eq_ok_iff.1 done
  obtain rfl := Option.some.inj (known.symm.trans same)
  exact ⟨permitted, rfl⟩

theorem requireOwner_of_known {what : String} (done : requireOwner entry what b = .ok () after) :
    (ctx.isRoot = true ∨ ctx.uid = entry.stat.uid) ∧ after = b := by
  obtain ⟨_, _, identity, checked⟩ := Action.bind_eq_ok_iff.1 done
  obtain ⟨rfl, rfl⟩ := context_of_known known identity
  split at checked
  · cases checked
  · rename_i allowed
    cases checked
    exact ⟨Decidable.not_not.1 allowed, rfl⟩

end Identity

variable (shows_ : Shows inode look) (known : b.session.security = some ctx)
include shows_ known

theorem lookup_of_known (done : lookup (some inode) path b = .ok entry after) :
    (look b.store).Reaches ctx (Path.split path) entry ∧ after = b := by
  obtain ⟨⟨other, same, reaches⟩, rfl⟩ := (lookup_eq_ok_iff shows_).1 done
  obtain rfl := Option.some.inj (known.symm.trans same)
  exact ⟨reaches, rfl⟩

/-- What may be removed hangs in a directory that the identity may write and search; if that one is
sticky, one of the two belongs to an identity that is not root. -/
theorem removable_granted (common : ctx.isRoot = false)
    (done : removable (some inode) path b = .ok entry after) :
    (∃ parent names name, (look b.store).Reaches ctx names parent ∧
      parent.permits ctx (Mode.write ||| Mode.search) = true ∧
      (look b.store).child parent.stat.ino name = .ok entry ∧
      (parent.stat.mode.isSticky = true → ctx.uid = entry.stat.uid ∨ ctx.uid = parent.stat.uid)) ∧
    after = b := by
  obtain ⟨⟨_, parent, name, same, reaches, -, writable, named, allowed⟩, rfl⟩ :=
    removable_held shows_ done
  obtain rfl := Option.some.inj (known.symm.trans same)
  refine ⟨⟨parent, _, name, reaches, writable, named, fun sticky => ?_⟩, rfl⟩
  by_cases own : ctx.uid = entry.stat.uid
  · exact .inl own
  · refine .inr (Decidable.byContradiction fun foreign => allowed ?_)
    exact ⟨sticky, by simp [common], foreign, own⟩

/-- Who gives an entry another group, other bits or another list, and is not root, owns the entry. -/
theorem restyles_granted (common : ctx.isRoot = false) {r : CatalogRequest} {answer : r.Answer}
    (asked : r.restyles = some path) (done : handler (some inode) r b = .ok answer after) :
    ∃ entry gid mode acl, (look b.store).Reaches ctx (b.session.names path) entry ∧
      ctx.uid = entry.stat.uid ∧
      (gid = entry.stat.gid ∨ SecurityContext.hasGroup ctx.groups gid = true) ∧
      ask (some inode) (.setMode entry.stat.ino entry.stat.uid gid mode acl) b = .ok () after := by
  have owner : ∀ {entry : Entry}, ctx.isRoot = true ∨ ctx.uid = entry.stat.uid →
      ctx.uid = entry.stat.uid := fun allowed => allowed.resolve_left (by simp [common])
  cases r with
  | setMode path mode =>
    cases asked
    obtain ⟨_, _, ⟨⟩, looked⟩ := Action.bind_eq_ok_iff.1 done
    obtain ⟨entry, _, found, checked⟩ := Action.bind_eq_ok_iff.1 looked
    obtain ⟨reaches, rfl⟩ := lookup_of_known shows_ known found
    obtain ⟨_, _, owned, identified⟩ := Action.bind_eq_ok_iff.1 checked
    obtain ⟨allowed, rfl⟩ := requireOwner_of_known known owned
    obtain ⟨_, _, identity, sets⟩ := Action.bind_eq_ok_iff.1 identified
    obtain ⟨rfl, rfl⟩ := context_of_known known identity
    exact ⟨entry, _, _, _, reaches, owner allowed, .inl rfl, sets⟩
  | setOwner path uid gid =>
    cases asked
    obtain ⟨_, _, ⟨⟩, looked⟩ := Action.bind_eq_ok_iff.1 done
    obtain ⟨entry, _, found, identified⟩ := Action.bind_eq_ok_iff.1 looked
    obtain ⟨reaches, rfl⟩ := lookup_of_known shows_ known found
    obtain ⟨_, _, identity, checked⟩ := Action.bind_eq_ok_iff.1 identified
    obtain ⟨rfl, rfl⟩ := context_of_known known identity
    rw [if_pos (by simp [common])] at checked
    obtain ⟨kept, regroups⟩ := Action.guarded_eq_ok_iff.1 checked
    obtain ⟨own, chooses⟩ := Action.guarded_eq_ok_iff.1 regroups
    obtain ⟨member, sets⟩ := Action.guarded_eq_ok_iff.1 chooses
    obtain rfl := Decidable.not_not.1 kept
    refine ⟨entry, gid, _, _, reaches, Decidable.not_not.1 own, ?_, sets⟩
    by_cases same : gid = entry.stat.gid
    · exact .inl same
    · exact .inr (Decidable.byContradiction fun out => member ⟨same, out⟩)
  | setAcl path acl =>
    cases asked
    obtain ⟨_, _, ⟨⟩, looked⟩ := Action.bind_eq_ok_iff.1 done
    obtain ⟨entry, _, found, checked⟩ := Action.bind_eq_ok_iff.1 looked
    obtain ⟨reaches, rfl⟩ := lookup_of_known shows_ known found
    obtain ⟨_, _, owned, validated⟩ := Action.bind_eq_ok_iff.1 checked
    obtain ⟨allowed, rfl⟩ := requireOwner_of_known known owned
    obtain ⟨_, _, valid, fitted⟩ := Action.bind_eq_ok_iff.1 validated
    obtain ⟨-, rfl⟩ := Action.eq_ok_of_ofExcept valid
    obtain ⟨-, sets⟩ := Action.guarded_eq_ok_iff.1 fitted
    exact ⟨entry, _, _, _, reaches, owner allowed, .inl rfl, sets⟩
  | _ => cases asked

/-- Who sets a size owns the file or may write it. -/
theorem setSize_granted {size : Nat} (done : setSize (some inode) path size b = .ok () after) :
    ∃ entry, (look b.store).Reaches ctx (b.session.names path) entry ∧
      entry.stat.isDirectory = false ∧
      (ctx.uid = entry.stat.uid ∨ entry.permits ctx Mode.write = true) ∧
      ask (some inode) (.setSize entry.stat.ino size) b = .ok () after := by
  obtain ⟨_, _, ⟨⟩, looked⟩ := Action.bind_eq_ok_iff.1 done
  obtain ⟨entry, _, found, typed⟩ := Action.bind_eq_ok_iff.1 looked
  obtain ⟨reaches, rfl⟩ := lookup_of_known shows_ known found
  obtain ⟨file, identified⟩ := Action.guarded_eq_ok_iff.1 typed
  obtain ⟨_, _, identity, checked⟩ := Action.bind_eq_ok_iff.1 identified
  obtain ⟨rfl, rfl⟩ := context_of_known known identity
  refine ⟨entry, reaches, Bool.eq_false_iff.2 file, ?_⟩
  split at checked
  · obtain ⟨_, _, required, sets⟩ := Action.bind_eq_ok_iff.1 checked
    obtain ⟨writable, rfl⟩ := require_of_known known required
    exact ⟨.inr writable, sets⟩
  · rename_i own
    exact ⟨.inl (Decidable.not_not.1 own), checked⟩

end Checks

/-- What a request does that the catalog grants to an identity other than root, with what was looked at
before. It leaves the namespace alone; it makes an entry in a directory or removes one; it gives an entry
another group, other bits and another list, or another size; or it changes rows of the replica table. -/
inductive Granted (ctx : SecurityContext) (session : CatalogSession) (ns next : Namespace)
    (r : CatalogRequest) : Prop where
  | looked (same : next = ns)
  | made (parent created : Entry) (names : List String) (reaches : ns.Reaches ctx names parent)
      (writable : parent.permits ctx (Mode.write ||| Mode.search) = true)
      (place : created.parent = parent.stat.ino)
      (entries : next.entries = ns.entries.insert ns.nextIno created)
  | removed (parent entry : Entry) (names : List String) (name : String)
      (reaches : ns.Reaches ctx names parent)
      (writable : parent.permits ctx (Mode.write ||| Mode.search) = true)
      (named : ns.child parent.stat.ino name = .ok entry)
      (free : parent.stat.mode.isSticky = true →
        ctx.uid = entry.stat.uid ∨ ctx.uid = parent.stat.uid)
      (entries : next.entries = ns.entries.erase entry.stat.ino)
  | restyled (path : String) (asked : r.restyles = some path) (entry : Entry) (gid : UInt32)
      (mode : Mode) (acl : Acl) (reaches : ns.Reaches ctx (session.names path) entry)
      (owner : ctx.uid = entry.stat.uid)
      (member : gid = entry.stat.gid ∨ SecurityContext.hasGroup ctx.groups gid = true)
      (stored : next = ns.store entry.stat.ino
        { entry with acl, stat := { entry.stat with gid, mode } })
  | resized (names : List String) (entry : Entry) (size : Nat)
      (reaches : ns.Reaches ctx names entry) (file : entry.stat.isDirectory = false)
      (allowed : ctx.uid = entry.stat.uid ∨ entry.permits ctx Mode.write = true)
      (stored : next = ns.store entry.stat.ino { entry with stat := { entry.stat with size } })
  | relisted (file : Entry) (writable : file.permits ctx Mode.write = true)
      (entries : next.entries = ns.entries)

section Requests

variable {b after : Browsing Namespace} {ctx : SecurityContext} {path : String}

theorem store_of_changeDir (done : changeDir (some Namespace.handler) path b = .ok () after) :
    after.store = b.store := by
  obtain ⟨_, _, ⟨⟩, looked⟩ := Action.bind_eq_ok_iff.1 done
  obtain ⟨entry, _, found, typed⟩ := Action.bind_eq_ok_iff.1 looked
  obtain rfl := (reads_lookup belowReads_namespace _).of_ok found
  obtain ⟨-, required⟩ := Action.guarded_eq_ok_iff.1 typed
  obtain ⟨_, _, permitted, moved⟩ := Action.bind_eq_ok_iff.1 required
  obtain rfl := (reads_require _ _ _).of_ok permitted
  cases moved
  rfl

variable (known : b.session.security = some ctx)
include known

theorem granted_createEntry {type mode : Mode} {r : CatalogRequest}
    (done : createEntry (some Namespace.handler) path type mode b = .ok () after) :
    Granted ctx b.session b.store after.store r := by
  obtain ⟨_, parent, name, created, same, reaches, -, writable, asked⟩ :=
    createEntry_eq_ok shows_namespace done
  obtain rfl := Option.some.inj (known.symm.trans same)
  obtain ⟨store, run, rfl⟩ := ask_eq_ok_iff.1 asked
  obtain ⟨-, rfl, rfl⟩ := Namespace.create_eq_ok
    (Action.update_eq_ok (f := (Namespace.create · (template ctx b.session.umask parent name type mode)))
      run)
  exact .made parent _ _ reaches writable rfl rfl

/-- Unlinking and removing a directory both take away what may be removed. -/
theorem granted_removal (common : ctx.isRoot = false) {u : Browsing Namespace} {entry : Entry}
    {r : CatalogRequest} (found : removable (some Namespace.handler) path b = .ok entry u)
    (asked : ask (some Namespace.handler) (.unlink entry.stat.ino) u = .ok () after) :
    Granted ctx b.session b.store after.store r := by
  obtain ⟨⟨parent, names, name, reaches, writable, named, free⟩, rfl⟩ :=
    removable_granted shows_namespace known common found
  obtain ⟨store, run, rfl⟩ := ask_eq_ok_iff.1 asked
  obtain ⟨_, -, rfl⟩ := Namespace.unlink_eq_ok (Namespace.change_eq_ok_iff.1 run)
  exact .removed parent entry names name reaches writable named free rfl

theorem granted_restyling (tree : b.store.Tree) (common : ctx.isRoot = false) {r : CatalogRequest}
    {answer : r.Answer} (asked : r.restyles = some path)
    (done : handler (some Namespace.handler) r b = .ok answer after) :
    Granted ctx b.session b.store after.store r := by
  obtain ⟨entry, gid, mode, acl, reaches, owner, member, sets⟩ :=
    restyles_granted shows_namespace known common asked done
  obtain ⟨store, run, rfl⟩ := ask_eq_ok_iff.1 sets
  obtain ⟨old, there, rfl⟩ := Namespace.setMode_eq_ok_iff.1 (Namespace.change_eq_ok_iff.1 run)
  obtain rfl := Option.some.inj ((tree.reached_stored reaches).symm.trans there)
  exact .restyled path asked entry gid _ acl reaches owner member rfl

theorem granted_setSize (tree : b.store.Tree) {size : Nat} {r : CatalogRequest}
    (done : setSize (some Namespace.handler) path size b = .ok () after) :
    Granted ctx b.session b.store after.store r := by
  obtain ⟨entry, reaches, file, allowed, sets⟩ := setSize_granted shows_namespace known done
  obtain ⟨store, run, rfl⟩ := ask_eq_ok_iff.1 sets
  obtain ⟨old, there, rfl⟩ := Namespace.setSize_eq_ok (Namespace.change_eq_ok_iff.1 run)
  obtain rfl := Option.some.inj ((tree.reached_stored reaches).symm.trans there)
  exact .resized _ entry size reaches file allowed rfl

/-- Changes of rows look at the file that the record names, and leave all entries alone. -/
theorem granted_relisting {record : Replica} {q : InodeRequest} {answer : q.Answer} {r : CatalogRequest}
    (lists : ∀ next, Namespace.handler q b.store = .ok answer next → next.entries = b.store.entries)
    (done : (requireReplica (some Namespace.handler) record >>= fun _ =>
      ask (some Namespace.handler) q) b = .ok answer after) :
    Granted ctx b.session b.store after.store r := by
  obtain ⟨_, _, required, asked⟩ := Action.bind_eq_ok_iff.1 done
  obtain ⟨⟨_, file, same, -, writable⟩, rfl⟩ := (requireReplica_eq_ok_iff shows_namespace).1 required
  obtain rfl := Option.some.inj (known.symm.trans same)
  obtain ⟨store, run, rfl⟩ := ask_eq_ok_iff.1 asked
  exact .relisted file writable (lists store run)

/-- Every request that goes through has done one of the six things. -/
theorem granted_of_ok (tree : b.store.Tree) (common : ctx.isRoot = false) {r : CatalogRequest}
    {answer : r.Answer} (done : handler (some Namespace.handler) r b = .ok answer after) :
    Granted ctx b.session b.store after.store r := by
  cases r with
  | workingDir | entry | stat | access | replicas | readDir =>
    exact .looked (congrArg Browsing.store ((reads_handler belowReads_namespace _ rfl).of_ok done))
  | changeDir path => exact .looked (store_of_changeDir done)
  | umask mask =>
    cases done
    exact .looked rfl
  | setMode path | setOwner path | setAcl path => exact granted_restyling known tree common rfl done
  | setSize path size => exact granted_setSize known tree done
  | addReplica record =>
    refine granted_relisting known (fun next run => ?_) done
    obtain ⟨-, -, -, rfl⟩ := Namespace.addReplica_succeeds_iff.1 (Namespace.change_eq_ok_iff.1 run)
    rfl
  | deleteReplica record =>
    refine granted_relisting known (fun next run => ?_) done
    obtain ⟨-, rfl⟩ := Namespace.deleteReplica_eq_ok_iff.1 (Namespace.change_eq_ok_iff.1 run)
    rfl
  | updateReplica record =>
    refine granted_relisting known (fun next run => ?_) done
    obtain ⟨-, rfl⟩ := Namespace.updateReplica_eq_ok_iff.1 (Namespace.change_eq_ok_iff.1 run)
    rfl
  | create path mode | makeDir path mode => exact granted_createEntry known done
  | unlink path =>
    obtain ⟨_, _, ⟨⟩, looked⟩ := Action.bind_eq_ok_iff.1 done
    obtain ⟨entry, _, found, typed⟩ := Action.bind_eq_ok_iff.1 looked
    exact granted_removal known common found (Action.guarded_eq_ok_iff.1 typed).2
  | removeDir path =>
    obtain ⟨_, _, ⟨⟩, guarded⟩ := Action.bind_eq_ok_iff.1 done
    obtain ⟨entry, _, found, typed⟩ :=
      Action.bind_eq_ok_iff.1 (Action.guarded_eq_ok_iff.1 guarded).2
    exact granted_removal known common found (Action.guarded_eq_ok_iff.1 typed).2

end Requests
end BuiltIn

end Stowage
