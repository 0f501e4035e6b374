import Stowage.Proofs.RetryOrder
import Stowage.Proofs.Tables

/-! What unlinking takes away. Where a catalog unlinks a path, the entry that stood there is gone with
all its replicas, and nothing stands there any more; where it refuses, nothing has changed. -/
namespace Stowage

namespace Namespace

variable {ns next : Namespace} {ino : Nat} {names : List String} {entry : Entry}

/-- Names after names lead on from where the first ones lead. -/
theorem follow_append (ns : Namespace) (current : Entry) (names more : List String) :
    ns.follow current (names ++ more) = (ns.follow current names).bind (ns.follow · more) := by
  induction names generalizing current with
  | nil => rfl
  | cons name rest ih =>
    rw [List.cons_append, follow, follow]
    cases ns.child current.stat.ino name with
    | ok below => exact ih below
    | error e => rfl

theorem at?_of_child {parent : Entry} {name : String} (there : ns.at? names = some parent)
    (named : ns.child parent.stat.ino name = .ok entry) : ns.at? (names ++ [name]) = some entry := by
  unfold at? at there ⊢
  cases top : ns.child rootParent "/" with
  | error e =>
    rw [top] at there
    cases there
  | ok root =>
    rw [top] at there
    dsimp only at there ⊢
    rw [follow_append, there, Option.bind_some]
    unfold follow
    rw [named]
    rfl

/-- What stands at a path is stored under its own number. -/
theorem EntriesKeyed.stored (keyed : ns.EntriesKeyed) (there : ns.at? names = some entry) :
    ns.entry entry.stat.ino = .ok entry := by
  have below : ∀ current, ns.entry current.stat.ino = .ok current →
      ns.follow current names = some entry → ns.entry entry.stat.ino = .ok entry := by
    clear there
    induction names with
    | nil =>
      intro current stored found
      cases found
      exact stored
    | cons name rest ih =>
      intro current stored found
      unfold follow at found
      cases named : ns.child current.stat.ino name with
      | error e =>
        rw [named] at found
        cases found
      | ok down =>
        rw [named] at found
        exact ih down (keyed.child named) found
  unfold at? at there
  cases top : ns.child rootParent "/" with
  | error e =>
    rw [top] at there
    cases there
  | ok root =>
    rw [top] at there
    exact below root (keyed.child top) there

/-- The namespace after a change that goes through. -/
theorem after_of_unlink (made : ns.unlink ino = .ok next) : ns.after (.unlink ino) = next := by
  have run : handler (.unlink ino) ns = .ok () next := change_eq_ok_iff.2 made
  unfold Namespace.after
  rw [Action.outcome_of_ok run]

/-- An entry without its number is not there; the others are as they were. -/
theorem entry_of_unlink (made : ns.unlink ino = .ok next) {number : Nat}
    (found : next.entry number = .ok entry) : ns.entry number = .ok entry ∧ number ≠ ino := by
  obtain ⟨gone, -, rfl⟩ := unlink_eq_ok made
  rw [entry_eq_ok_iff, Table.get?_erase] at found
  split at found
  · cases found
  · rename_i other
    exact ⟨entry_eq_ok_iff.2 found, other⟩

theorem child_of_unlink (made : ns.unlink ino = .ok next) {parent : Nat} {name : String}
    (found : next.child parent name = .ok entry) : ns.child parent name = .ok entry := by
  obtain ⟨number, named, stored⟩ := Error.bind_eq_ok_iff.1 found
  refine Error.bind_eq_ok_iff.2 ⟨number, ?_, (entry_of_unlink made stored).1⟩
  obtain ⟨gone, -, rfl⟩ := unlink_eq_ok made
  rw [Table.get?_erase] at named
  split at named
  · cases named
  · exact named

/-- What still stands at a path stood there before. -/
theorem at?_of_unlink (made : ns.unlink ino = .ok next) (there : next.at? names = some entry) :
    ns.at? names = some entry :=
  at?_mono (child_of_unlink made) there

/-- Where an entry has been unlinked, nothing stands any more. -/
theorem EntriesKeyed.at?_unlinked (keyed : ns.EntriesKeyed) (there : ns.at? names = some entry)
    (made : ns.unlink entry.stat.ino = .ok next) : next.at? names = none := by
  cases found : next.at? names with
  | none => rfl
  | some other =>
    obtain rfl := Option.some.inj (there.symm.trans (at?_of_unlink made found))
    have after : next.EntriesKeyed := after_of_unlink made ▸ keyed.after _
    exact absurd rfl (entry_of_unlink made (after.stored found)).2

end Namespace

namespace BuiltIn

variable {ν : Type} {inode : Contract.inode.Handler ν} {look : ν → Namespace}

/-- An entry that may lose its name is a child of a directory that the identity of the session may write
and search; a sticky directory asks for one of three identities besides. -/
theorem removable_held (shows_ : Shows inode look) {path : String} {b after : Browsing ν}
    {entry : Entry} (done : removable (some inode) path b = .ok entry after) :
    (∃ ctx parent name, b.session.security = some ctx ∧
      (look b.store).Reaches ctx (Path.split path).dropLast parent ∧
      (Path.split path).dropLast ++ [name] = Path.split path ∧
      parent.permits ctx (Mode.write ||| Mode.search) = true ∧
      (look b.store).child parent.stat.ino name = .ok entry ∧
      ¬ (parent.stat.mode.isSticky = true ∧ ¬ ctx.isRoot = true ∧ ctx.uid ≠ parent.stat.uid ∧
        ctx.uid ≠ entry.stat.uid)) ∧ after = b := by
  unfold removable at done
  obtain ⟨ctx, _, identity, opened⟩ := Action.bind_eq_ok_iff.1 done
  obtain ⟨known, rfl⟩ := context_eq_ok_iff.1 identity
  obtain ⟨⟨parent, name⟩, _, held, granted⟩ := Action.bind_eq_ok_iff.1 opened
  obtain ⟨⟨_, same, reaches⟩, whole, rfl⟩ := parentOf_eq_ok shows_ held
  obtain rfl := Option.some.inj (known.symm.trans same)
  obtain ⟨_, _, required, found⟩ := Action.bind_eq_ok_iff.1 granted
  obtain ⟨⟨_, again, writable⟩, rfl⟩ := require_eq_ok_iff.1 required
  obtain rfl := Option.some.inj (known.symm.trans again)
  obtain ⟨child, _, looked, free⟩ := Action.bind_eq_ok_iff.1 found
  rw [childOr_apply shows_] at looked
  obtain ⟨answer, rfl⟩ := Action.eq_ok_of_ofExcept looked
  obtain ⟨allowed, returned⟩ := Action.guarded_eq_ok_iff.1 free
  cases returned
  cases named : (look after.store).child parent.stat.ino name with
  | error e =>
    rw [named] at answer
    cases answer
  | ok target =>
    rw [named] at answer
    cases answer
    exact ⟨⟨ctx, parent, name, known, reaches, whole, writable, named, allowed⟩, rfl⟩

/-- An entry that may lose its name stands under it. -/
theorem removable_eq_ok (shows_ : Shows inode look) {path : String} {b after : Browsing ν}
    {entry : Entry} (done : removable (some inode) path b = .ok entry after) :
    (look b.store).at? (Path.split path) = some entry ∧ after = b := by
  obtain ⟨⟨_, _, _, -, reaches, whole, -, named, -⟩, rfl⟩ := removable_held shows_ done
  rw [← whole]
  exact ⟨Namespace.at?_of_child (Namespace.at?_of_reaches reaches) named, rfl⟩

/-- What is unlinked is what stands at the path. -/
theorem unlink_eq_ok (shows_ : Shows inode look) {path : String} {b after : Browsing ν}
    (done : unlink (some inode) path b = .ok () after) :
    ∃ entry, (look b.store).at? (Path.split (Path.absolute b.session.workingDir path)) =
        some entry ∧ ask (some inode) (.unlink entry.stat.ino) b = .ok () after := by
  unfold unlink at done
  obtain ⟨_, _, ⟨⟩, looked⟩ := Action.bind_eq_ok_iff.1 done
  obtain ⟨entry, _, found, guarded⟩ := Action.bind_eq_ok_iff.1 looked
  obtain ⟨there, rfl⟩ := removable_eq_ok shows_ found
  exact ⟨entry, there, (Action.guarded_eq_ok_iff.1 guarded).2⟩

end BuiltIn

namespace OnSite

variable {s t : OnSite} {outer : List Decorator} {session : CatalogSession} {ns : Namespace}
  {path : String}

/-- A stack that unlinks a path has taken the entry at the path from its namespace. -/
theorem unlinked_of_ok (browses : s.BrowsesThrough outer session ns)
    (done : StackM.catalog (.unlink path) s = .ok () t) :
    ∃ entry next, ns.at? (session.names path) = some entry ∧
      ns.unlink entry.stat.ino = .ok next ∧
      (t.BrowsesThrough outer session next ∨ ns = .initial) := by
  obtain ⟨inner, id, wired, rfl⟩ := browses
  obtain ⟨chain, after, same, run, rfl⟩ := StackM.catalog_eq_ok done
  obtain rfl := Option.some.inj (same.symm.trans wired)
  rw [Site.catalogHandler_passed rfl] at run
  obtain ⟨entry, there, asked⟩ := BuiltIn.unlink_eq_ok (Site.shows_memory inner id) run
  obtain ⟨site, unlinking, rfl⟩ := BuiltIn.ask_eq_ok_iff.1 asked
  rw [Site.inodeHandler_memory (fun _ => rfl)] at unlinking
  unfold Action.zoom at unlinking
  cases made : Namespace.handler (.unlink entry.stat.ino) (s.site.namespace_ id) with
  | error e next =>
    rw [made] at unlinking
    cases unlinking
  | ok answer next =>
    rw [made] at unlinking
    cases unlinking
    refine ⟨entry, next, there, Namespace.change_eq_ok_iff.1 made, ?_⟩
    rcases Site.namespace_putNamespace id next s.site with stored | ⟨empty, -⟩
    · exact .inl ⟨inner, id, rfl, stored⟩
    · exact .inr empty

end OnSite

end Stowage
