import Stowage.Proofs.GrantedRequests
import Stowage.Proofs.ReplicaRights

/-! What an identity other than root may change, and where. It makes and removes entries in directories
that it may write and search, below directories that it may search; it restyles what it owns, within its
groups, and sizes what it owns or may write; and what it did not ask for stays as it was. A request that
the catalog grants keeps within that. -/
namespace Stowage

theorem SecurityContext.hasGroup_iff {groups : List Group} {gid : UInt32} :
    hasGroup groups gid = true ↔ ∃ group ∈ groups, group.gid = gid ∧ group.isBanned = false := by
  simp [hasGroup]

/-- What an identity may make of an entry that stays: the owner chooses group, mode and list, and among
groups its own that are not banned; who owns the entry or may write it chooses the size. All else is as it
was, the owner in the first place. -/
structure Entry.Revised (ctx : SecurityContext) (old new : Entry) : Prop where
  owner : new.stat.uid = old.stat.uid
  restyled : new.stat.gid ≠ old.stat.gid ∨ new.stat.mode ≠ old.stat.mode ∨ new.acl ≠ old.acl →
    ctx.uid = old.stat.uid
  regrouped : new.stat.gid ≠ old.stat.gid →
    ∃ group ∈ ctx.groups, group.gid = new.stat.gid ∧ group.isBanned = false
  resized : new.stat.size ≠ old.stat.size →
    ctx.uid = old.stat.uid ∨ old.permits ctx Mode.write = true
  rest : new = { old with
    acl := new.acl
    stat := { old.stat with gid := new.stat.gid, mode := new.stat.mode, size := new.stat.size } }

theorem Entry.Revised.same (ctx : SecurityContext) (entry : Entry) : entry.Revised ctx entry where
  owner := rfl
  restyled changed := by simp at changed
  regrouped changed := absurd rfl changed
  resized changed := absurd rfl changed
  rest := rfl

namespace Namespace

/-- The identity may change what a directory holds: it may search all that is above the directory, and
write and search the directory itself. -/
structure MayEdit (ns : Namespace) (ctx : SecurityContext) (dir : Entry) : Prop where
  above : ns.SearchableAbove ctx dir.stat.ino
  writable : dir.permits ctx (Mode.write ||| Mode.search) = true

/-- From one namespace to the next, an identity has changed what it may change, and one entry at most. -/
structure Authorised (ctx : SecurityContext) (ns next : Namespace) : Prop where
  single : ∃ target, ∀ ino, ino ≠ target → next.entries.get? ino = ns.entries.get? ino
  kept : ∀ ino old new, ns.entries.get? ino = some old → next.entries.get? ino = some new →
    old.Revised ctx new
  appeared : ∀ ino new, ns.entries.get? ino = none → next.entries.get? ino = some new →
    ∃ dir, ns.entries.get? new.parent = some dir ∧ ns.MayEdit ctx dir
  gone : ∀ ino old, ns.entries.get? ino = some old → next.entries.get? ino = none →
    ∃ dir, ns.entries.get? old.parent = some dir ∧ ns.MayEdit ctx dir ∧
      (dir.stat.mode.isSticky = true → ctx.uid = old.stat.uid ∨ ctx.uid = dir.stat.uid)

section Authority

variable {ns next : Namespace} {ctx : SecurityContext}

theorem Authorised.of_same (entries : next.entries = ns.entries) : Authorised ctx ns next where
  single := ⟨0, fun ino _ => by rw [entries]⟩
  kept ino old new there found := by
    rw [entries, there] at found
    cases found
    exact .same ctx old
  appeared ino new absent found := by
    rw [entries, absent] at found
    cases found
  gone ino old there absent := by
    rw [entries, there] at absent
    cases absent

/-- Putting a revised entry in the place of the one it is made from touches no other. -/
theorem Authorised.of_stored {old new : Entry} (there : ns.entries.get? old.stat.ino = some old)
    (revised : old.Revised ctx new) : Authorised ctx ns (ns.store old.stat.ino new) where
  single := ⟨old.stat.ino, fun ino other => by rw [get?_store, if_neg other]⟩
  kept ino before after stood found := by
    rw [get?_store] at found
    by_cases here : ino = old.stat.ino
    · subst here
      rw [if_pos rfl] at found
      cases found
      cases stood.symm.trans there
      exact revised
    · rw [if_neg here, stood] at found
      cases found
      exact .same ctx before
  appeared ino after absent found := by
    rw [get?_store] at found
    by_cases here : ino = old.stat.ino
    · cases absent.symm.trans (here ▸ there)
    · rw [if_neg here, absent] at found
      cases found
  gone ino before stood absent := by
    rw [get?_store] at absent
    by_cases here : ino = old.stat.ino
    · simp [here] at absent
    · rw [if_neg here, stood] at absent
      cases absent

/-- A new entry takes a number that was free, and hangs in a directory that may be edited. -/
theorem Authorised.of_made (tree : ns.Tree) {dir created : Entry}
    (there : ns.entries.get? created.parent = some dir) (may : ns.MayEdit ctx dir)
    (entries : next.entries = ns.entries.insert ns.nextIno created) : Authorised ctx ns next where
  single := ⟨ns.nextIno, fun ino other => by rw [entries, Table.get?_insert, if_neg other]⟩
  kept ino old new stood found := by
    have below := tree.numbered _ _ stood
    rw [entries, Table.get?_insert, if_neg (by omega), stood] at found
    cases found
    exact .same ctx old
  appeared ino new absent found := by
    rw [entries, Table.get?_insert] at found
    by_cases here : ino = ns.nextIno
    · rw [if_pos here] at found
      cases found
      exact ⟨dir, there, may⟩
    · rw [if_neg here, absent] at found
      cases found
  gone ino old stood absent := by
    have below := tree.numbered _ _ stood
    rw [entries, Table.get?_insert, if_neg (by omega), stood] at absent
    cases absent

theorem Authorised.of_removed {dir entry : Entry}
    (stored : ns.entries.get? entry.stat.ino = some entry)
    (there : ns.entries.get? entry.parent = some dir) (may : ns.MayEdit ctx dir)
    (free : dir.stat.mode.isSticky = true → ctx.uid = entry.stat.uid ∨ ctx.uid = dir.stat.uid)
    (entries : next.entries = ns.entries.erase entry.stat.ino) : Authorised ctx ns next where
  single := ⟨entry.stat.ino, fun ino other => by rw [entries, Table.get?_erase, if_neg other]⟩
  kept ino old new stood found := by
    rw [entries, Table.get?_erase] at found
    split at found
    · cases found
    · cases stood.symm.trans found
      exact .same ctx old
  appeared ino new absent found := by
    rw [entries, Table.get?_erase, absent] at found
    simp at found
  gone ino old stood absent := by
    rw [entries, Table.get?_erase] at absent
    by_cases here : ino = entry.stat.ino
    · subst here
      cases stood.symm.trans stored
      exact ⟨dir, there, may, free⟩
    · rw [if_neg here, stood] at absent
      cases absent

/-- What the catalog grants, the identity is authorised to. -/
theorem authorised_of_granted (tree : ns.Tree) {session : CatalogSession} {r : CatalogRequest}
    (granted : BuiltIn.Granted ctx session ns next r) : Authorised ctx ns next := by
  cases granted with
  | looked same => exact .of_same (congrArg entries same)
  | relisted _ _ entries => exact .of_same entries
  | made parent created names reaches writable place entries =>
    have there := tree.reached_stored reaches
    exact .of_made tree (place ▸ there) ⟨reaches.searchable tree, writable⟩ entries
  | removed parent entry names name reaches writable named free entries =>
    obtain ⟨hangs, stored⟩ := tree.child_stored named
    have there := tree.reached_stored reaches
    exact .of_removed stored (hangs ▸ there) ⟨reaches.searchable tree, writable⟩ free entries
  | restyled path asked entry gid mode acl reaches owner member stored =>
    subst stored
    refine .of_stored (tree.reached_stored reaches) ⟨rfl, fun _ => owner, fun changed => ?_, ?_, rfl⟩
    · exact SecurityContext.hasGroup_iff.1 (member.resolve_left changed)
    · exact fun changed => absurd rfl changed
  | resized names entry size reaches file allowed stored =>
    subst stored
    refine .of_stored (tree.reached_stored reaches) ⟨rfl, ?_, ?_, fun _ => allowed, rfl⟩
    · exact fun changed => by simp at changed
    · exact fun changed => absurd rfl changed

end Authority
end Namespace

namespace BuiltIn

/-- Whatever requests came before: a request that the catalog grants to an identity other than root has
changed what this identity may change, and nothing else. -/
theorem authorised_of_ok (requests : List InodeRequest) (session next : CatalogSession)
    (store : Namespace) (ctx : SecurityContext) (r : CatalogRequest) (answer : r.Answer)
    (known : session.security = some ctx) (common : ctx.isRoot = false)
    (done : handler (some Namespace.handler) r ⟨session, Namespace.initial.run requests⟩ =
      .ok answer ⟨next, store⟩) :
    Namespace.Authorised ctx (Namespace.initial.run requests) store := by
  have tree := Namespace.tree_initial.run requests
  exact Namespace.authorised_of_granted tree (granted_of_ok known tree common done)

/-- A sticky directory of root's, which everyone may write, with a file of alice's in it. -/
def letterbox : List InodeRequest :=
  [.create { parent := 1, name := "drop", stat := { mode := Mode.directory ||| 0o1777 } },
    .create { parent := 2, name := "note",
              stat := { mode := Mode.regular ||| 0o644, uid := 1001, gid := 200 } }]

/-- Alice takes her file back, and is authorised to. -/
theorem authorised_of_taking_back :
    let b : Browsing Namespace :=
      ⟨{ security := some ReplicaRights.alice }, Namespace.initial.run letterbox⟩
    ∃ next store, handler (some Namespace.handler) (.unlink "/drop/note") b = .ok () ⟨next, store⟩ ∧
      store.entries.get? 3 = none ∧
      Namespace.Authorised ReplicaRights.alice (Namespace.initial.run letterbox) store := by
  intro b
  have succeeds : ((handler (some Namespace.handler) (.unlink "/drop/note")).outcome b).1.isOk = true := by
    decide +kernel
  have gone : (((handler (some Namespace.handler) (.unlink "/drop/note")).outcome
      b).2.store.entries.get? 3).isNone = true := by
    decide +kernel
  cases done : handler (some Namespace.handler) (.unlink "/drop/note") b with
  | error e after =>
    rw [Action.outcome_of_error done] at succeeds
    cases succeeds
  | ok answer after =>
    obtain ⟨next, store⟩ := after
    rw [Action.outcome_of_ok done] at gone
    exact ⟨next, store, rfl, Option.isNone_iff_eq_none.1 gone,
      authorised_of_ok letterbox _ next store _ (.unlink "/drop/note") answer rfl (by decide) done⟩

end BuiltIn
end Stowage
