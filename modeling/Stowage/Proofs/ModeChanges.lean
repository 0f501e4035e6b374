import Stowage.Acl.Text
import Stowage.Proofs.ShownModes

/-! The mode of an entry with a list is changed. The entry then shows the bits that were asked for, and its list
agrees with them: the entries that a mode word speaks of take its bits, in their places, and the others stay
as they are. -/
namespace Stowage

namespace Acl

variable {acl : Acl} {e : AclEntry}

/-- No mode word speaks of the entry. It is a default entry, it names someone, or it is that of the owning
group beside a mask. -/
def Unmoved (acl : Acl) (e : AclEntry) : Prop :=
  e.isDefault = true ∨ e.tag = .user ∨ e.tag = .group ∨
    e.tag = .groupObj ∧ ∃ mask ∈ acl.entries, mask.tag = .mask ∧ mask.isDefault = false

theorem under_of_unmoved (unmoved : acl.Unmoved e) (mode : Mode) :
    under (acl.find? .mask).isSome mode e = e := by
  rcases unmoved with default | user | group | ⟨owning, mask, member, tag, access⟩
  · simp [under, permUnder, default]
  · exact under_of_named (.inl user) _ mode
  · exact under_of_named (.inr group) _ mode
  · have masked : (acl.find? .mask).isSome = true :=
      List.find?_isSome.2 ⟨mask, member, by simp [tag, access]⟩
    cases kind : e.isDefault <;> simp [under, permUnder, kind, owning, masked]

/-- Entries that no mode word speaks of stay where they are and what they are. -/
theorem getElem?_withMode_of_unmoved {i : Nat} (there : acl.entries[i]? = some e) (unmoved : acl.Unmoved e)
    (mode : Mode) : (acl.withMode mode).entries[i]? = some e := by
  rw [entries_withMode, List.getElem?_map, there, Option.map_some, under_of_unmoved unmoved]

/-- Every entry goes on speaking of whom it spoke of, in its place. -/
theorem whom_withMode (acl : Acl) (mode : Mode) :
    (acl.withMode mode).entries.map AclEntry.whom = acl.entries.map AclEntry.whom := by
  rw [entries_withMode, List.map_map]
  refine List.map_congr_left fun e _ => ?_
  obtain ⟨tag, kind, -⟩ := under_same (acl.find? .mask).isSome mode e
  simp [AclEntry.whom, tag, kind, under_id]

end Acl

namespace BuiltIn

open Acl

variable {ctx : SecurityContext} {old new : Entry} {path : String} {mode : Mode}

theorem perm_bitsFor (ctx : SecurityContext) (old : Entry) (mode : Mode) :
    (bitsFor ctx old mode).perm = bitsFor ctx old mode := by
  have again : mode.perm.perm = mode.perm := by simp [Mode.perm, UInt32.and_assoc]
  unfold bitsFor
  split
  · rw [Mode.perm, UInt32.and_assoc, UInt32.and_comm _ Mode.permMask, ← UInt32.and_assoc]
    exact congrArg (· &&& ~~~Mode.setGroupId) again
  · exact again

/-- Who sets a mode has restyled the entry that the path leads to. -/
theorem restyled_of_setMode {b after : Browsing Namespace} (tree : b.store.Tree)
    (there : b.store.at? (b.session.names path) = some old)
    (done : handler (some Namespace.handler) (.setMode path mode) b = .ok () after) :
    ∃ ctx new, b.session.security = some ctx ∧ after.store.at? (b.session.names path) = some new ∧
      Restyled ctx old (.setMode path mode) new := by
  obtain ⟨ctx, entry, known, reaches, sets⟩ := setMode_eq_ok done
  obtain rfl := Option.some.inj (there.symm.trans (Namespace.at?_of_reaches reaches))
  obtain ⟨store, run, rfl⟩ := ask_eq_ok_iff.1 sets
  obtain ⟨entry, stored, rfl⟩ := Namespace.setMode_eq_ok_iff.1 (Namespace.change_eq_ok_iff.1 run)
  obtain rfl := Option.some.inj ((tree.reached_stored reaches).symm.trans stored)
  exact ⟨ctx, _, known, Namespace.at?_store tree.keyed rfl there, .mode path mode⟩

/-- Whatever has been done to a namespace: when the mode is set of an entry with a valid list that is not
empty, the entry gets the permission bits that are asked for, without the set-group-id bit if the identity is
outside its group and not root, and nothing but its mode word and its list changes. The mode word is then that
of the list. The list is valid, has entries for the same as before and in the same places, and those that no
mode word speaks of stay as they are. -/
theorem list_follows_setMode (requests : List InodeRequest) {session : CatalogSession} {path : String}
    {mode : Mode} {old : Entry} {after : Browsing Namespace}
    (there : (Namespace.initial.run requests).at? (session.names path) = some old)
    (valid : old.acl.validate = .ok ()) (some_ : old.acl.isEmpty = false)
    (done : handler (some Namespace.handler) (.setMode path mode)
      ⟨session, Namespace.initial.run requests⟩ = .ok () after) :
    ∃ ctx new, session.security = some ctx ∧ after.store.at? (session.names path) = some new ∧
      new = { old with acl := new.acl, stat := { old.stat with mode := new.stat.mode } } ∧
      new.stat.mode.perm =
        (if ¬ ctx.isRoot ∧ ¬ SecurityContext.hasGroup ctx.groups old.stat.gid then
          mode.perm &&& ~~~Mode.setGroupId
        else mode.perm) ∧
      new.acl.modeOf new.stat.mode = new.stat.mode ∧
      new.acl.modeOf new.stat.mode.perm = new.stat.mode.perm ∧
      new.acl.validate = .ok () ∧
      new.acl.entries.map AclEntry.whom = old.acl.entries.map AclEntry.whom ∧
      ∀ (i : Nat) (e : AclEntry), old.acl.entries[i]? = some e → old.acl.Unmoved e →
        new.acl.entries[i]? = some e := by
  obtain ⟨ctx, new, known, stands, style⟩ := restyled_of_setMode (Namespace.tree_initial.run requests) there done
  refine ⟨ctx, new, known, stands, ?_⟩
  obtain _ | _ | _ := style
  have follows : (if old.acl.isEmpty then ∅ else old.acl.withMode (bitsFor ctx old mode)) =
      old.acl.withMode (bitsFor ctx old mode) := by
    simp [some_]
  have wf := wellFormed_of_filled valid some_
  have filled := wellFormed_withMode (bitsFor ctx old mode) wf
  have shown : (old.acl.withMode (bitsFor ctx old mode)).Shows
      ((old.stat.mode &&& Mode.typeMask) ||| (bitsFor ctx old mode).perm) :=
    (shows_congr fun _ => Mode.bitsAt_replaced _ _).2 (shows_withMode wf _)
  dsimp only
  rw [follows]
  refine ⟨rfl, ?_, (modeOf_eq_iff filled).2 shown, ?_, validate_withMode valid some_ _,
    whom_withMode _ _, ?_⟩
  · rw [Mode.perm_replaced, perm_bitsFor]
    rfl
  · exact (modeOf_eq_iff filled).2 ((shows_congr fun _ => Mode.bitsAt_perm _).2 shown)
  · exact fun i e place unmoved => getElem?_withMode_of_unmoved place unmoved _

/-- A directory of alice's that belongs to a group of others, with a list of all kinds of entries. -/
def lent : List InodeRequest :=
  [.create {
    parent := 1, name := "d", stat := { mode := Mode.directory ||| 0o750, uid := 1001, gid := 300 }
    acl := .ofEntries [⟨.userObj, false, 7, 0⟩, ⟨.user, false, 6, 1002⟩, ⟨.groupObj, false, 7, 0⟩,
      ⟨.group, false, 3, 200⟩, ⟨.mask, false, 5, 0⟩, ⟨.other, false, 0, 0⟩, ⟨.userObj, true, 7, 0⟩,
      ⟨.groupObj, true, 5, 0⟩, ⟨.other, true, 0, 0⟩] }]

/-- Alice asks for the set-group-id bit in vain, and the mask takes the bits of the group class. -/
theorem list_follows_setMode_of_lent :
    let session : CatalogSession := { security := some ReplicaRights.alice }
    let ns := Namespace.initial.run lent
    ∃ old after new, ns.at? ["d"] = some old ∧
      handler (some Namespace.handler) (.setMode "/d" 0o2741) ⟨session, ns⟩ = .ok () after ∧
      after.store.at? ["d"] = some new ∧ new.acl.modeOf new.stat.mode = new.stat.mode ∧
      new.acl.validate = .ok () ∧ new.stat.mode.perm = 0o741 ∧
      old.acl.text = "A70,B61002,C70,D3200,E50,F00,a70,c50,f00" ∧
      new.acl.text = "A70,B61002,C70,D3200,E40,F10,a70,c50,f00" := by
  intro session ns
  have names : session.names "/d" = ["d"] := by decide +kernel
  have listed : (ns.at? ["d"]).map (fun e =>
      (decide (e.acl.validate = .ok ()), e.acl.isEmpty, e.acl.text)) =
      some (true, false, "A70,B61002,C70,D3200,E50,F00,a70,c50,f00") := by
    decide +kernel
  obtain ⟨old, there, facts⟩ := Option.map_eq_some_iff.1 listed
  obtain ⟨valid, facts⟩ := Prod.mk.inj facts
  obtain ⟨some_, before⟩ := Prod.mk.inj facts
  obtain ⟨_, after, done⟩ : ∃ answer after,
      handler (some Namespace.handler) (.setMode "/d" 0o2741) ⟨session, ns⟩ = .ok answer after :=
    Action.exists_of_isOk (by decide +kernel)
  have left : (((handler (some Namespace.handler) (.setMode "/d" 0o2741)).outcome
      ⟨session, ns⟩).2.store.at? ["d"]).map (fun e => (e.stat.mode.perm, e.acl.text)) =
      some (0o741, "A70,B61002,C70,D3200,E40,F10,a70,c50,f00") := by
    decide +kernel
  obtain ⟨_, new, -, stands, -, -, shown, -, sound, -⟩ :=
    list_follows_setMode lent (names ▸ there) (of_decide_eq_true valid) some_ done
  rw [names] at stands
  rw [Action.outcome_of_ok done, stands] at left
  obtain ⟨bits, written⟩ := Prod.mk.inj (Option.some.inj left)
  exact ⟨old, after, new, there, done, stands, shown, sound, bits, before, written⟩

end BuiltIn
end Stowage
