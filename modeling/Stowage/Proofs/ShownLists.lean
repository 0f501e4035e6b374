import Stowage.Proofs.AccessLists

/-! What a mode word shows of a list: the permissions of the owner, of the group class, by the mask where
there is one, and of everyone else. A change of the mode goes into the list, and it leaves what the list
grants exactly if the mode has been shown by the list before. -/
namespace Stowage

namespace Acl

variable {acl new : Acl} {mode other : Mode} {tag : AclTag} {shift perm : Mode}

/-- A mode word shows what the list says: of the owner, of the group class, and of everyone else. -/
structure Shows (acl : Acl) (mode : Mode) : Prop where
  owner : acl.permOf? .userObj = some mode.ownerBits
  group : (acl.permOf? .mask).or (acl.permOf? .groupObj) = some mode.groupBits
  other : acl.permOf? .other = some mode.otherBits

/-- Only the nine permission bits show a list. -/
theorem shows_congr (same : ∀ shift : Mode, shift.toNat ≤ 6 → mode.bitsAt shift = other.bitsAt shift) :
    acl.Shows mode ↔ acl.Shows other := by
  have owner : mode.ownerBits = other.ownerBits := same 6 (by decide)
  have group : mode.groupBits = other.groupBits := same 3 (by decide)
  have others : mode.otherBits = other.otherBits := by
    rw [← Mode.bitsAt_zero, ← Mode.bitsAt_zero, same 0 (by decide)]
  constructor
  · rintro ⟨first, second, third⟩
    exact ⟨owner ▸ first, group ▸ second, others ▸ third⟩
  · rintro ⟨first, second, third⟩
    exact ⟨owner ▸ first, group ▸ second, others ▸ third⟩

theorem triple_of_permOf? (wf : WellFormed acl.entries) (found : acl.permOf? tag = some perm) :
    perm.Triple := by
  obtain ⟨e, here, rfl⟩ := Option.map_eq_some_iff.1 found
  exact Mode.triple_of_le (wf.small e (List.mem_of_find?_eq_some here))

theorem exists_permOf? (wf : WellFormed acl.entries) (tag : AclTag) (speaks : tag.shift? = some shift) :
    ∃ perm, acl.permOf? tag = some perm := by
  obtain ⟨e, found⟩ := exists_find? wf speaks
  exact ⟨_, congrArg (Option.map _) found⟩

/-- The mode word of a valid list has three bits for each class. -/
theorem modeOf_eq (wf : WellFormed acl.entries) (mode : Mode) :
    ∃ owner group others : Mode, owner.Triple ∧ group.Triple ∧ others.Triple ∧
      acl.permOf? .userObj = some owner ∧
      (acl.permOf? .mask).or (acl.permOf? .groupObj) = some group ∧
      acl.permOf? .other = some others ∧ acl.modeOf mode = mode.withClasses owner group others := by
  obtain ⟨owner, isOwner⟩ := exists_permOf? wf .userObj rfl
  obtain ⟨owning, isOwning⟩ := exists_permOf? wf .groupObj rfl
  obtain ⟨others, isOther⟩ := exists_permOf? wf .other rfl
  obtain ⟨group, isGroup, three⟩ : ∃ group,
      (acl.permOf? .mask).or (acl.permOf? .groupObj) = some group ∧ group.Triple := by
    cases masked : acl.permOf? .mask with
    | none => exact ⟨owning, isOwning, triple_of_permOf? wf isOwning⟩
    | some mask => exact ⟨mask, rfl, triple_of_permOf? wf masked⟩
  refine ⟨owner, group, others, triple_of_permOf? wf isOwner, three, triple_of_permOf? wf isOther,
    isOwner, isGroup, isOther, ?_⟩
  unfold modeOf
  rw [isOwner, isGroup, isOther]
  rfl

/-- The mode word of a valid list is the word itself exactly if the word shows the list. -/
theorem modeOf_eq_iff (wf : WellFormed acl.entries) : acl.modeOf mode = mode ↔ acl.Shows mode := by
  obtain ⟨owner, group, others, first, second, third, isOwner, isGroup, isOther, same⟩ := modeOf_eq wf mode
  rw [same, Mode.withClasses_eq_iff mode first second third]
  constructor
  · rintro ⟨rfl, rfl, rfl⟩
    exact ⟨isOwner, isGroup, isOther⟩
  · rintro ⟨shown, class_, rest⟩
    exact ⟨Option.some.inj (isOwner.symm.trans shown), Option.some.inj (isGroup.symm.trans class_),
      Option.some.inj (isOther.symm.trans rest)⟩

/-- The mode word of a valid list shows it. -/
theorem shows_modeOf (wf : WellFormed acl.entries) (mode : Mode) : acl.Shows (acl.modeOf mode) := by
  obtain ⟨owner, group, others, first, second, third, isOwner, isGroup, isOther, same⟩ := modeOf_eq wf mode
  obtain ⟨shown, class_, rest⟩ := mode.bitsAt_withClasses first second third
  rw [same]
  exact ⟨isOwner.trans (congrArg some shown.symm), isGroup.trans (congrArg some class_.symm),
    isOther.trans (congrArg some (rest.symm.trans (Mode.bitsAt_zero _)))⟩

/-- What a change of the mode makes of a permission. -/
def changed (acl : Acl) (mode : Mode) (tag : AclTag) (perm : Mode) : Mode :=
  match tag with
  | .userObj => mode.ownerBits
  | .mask => mode.groupBits
  | .groupObj => if (acl.find? .mask).isSome then perm else mode.groupBits
  | .other => mode.otherBits
  | .user | .group => perm

theorem permOf?_withMode (acl : Acl) (mode : Mode) (tag : AclTag) :
    (acl.withMode mode).permOf? tag = (acl.permOf? tag).map (acl.changed mode tag) := by
  have plain : (fun e : AclEntry => decide (e.tag = tag ∧ ¬ e.isDefault = true)) ∘
      under (acl.find? .mask).isSome mode = fun e => decide (e.tag = tag ∧ ¬ e.isDefault = true) := by
    funext e
    rw [Function.comp_apply, (under_same _ _ e).1, (under_same _ _ e).2.1]
  have searched : (acl.withMode mode).find? tag =
      (acl.find? tag).map (under (acl.find? .mask).isSome mode) := by
    rw [find?, entries_withMode, List.find?_map, plain]
    rfl
  unfold permOf?
  rw [searched, Option.map_map, Option.map_map]
  refine Option.map_congr fun e found => ?_
  obtain ⟨rfl, access⟩ := find?_passed found
  have three : ∀ {perm : Mode}, perm.Triple → perm.toUInt8.toUInt32 = perm := Mode.Triple.toUInt32_toUInt8
  simp only [Function.comp_apply, under, permUnder, access, Bool.false_eq_true, if_false, changed]
  cases e.tag with
  | user | group => rfl
  | userObj => exact three (Mode.triple_bitsAt mode 6)
  | mask => exact three (Mode.triple_bitsAt mode 3)
  | other => exact three (Mode.triple_otherBits mode)
  | groupObj =>
    by_cases masked : (acl.find? .mask).isSome = true
    · simp only [masked, if_true]
    · simp only [masked, Bool.false_eq_true, if_false]
      exact three (Mode.triple_bitsAt mode 3)

/-- A list follows a change of the mode. -/
theorem shows_withMode (wf : WellFormed acl.entries) (mode : Mode) : (acl.withMode mode).Shows mode := by
  obtain ⟨owner, isOwner⟩ := exists_permOf? wf .userObj rfl
  obtain ⟨owning, isOwning⟩ := exists_permOf? wf .groupObj rfl
  obtain ⟨others, isOther⟩ := exists_permOf? wf .other rfl
  refine ⟨?_, ?_, ?_⟩
  · rw [permOf?_withMode, isOwner]
    rfl
  · rw [permOf?_withMode, permOf?_withMode, isOwning]
    unfold permOf?
    cases masked : acl.find? .mask with
    | none => simp [changed, masked]
    | some mask => rfl
  · rw [permOf?_withMode, isOther]
    rfl

/-- A change to a mode leaves what a list says of each tag exactly if the mode shows the list. -/
theorem permOf?_withMode_eq_iff (wf : WellFormed acl.entries) :
    (∀ tag, (acl.withMode mode).permOf? tag = acl.permOf? tag) ↔ acl.Shows mode := by
  constructor
  · intro same
    obtain ⟨owner, group, others⟩ := shows_withMode wf mode
    rw [same] at owner others
    rw [same, same] at group
    exact ⟨owner, group, others⟩
  · rintro ⟨owner, group, others⟩ tag
    rw [permOf?_withMode]
    cases tag with
    | user | group => exact Option.map_id'
    | userObj =>
      rw [owner]
      rfl
    | other =>
      rw [others]
      rfl
    | mask =>
      cases masked : acl.permOf? .mask with
      | none => rfl
      | some mask =>
        rw [masked] at group
        exact group.symm
    | groupObj =>
      cases masked : acl.find? .mask with
      | some mask =>
        have kept : acl.changed mode .groupObj = id := by
          funext perm
          simp [changed, masked]
        rw [kept, Option.map_id_fun, id]
      | none =>
        have none_ : acl.permOf? .mask = none := congrArg (Option.map _) masked
        rw [none_, Option.none_or] at group
        rw [group]
        simp [changed, masked]

/-- Entries that name someone are none that a mode speaks of. -/
theorem under_of_named {e : AclEntry} (named : e.tag = .user ∨ e.tag = .group) (hasMask : Bool) (mode : Mode) :
    under hasMask mode e = e := by
  have none_ : permUnder hasMask mode e = none := by
    unfold permUnder
    split
    · rfl
    · rcases named with tag | tag <;> rw [tag]
  rw [under, none_]

end Acl

namespace Permission

open Acl

variable {ctx : SecurityContext} {acl new : Acl} {entry after : Ownership} {requested : Mode}

/-- Both lists say the same of users and groups that they name. -/
structure NamesAlike (acl new : Acl) : Prop where
  empty : new.isEmpty = acl.isEmpty
  users (uid : UInt32) : namedUser? new uid = namedUser? acl uid
  groups (groups : List Group) : namedGroups new groups = namedGroups acl groups

/-- A change of the mode leaves the users and groups that a list names. -/
theorem namesAlike_withMode (acl : Acl) (mode : Mode) : NamesAlike acl (acl.withMode mode) := by
  have same := under_same (acl.find? .mask).isSome mode
  have ids := under_id (acl.find? .mask).isSome mode
  refine ⟨?_, fun uid => ?_, fun groups => ?_⟩
  · rw [isEmpty, isEmpty, entries_withMode, List.isEmpty_map]
  · unfold namedUser?
    rw [entries_withMode, List.find?_map, Option.map_map]
    simp only [Function.comp_def, same, ids]
    refine Option.map_congr fun e found => ?_
    have named := List.find?_some found
    rw [decide_eq_true_eq] at named
    rw [under_of_named (.inl named.2.1)]
  · unfold namedGroups
    rw [entries_withMode, List.filter_map, List.map_map]
    simp only [Function.comp_def, same, ids]
    refine List.map_congr_left fun e member => ?_
    have named := (List.mem_filter.1 member).2
    rw [decide_eq_true_eq] at named
    rw [under_of_named (.inr named.2.1)]

/-- What an identity may do with an entry follows from the permission bits, and from what the list says. -/
theorem permits_congr (alike : NamesAlike acl new) (same : ∀ tag, new.permOf? tag = acl.permOf? tag)
    (uid : after.uid = entry.uid) (gid : after.gid = entry.gid)
    (shows_ : ∀ shift : Mode, shift.toNat ≤ 6 → after.mode.bitsAt shift = entry.mode.bitsAt shift) :
    permits ctx new after requested = permits ctx acl entry requested := by
  have owner : after.mode.ownerBits = entry.mode.ownerBits := shows_ 6 (by decide)
  have group : after.mode.groupBits = entry.mode.groupBits := shows_ 3 (by decide)
  have others : after.mode.otherBits = entry.mode.otherBits := by
    rw [← Mode.bitsAt_zero, ← Mode.bitsAt_zero, shows_ 0 (by decide)]
  have listed : grantedByList ctx new after = grantedByList ctx acl entry := by
    unfold grantedByList owningGroup?
    rw [alike.users, alike.groups, same, same, same, gid, others]
  unfold permits granted
  rw [listed, alike.empty, uid, gid, owner, group, others]

end Permission
end Stowage
