import Mathlib.Data.List.Sort
import Stowage.Acl.Validity
import Stowage.Proofs.ModeBits

/-! Access control lists that are valid. In a valid list the keys increase, every permission has three bits,
and owner, owning group and everyone else have one entry each. The list that a change of the mode leaves is
as valid as the one before. -/
namespace Stowage

/-- Where the bits begin, in a mode word, of those whom an entry with the tag has to speak of. -/
def AclTag.shift? : AclTag → Option Mode
  | .userObj => some 6
  | .groupObj => some 3
  | .other => some 0
  | .user | .group | .mask => none

theorem AclTag.shift_le {tag : AclTag} {shift : Mode} (speaks : tag.shift? = some shift) :
    shift.toNat ≤ 6 := by
  cases tag <;> cases speaks <;> decide

/-- Entries with different tags speak of different bits. -/
theorem AclTag.shift_apart {a b : AclTag} {left right : Mode} (speaks : a.shift? = some left)
    (too : b.shift? = some right) (other : a ≠ b) :
    left.toNat + 3 ≤ right.toNat ∨ right.toNat + 3 ≤ left.toNat := by
  cases a <;> cases speaks <;> cases b <;> cases too <;> first | contradiction | decide

theorem AclTag.raw_le (tag : AclTag) : tag.raw ≤ 6 := by
  cases tag <;> decide

theorem AclTag.raw_inj {a b : AclTag} : a.raw = b.raw ↔ a = b := by
  cases a <;> cases b <;> simp [AclTag.raw]

namespace AclEntry

/-- The raw type tells tag and kind. -/
theorem rawType_eq_iff {a b : AclEntry} :
    a.rawType = b.rawType ↔ a.tag = b.tag ∧ a.isDefault = b.isDefault := by
  have low := a.tag.raw_le
  have high := b.tag.raw_le
  rw [← AclTag.raw_inj]
  unfold rawType
  cases a.isDefault <;> cases b.isDefault <;> simp <;> omega

/-- Entries come in order of their raw types, and those of one raw type in order of their ids. -/
theorem key_lt_iff {a b : AclEntry} :
    a.key < b.key ↔ a.rawType < b.rawType ∨ a.rawType = b.rawType ∧ a.id < b.id := by
  have left := a.id.toNat_lt
  have right := b.id.toNat_lt
  rw [UInt32.lt_iff_toNat_lt]
  unfold key
  omega

/-- Whom the entry speaks of. -/
def whom (e : AclEntry) : AclTag × Bool × UInt32 :=
  (e.tag, e.isDefault, e.id)

/-- Entries have one key exactly if they speak of the same. -/
theorem key_eq_iff {a b : AclEntry} : a.key = b.key ↔ a.whom = b.whom := by
  have parts : a.key = b.key ↔ a.rawType = b.rawType ∧ a.id.toNat = b.id.toNat := by
    have left := a.id.toNat_lt
    have right := b.id.toNat_lt
    unfold key
    omega
  rw [parts, rawType_eq_iff, UInt32.toNat_inj, and_assoc]
  simp only [whom, Prod.mk.injEq]

/-- The list is in order, and no key stands in it twice. -/
def Increasing (entries : List AclEntry) : Prop :=
  entries.Pairwise fun a b => a.key < b.key

theorem Increasing.ordered {entries : List AclEntry} (increasing : Increasing entries) :
    Ordered entries :=
  List.Pairwise.imp Nat.le_of_lt increasing

theorem Increasing.nodup {entries : List AclEntry} (increasing : Increasing entries) :
    (entries.map key).Nodup :=
  List.pairwise_map.2 (increasing.imp Nat.ne_of_lt)

theorem sort_eq_insertionSort (entries : List AclEntry) :
    sort entries = entries.insertionSort fun a b => a.key ≤ b.key := by
  have placed : ∀ (e : AclEntry) (rest : List AclEntry),
      place e rest = rest.orderedInsert (fun a b => a.key ≤ b.key) e := by
    intro e rest
    induction rest with
    | nil => rfl
    | cons d rest ih => rw [place, List.orderedInsert_cons, ih]
  induction entries with
  | nil => rfl
  | cons e rest ih => rw [sort, placed, ih, List.insertionSort_cons]

theorem perm_sort (entries : List AclEntry) : (sort entries).Perm entries := by
  rw [sort_eq_insertionSort]
  exact List.perm_insertionSort _ entries

theorem mem_sort {e : AclEntry} {entries : List AclEntry} : e ∈ sort entries ↔ e ∈ entries :=
  (perm_sort entries).mem_iff

theorem sort_of_ordered {entries : List AclEntry} (ordered : Ordered entries) :
    sort entries = entries := by
  rw [sort_eq_insertionSort]
  exact List.Pairwise.insertionSort_eq ordered

/-- Sorting gives the increasing list of the entries, if there is one. -/
theorem sort_eq_of_perm {entries sorted : List AclEntry} (perm : entries.Perm sorted)
    (increasing : Increasing sorted) : sort entries = sorted := by
  have same : (sort entries).Perm sorted := (perm_sort entries).trans perm
  refine same.eq_of_pairwise ?_ (ordered_sort entries) increasing.ordered
  intro a b left right forth back
  exact List.inj_on_of_nodup_map increasing.nodup (same.subset left) right (Nat.le_antisymm forth back)

end AclEntry

namespace Acl

open AclEntry

/-- How many entries have the tag, among the default entries or among the others. -/
def tally (entries : List AclEntry) (tag : AclTag) (isDefault : Bool) : Nat :=
  entries.countP fun e => e.tag = tag ∧ e.isDefault = isDefault

/-- Owner, owning group and everyone else have one entry each, and so has the mask as soon as users or
groups are named. -/
structure Complete (entries : List AclEntry) (isDefault : Bool) : Prop where
  base (tag : AclTag) (shift : Mode) (speaks : tag.shift? = some shift) : tally entries tag isDefault = 1
  mask : (tally entries .user isDefault = 0 ∧ tally entries .group isDefault = 0) ∨
    tally entries .mask isDefault = 1

/-- What the entries of a valid list are. -/
structure WellFormed (entries : List AclEntry) : Prop where
  small (e : AclEntry) (member : e ∈ entries) : e.perm ≤ 7
  increasing : Increasing entries
  access : Complete entries false
  default (some_ : ∃ e ∈ entries, e.isDefault = true) : Complete entries true

theorem complete_iff {acl : Acl} {isDefault : Bool} :
    Complete acl.entries isDefault ↔ acl.hasBase isDefault = true ∧ acl.hasNeededMask isDefault = true := by
  unfold hasBase hasNeededMask count
  simp only [decide_eq_true_eq]
  constructor
  · rintro ⟨base, mask⟩
    exact ⟨⟨base .userObj _ rfl, base .groupObj _ rfl, base .other _ rfl⟩, mask⟩
  · rintro ⟨⟨owner, group, other⟩, mask⟩
    refine ⟨fun tag shift speaks => ?_, mask⟩
    cases tag with
    | userObj => exact owner
    | groupObj => exact group
    | other => exact other
    | user | group | mask => cases speaks

/-- The scan passes over small permissions and increasing keys. -/
theorem checkEntries_eq_ok_iff {previous : Option AclEntry} {entries : List AclEntry}
    (ordered : Ordered (previous.toList ++ entries)) :
    checkEntries previous entries = .ok () ↔
      (∀ e ∈ entries, e.perm ≤ 7) ∧ Increasing (previous.toList ++ entries) := by
  induction entries generalizing previous with
  | nil => cases previous <;> simp [checkEntries, Increasing]
  | cons e rest ih =>
    have tail : Ordered (e :: rest) := (List.pairwise_append.1 ordered).2.1
    -- The entry before is before all of them, if it is not the same key.
    have first : Increasing (previous.toList ++ e :: rest) ↔
        previous.map key ≠ some e.key ∧ Increasing (e :: rest) := by
      cases previous with
      | none => simp
      | some p =>
        have least := (List.pairwise_cons.1 ordered).1
        have above := (List.pairwise_cons.1 tail).1
        simp only [Option.toList_some, List.singleton_append, Option.map_some, ne_eq, Option.some.injEq]
        constructor
        · intro increasing
          obtain ⟨less, later⟩ := List.pairwise_cons.1 increasing
          exact ⟨Nat.ne_of_lt (less e List.mem_cons_self), later⟩
        · rintro ⟨other, later⟩
          have less : p.key < e.key := Nat.lt_of_le_of_ne (least e List.mem_cons_self) other
          refine List.pairwise_cons.2 ⟨fun x member => ?_, later⟩
          rcases List.mem_cons.1 member with rfl | member
          · exact less
          · exact Nat.lt_of_lt_of_le less (above x member)
    rw [first, List.forall_mem_cons, ← UInt8.not_lt]
    unfold checkEntries
    by_cases large : e.perm > 7
    · simp [large]
    · rw [if_neg large]
      by_cases twice : previous.map key = some e.key
      · simp [twice]
      · have later : checkEntries (some e) rest = .ok () ↔ _ := ih tail
        rw [if_neg twice, later]
        simp [large, twice]

theorem hasDefaults_iff {acl : Acl} :
    acl.hasDefaults = true ↔ ∃ e ∈ acl.entries, e.isDefault = true :=
  List.any_eq_true

/-- A list is valid exactly if it is empty or well formed. -/
theorem validate_eq_ok_iff {acl : Acl} :
    acl.validate = .ok () ↔ acl.entries = [] ∨ WellFormed acl.entries := by
  have refused : ∀ {p : Prop} [Decidable p] {e : Error},
      (if p then (throw e : Except Error Unit) else pure ()) = .ok () ↔ ¬ p := by
    intro p _ e
    by_cases h : p <;> simp [h, throw, throwThe, MonadExceptOf.throw, pure, Except.pure]
  unfold validate
  by_cases empty : acl.isEmpty = true
  · simp [empty, List.isEmpty_iff.1 empty]
  · have some_ : acl.entries ≠ [] := fun none_ => empty (List.isEmpty_iff.2 none_)
    have scanned : checkEntries none acl.entries = .ok () ↔
        (∀ e ∈ acl.entries, e.perm ≤ 7) ∧ Increasing acl.entries :=
      checkEntries_eq_ok_iff acl.ordered
    rw [if_neg empty]
    simp only [Error.bind_eq_ok_iff, Error.guarded_eq_ok_iff, some_, false_or, scanned,
      Decidable.not_not]
    constructor
    · rintro ⟨_, ⟨small, increasing⟩, base, mask, rest⟩
      refine ⟨small, increasing, complete_iff.2 ⟨base, mask⟩, fun defaults => ?_⟩
      rw [if_pos (hasDefaults_iff.2 defaults)] at rest
      obtain ⟨base, masked⟩ := Error.guarded_eq_ok_iff.1 rest
      exact complete_iff.2 ⟨Decidable.not_not.1 base, Decidable.not_not.1 (refused.1 masked)⟩
    · rintro ⟨small, increasing, access, default⟩
      obtain ⟨base, mask⟩ := complete_iff.1 access
      refine ⟨(), ⟨small, increasing⟩, base, mask, ?_⟩
      split
      · rename_i defaults
        obtain ⟨base, mask⟩ := complete_iff.1 (default (hasDefaults_iff.1 defaults))
        exact Error.guarded_eq_ok_iff.2 ⟨not_not_intro base, refused.2 (not_not_intro mask)⟩
      · rfl

section Lists

variable {entries : List AclEntry} {tag : AclTag} {isDefault : Bool} {a b : AclEntry}

/-- What has one entry does not have two. -/
theorem not_twice (once : tally entries tag isDefault = 1) (pair : [a, b].Sublist entries)
    (first : a.tag = tag ∧ a.isDefault = isDefault) : ¬ (b.tag = tag ∧ b.isDefault = isDefault) := by
  intro second
  have two : tally [a, b] tag isDefault ≤ tally entries tag isDefault := pair.countP_le
  have both : tally [a, b] tag isDefault = 2 := by
    simp [tally, first, second]
  omega

/-- What has one entry has it. -/
theorem exists_of_tally (once : tally entries tag isDefault = 1) :
    ∃ e ∈ entries, e.tag = tag ∧ e.isDefault = isDefault := by
  obtain ⟨e, member, here⟩ := List.countP_pos_iff.1 (Nat.lt_of_lt_of_eq Nat.zero_lt_one once.symm)
  exact ⟨e, member, of_decide_eq_true here⟩

theorem Complete.congr {others : List AclEntry} {kind : Bool} (complete : Complete entries isDefault)
    (same : ∀ tag, tally others tag kind = tally entries tag isDefault) : Complete others kind := by
  refine ⟨fun tag shift speaks => (same tag).trans (complete.base tag shift speaks), ?_⟩
  rw [same, same, same]
  exact complete.mask

/-- A change of the entries that leaves to each its tag and its kind leaves the numbers of entries. -/
theorem Complete.map {f : AclEntry → AclEntry} (complete : Complete entries isDefault)
    (same : ∀ e ∈ entries, (f e).tag = e.tag ∧ (f e).isDefault = e.isDefault) :
    Complete (entries.map f) isDefault := by
  refine complete.congr fun tag => ?_
  unfold tally
  rw [List.countP_map]
  refine List.countP_congr fun e member => ?_
  rw [Function.comp_apply, (same e member).1, (same e member).2]

theorem tally_append (front back : List AclEntry) (tag : AclTag) (isDefault : Bool) :
    tally (front ++ back) tag isDefault = tally front tag isDefault + tally back tag isDefault :=
  List.countP_append

/-- Entries of the other kind do not count. -/
theorem tally_eq_zero (apart : ∀ e ∈ entries, e.isDefault ≠ isDefault) (tag : AclTag) :
    tally entries tag isDefault = 0 :=
  List.countP_eq_zero.2 fun e member here => apart e member (of_decide_eq_true here).2

end Lists

section Changes

variable {acl : Acl}

/-- A valid list has an entry for each of those whom a mode word speaks of. -/
theorem exists_find? (wf : WellFormed acl.entries) {tag : AclTag} {shift : Mode}
    (speaks : tag.shift? = some shift) : ∃ e, acl.find? tag = some e := by
  obtain ⟨e, member, here, plain⟩ := exists_of_tally (wf.access.base tag shift speaks)
  exact Option.isSome_iff_exists.1 (List.find?_isSome.2 ⟨e, member, by simp [here, plain]⟩)

/-- A valid list that is not empty is well formed. -/
theorem wellFormed_of_filled (valid : acl.validate = .ok ()) (some_ : acl.isEmpty = false) :
    WellFormed acl.entries := by
  rcases validate_eq_ok_iff.1 valid with empty | wf
  · rw [isEmpty, empty] at some_
    cases some_
  · exact wf

theorem isEmpty_of_wellFormed (wf : WellFormed acl.entries) : acl.isEmpty = false := by
  obtain ⟨e, found⟩ := exists_find? wf (show AclTag.userObj.shift? = some 6 from rfl)
  refine Bool.eq_false_iff.2 fun empty => ?_
  have member := List.mem_of_find?_eq_some found
  rw [List.isEmpty_iff.1 empty] at member
  cases member

/-- An entry that is found is of access, and has the tag. -/
theorem find?_passed {tag : AclTag} {e : AclEntry} (found : acl.find? tag = some e) :
    e.tag = tag ∧ e.isDefault = false := by
  have passed := List.find?_some found
  rw [decide_eq_true_eq, Bool.not_eq_true] at passed
  exact passed

/-- What a change of the mode makes of an entry. -/
def under (hasMask : Bool) (mode : Mode) (e : AclEntry) : AclEntry :=
  match permUnder hasMask mode e with
  | some perm => { e with perm := perm.toUInt8 }
  | none => e

theorem under_same (hasMask : Bool) (mode : Mode) (e : AclEntry) :
    (under hasMask mode e).tag = e.tag ∧ (under hasMask mode e).isDefault = e.isDefault ∧
      (under hasMask mode e).key = e.key := by
  unfold under
  split <;> exact ⟨rfl, rfl, rfl⟩

theorem under_id (hasMask : Bool) (mode : Mode) (e : AclEntry) : (under hasMask mode e).id = e.id := by
  unfold under
  split <;> rfl

/-- A mode hands on three bits at a time. -/
theorem triple_of_permUnder {hasMask : Bool} {mode perm : Mode} {e : AclEntry}
    (changed : permUnder hasMask mode e = some perm) : perm.Triple := by
  unfold permUnder at changed
  split at changed
  · cases changed
  · split at changed
    · cases changed
      exact Mode.triple_bitsAt mode 6
    · cases changed
      exact Mode.triple_bitsAt mode 3
    · split at changed <;> cases changed
      exact Mode.triple_bitsAt mode 3
    · cases changed
      exact Mode.triple_otherBits mode
    · cases changed

theorem under_small {hasMask : Bool} {mode : Mode} {e : AclEntry} (small : e.perm ≤ 7) :
    (under hasMask mode e).perm ≤ 7 := by
  unfold under
  split
  · rename_i perm changed
    exact (triple_of_permUnder changed).toUInt8_le
  · exact small

/-- The entries stay in their places. -/
theorem entries_withMode (acl : Acl) (mode : Mode) :
    (acl.withMode mode).entries = acl.entries.map (under (acl.find? .mask).isSome mode) := by
  refine sort_of_ordered (List.pairwise_map.2 (acl.ordered.imp fun {a b} le => ?_))
  have left := (under_same (acl.find? .mask).isSome mode a).2.2
  have right := (under_same (acl.find? .mask).isSome mode b).2.2
  exact left.trans_le (le.trans_eq right.symm)

/-- A change of the mode leaves a valid list valid. -/
theorem wellFormed_withMode (mode : Mode) (wf : WellFormed acl.entries) :
    WellFormed (acl.withMode mode).entries := by
  have same := under_same (acl.find? .mask).isSome mode
  have kind : ∀ e, (under (acl.find? .mask).isSome mode e).tag = e.tag ∧
      (under (acl.find? .mask).isSome mode e).isDefault = e.isDefault :=
    fun e => ⟨(same e).1, (same e).2.1⟩
  rw [entries_withMode]
  refine ⟨?_, ?_, wf.access.map fun e _ => kind e, fun ⟨e, member, default⟩ => ?_⟩
  · intro e member
    obtain ⟨old, there, rfl⟩ := List.mem_map.1 member
    exact under_small (wf.small old there)
  · refine List.pairwise_map.2 (wf.increasing.imp fun {a b} less => ?_)
    exact (same a).2.2.trans_lt (less.trans_eq (same b).2.2.symm)
  · obtain ⟨old, there, rfl⟩ := List.mem_map.1 member
    exact (wf.default ⟨old, there, (kind old).2.symm.trans default⟩).map fun e _ => kind e

end Changes

end Acl
end Stowage
