import Mathlib.Data.List.Find
import Mathlib.Data.List.Perm.Basic
import Stowage.Proofs.AccessLists

/-! What new entries inherit. The default entries of a directory with a valid list offer a list; a new entry
takes it, within its creation mode where the list speaks of its owner, of its group or of everyone else, and
a new directory hands the default entries on as they are. -/
namespace Stowage

namespace AclEntry

/-- A default entry as one of access. -/
def access (e : AclEntry) : AclEntry :=
  { e with isDefault := false }

/-- A default entry comes after all entries of access. -/
theorem key_access {e : AclEntry} (default : e.isDefault = true) :
    e.key = e.access.key + 32 * 0x100000000 := by
  simp only [key, rawType, access, default, if_pos, Bool.false_eq_true, if_false]
  omega

theorem key_lt_of_default {a b : AclEntry} (plain : a.isDefault = false) (default : b.isDefault = true) :
    a.key < b.key := by
  have low := a.tag.raw_le
  refine key_lt_iff.2 (.inl ?_)
  simp only [rawType, plain, default, if_pos, Bool.false_eq_true, if_false]
  omega

end AclEntry

namespace Acl

open AclEntry

variable {acl : Acl} {uid gid : UInt32} {create mode : Mode} {tag : AclTag} {shift : Mode}

/-- The default entries. -/
def defaults (acl : Acl) : List AclEntry :=
  acl.entries.filter (·.isDefault)

theorem isDefault_of_mem_defaults {e : AclEntry} (member : e ∈ acl.defaults) : e.isDefault = true :=
  (List.mem_filter.1 member).2

/-- The list that the default entries are as entries of access. -/
def offered (acl : Acl) : Acl where
  entries := acl.defaults.map access
  ordered := by
    refine List.pairwise_map.2 ((acl.ordered.filter _).imp_of_mem fun {a b} left right le => ?_)
    have first := key_access (isDefault_of_mem_defaults left)
    have second := key_access (isDefault_of_mem_defaults right)
    omega

theorem tally_offered (acl : Acl) (tag : AclTag) :
    tally acl.offered.entries tag false = tally acl.entries tag true := by
  unfold tally offered defaults
  rw [List.countP_map, List.countP_filter]
  refine List.countP_congr fun e _ => ?_
  rw [Bool.and_eq_true, Function.comp_apply, decide_eq_true_eq, decide_eq_true_eq]
  exact ⟨fun here => ⟨here.1.1, here.2⟩, fun here => ⟨⟨here.1, rfl⟩, here.2⟩⟩

/-- What the default entries offer is well formed, if they belong to a valid list. -/
theorem wellFormed_offered (wf : WellFormed acl.entries) (some_ : acl.hasDefaults = true) :
    WellFormed acl.offered.entries := by
  refine ⟨?_, ?_, (wf.default (hasDefaults_iff.1 some_)).congr (tally_offered acl), ?_⟩
  · intro e member
    obtain ⟨old, there, rfl⟩ := List.mem_map.1 member
    exact wf.small old (List.mem_filter.1 there).1
  · refine List.pairwise_map.2 ((wf.increasing.filter _).imp_of_mem fun {a b} left right less => ?_)
    have first := key_access (isDefault_of_mem_defaults left)
    have second := key_access (isDefault_of_mem_defaults right)
    omega
  · rintro ⟨e, member, default⟩
    obtain ⟨old, -, rfl⟩ := List.mem_map.1 member
    cases default

theorem isDefault_of_mem_offered {e : AclEntry} (member : e ∈ acl.offered.entries) : e.isDefault = false := by
  obtain ⟨old, -, rfl⟩ := List.mem_map.1 member
  rfl

/-- What is offered with a tag is what the first default entry with the tag permits. -/
theorem permOf?_offered (acl : Acl) (tag : AclTag) :
    acl.offered.permOf? tag = (acl.findDefault? tag).map (·.perm.toUInt32) := by
  have defaults : acl.defaults.find? ((fun e => e.tag = tag ∧ ¬ e.isDefault) ∘ access) =
      acl.findDefault? tag := by
    unfold Acl.defaults findDefault?
    rw [List.find?_filter]
    refine List.find?_congr fun e _ => ?_
    refine decide_eq_decide.2 ?_
    rw [Function.comp_apply, decide_eq_true_eq]
    exact ⟨fun here => ⟨here.2.1, here.1⟩, fun here => ⟨here.2, here.1, nofun⟩⟩
  rw [permOf?, find?, offered, List.find?_map, defaults, Option.map_map]
  rfl

section Taken

/-- The entries of access that a new entry takes from what is offered. -/
def taken (acl : Acl) (uid gid : UInt32) (create : Mode) : List AclEntry :=
  acl.offered.entries.map (inheritedEntry uid gid create)

theorem map_inheritedEntry (acl : Acl) (uid gid : UInt32) (create : Mode) :
    acl.defaults.map (inheritedEntry uid gid create) = acl.taken uid gid create := by
  unfold taken offered
  rw [List.map_map]
  rfl

theorem inheritedEntry_same (uid gid : UInt32) (create : Mode) (e : AclEntry) :
    (inheritedEntry uid gid create e).tag = e.tag ∧
      (inheritedEntry uid gid create e).isDefault = false := by
  unfold inheritedEntry
  split <;> simp_all

/-- What a permission becomes within the creation mode, if that speaks of those whom it is for. -/
def within (create : Mode) (tag : AclTag) (perm : Mode) : Mode :=
  match tag.shift? with
  | some shift => perm &&& create.bitsAt shift
  | none => perm

theorem perm_inheritedEntry (uid gid : UInt32) (create : Mode) (e : AclEntry) :
    (inheritedEntry uid gid create e).perm.toUInt32 = within create e.tag e.perm.toUInt32 := by
  have bounds : ∀ shift, (e.perm &&& (create.bitsAt shift).toUInt8).toUInt32 =
      e.perm.toUInt32 &&& create.bitsAt shift := by
    intro shift
    rw [UInt8.toUInt32_and, (Mode.triple_bitsAt create shift).toUInt32_toUInt8]
  unfold inheritedEntry within
  cases e.tag with
  | userObj => exact bounds 6
  | groupObj => exact bounds 3
  | other =>
    rw [← Mode.bitsAt_zero]
    exact bounds 0
  | user | group | mask => rfl

theorem small_inheritedEntry {e : AclEntry} (small : e.perm ≤ 7) :
    (inheritedEntry uid gid create e).perm ≤ 7 := by
  have within : ∀ bits : UInt8, e.perm &&& bits ≤ 7 := by
    intro bits
    rw [UInt8.le_iff_toNat_le, UInt8.toNat_and]
    exact Nat.le_trans Nat.and_le_left (UInt8.le_iff_toNat_le.1 small)
  unfold inheritedEntry
  split
  · exact within _
  · exact within _
  · exact within _
  · exact small

/-- Only owner and owning group, of which there is one each, get other ids. -/
theorem id_inheritedEntry {e : AclEntry} (owner : e.tag ≠ .userObj) (group : e.tag ≠ .groupObj) :
    (inheritedEntry uid gid create e).id = e.id := by
  unfold inheritedEntry
  split
  · contradiction
  · contradiction
  · rfl
  · rfl

/-- What a new entry takes is well formed, whoever owns it and whatever mode it is made with. -/
theorem wellFormed_taken (uid gid : UInt32) (create : Mode) (wf : WellFormed acl.offered.entries) :
    WellFormed (acl.taken uid gid create) := by
  have same := inheritedEntry_same uid gid create
  refine ⟨?_, ?_, ?_, ?_⟩
  · intro e member
    obtain ⟨old, there, rfl⟩ := List.mem_map.1 member
    exact small_inheritedEntry (wf.small old there)
  · refine List.pairwise_map.2 (List.pairwise_iff_forall_sublist.2 fun {a b} pair => ?_)
    have less := key_lt_iff.1 (List.pairwise_iff_forall_sublist.1 wf.increasing pair)
    have left : a.isDefault = false := isDefault_of_mem_offered (pair.subset (by simp))
    have right : b.isDefault = false := isDefault_of_mem_offered (pair.subset (by simp))
    have raw : ∀ {e : AclEntry}, e.isDefault = false →
        (inheritedEntry uid gid create e).rawType = e.rawType := fun plain =>
      rawType_eq_iff.2 ⟨(same _).1, (same _).2.trans plain.symm⟩
    refine key_lt_iff.2 ?_
    rw [raw left, raw right]
    refine less.imp_right fun ⟨kind, later⟩ => ⟨kind, ?_⟩
    obtain ⟨tags, -⟩ := rawType_eq_iff.1 kind
    -- Two entries of one tag are none of those that there is one of.
    have several : ∀ tag shift, tag.shift? = some shift → a.tag ≠ tag := fun tag shift speaks here =>
      not_twice (wf.access.base tag shift speaks) pair ⟨here, left⟩ ⟨tags ▸ here, right⟩
    rw [id_inheritedEntry (several _ 6 rfl) (several _ 3 rfl),
      id_inheritedEntry (tags ▸ several _ 6 rfl) (tags ▸ several _ 3 rfl)]
    exact later
  · exact wf.access.map fun e member => ⟨(same e).1, (same e).2.trans (isDefault_of_mem_offered member).symm⟩
  · rintro ⟨e, member, default⟩
    obtain ⟨old, -, rfl⟩ := List.mem_map.1 member
    rw [(same old).2] at default
    cases default

end Taken

section Inherited

theorem isDefault_of_mem_taken {e : AclEntry} (member : e ∈ acl.taken uid gid create) :
    e.isDefault = false := by
  obtain ⟨old, -, rfl⟩ := List.mem_map.1 member
  exact (inheritedEntry_same uid gid create old).2

/-- What a directory hands on to another: the entries that are taken, and the default entries. -/
theorem wellFormed_handed (uid gid : UInt32) (create : Mode) (wf : WellFormed acl.entries)
    (some_ : acl.hasDefaults = true) : WellFormed (acl.taken uid gid create ++ acl.defaults) := by
  have taken := wellFormed_taken uid gid create (wellFormed_offered wf some_)
  refine ⟨?_, List.pairwise_append.2 ⟨taken.increasing, wf.increasing.filter _, ?_⟩, ?_, fun _ => ?_⟩
  · intro e member
    rcases List.mem_append.1 member with new | handed
    · exact taken.small e new
    · exact wf.small e (List.mem_filter.1 handed).1
  · exact fun a left b right =>
      key_lt_of_default (isDefault_of_mem_taken left) (isDefault_of_mem_defaults right)
  · have apart : ∀ e ∈ acl.defaults, e.isDefault ≠ false := fun e member => by
      simp [isDefault_of_mem_defaults member]
    refine taken.access.congr fun tag => ?_
    rw [tally_append, tally_eq_zero apart, Nat.add_zero]
  · have apart : ∀ e ∈ acl.taken uid gid create, e.isDefault ≠ true := fun e member => by
      simp [isDefault_of_mem_taken member]
    refine (wf.default (hasDefaults_iff.1 some_)).congr fun tag => ?_
    rw [tally_append, tally_eq_zero apart, Nat.zero_add]
    unfold tally defaults
    rw [List.countP_filter]
    exact List.countP_congr fun e _ => by simp

/-- A directory takes what is offered, and hands the default entries on. -/
theorem entries_inherit_of_directory (wf : WellFormed acl.entries) (some_ : acl.hasDefaults = true)
    (directory : mode &&& Mode.directory = Mode.directory) :
    (acl.inherit uid gid create mode).1.entries = acl.taken uid gid create ++ acl.defaults := by
  have perm := List.map_append_flatMap_perm acl.defaults (inheritedEntry uid gid create) fun e => [e]
  rw [List.flatMap_singleton', map_inheritedEntry] at perm
  unfold inherit
  simp only [directory, beq_self_eq_true, if_true]
  exact sort_eq_of_perm perm.symm (wellFormed_handed uid gid create wf some_).increasing

/-- What is no directory takes what is offered, if there is a default mask. -/
theorem entries_inherit_of_file (wf : WellFormed acl.entries) (some_ : acl.hasDefaults = true)
    (file : mode &&& Mode.directory ≠ Mode.directory) :
    (acl.inherit uid gid create mode).1.entries =
      if (acl.findDefault? .mask).isSome then acl.taken uid gid create else [] := by
  have taken := wellFormed_taken uid gid create (wellFormed_offered wf some_)
  unfold inherit
  simp only [beq_false_of_ne file, Bool.false_eq_true, if_false]
  split
  · change sort (acl.defaults.map (inheritedEntry uid gid create)) = _
    rw [map_inheritedEntry]
    exact sort_of_ordered taken.increasing.ordered
  · rfl

/-- The list has the entries that are taken, and default entries besides. -/
def Takes (new acl : Acl) (uid gid : UInt32) (create : Mode) : Prop :=
  ∃ rest, new.entries = acl.taken uid gid create ++ rest ∧ ∀ e ∈ rest, e.isDefault = true

/-- What is inherited is a valid list, or none; it is one of the entries that are taken, unless it is for
something that is no directory, and there is no default mask. -/
theorem inherit_cases (uid gid : UInt32) (create mode : Mode) (wf : WellFormed acl.entries)
    (some_ : acl.hasDefaults = true) :
    (WellFormed (acl.inherit uid gid create mode).1.entries ∧
        (acl.inherit uid gid create mode).1.Takes acl uid gid create) ∨
      (acl.inherit uid gid create mode).1.entries = [] ∧ acl.findDefault? .mask = none ∧
        mode &&& Mode.directory ≠ Mode.directory := by
  by_cases directory : mode &&& Mode.directory = Mode.directory
  · left
    unfold Takes
    rw [entries_inherit_of_directory wf some_ directory]
    exact ⟨wellFormed_handed uid gid create wf some_, _, rfl, fun e => isDefault_of_mem_defaults⟩
  · unfold Takes
    rw [entries_inherit_of_file wf some_ directory]
    cases masked : acl.findDefault? .mask with
    | none => exact .inr ⟨rfl, rfl, directory⟩
    | some mask =>
      refine .inl ⟨wellFormed_taken uid gid create (wellFormed_offered wf some_), [], ?_, nofun⟩
      exact (List.append_nil _).symm

/-- A directory hands its default entries on to every directory in it. -/
theorem defaults_inherit_of_directory (wf : WellFormed acl.entries) (some_ : acl.hasDefaults = true)
    (directory : mode &&& Mode.directory = Mode.directory) :
    (acl.inherit uid gid create mode).1.defaults = acl.defaults := by
  have plain : (acl.taken uid gid create).filter (·.isDefault) = [] :=
    List.filter_eq_nil_iff.2 fun e member => by simp [isDefault_of_mem_taken member]
  have all : acl.defaults.filter (·.isDefault) = acl.defaults :=
    List.filter_eq_self.2 fun e => isDefault_of_mem_defaults
  rw [defaults, entries_inherit_of_directory wf some_ directory, List.filter_append, plain, all,
    List.nil_append]

/-- Nothing but a directory gets default entries. -/
theorem hasDefaults_inherit_of_file (wf : WellFormed acl.entries) (some_ : acl.hasDefaults = true)
    (file : mode &&& Mode.directory ≠ Mode.directory) :
    (acl.inherit uid gid create mode).1.hasDefaults = false := by
  rw [Bool.eq_false_iff]
  intro defaults
  obtain ⟨e, member, default⟩ := hasDefaults_iff.1 defaults
  rw [entries_inherit_of_file wf some_ file] at member
  split at member
  · cases (isDefault_of_mem_taken member).symm.trans default
  · cases member

/-- The list grants what is offered, within the creation mode. -/
theorem Takes.permOf? {new : Acl} (takes : new.Takes acl uid gid create) (tag : AclTag) :
    new.permOf? tag = (acl.offered.permOf? tag).map (within create tag) := by
  obtain ⟨rest, same, default⟩ := takes
  have others : rest.find? (fun e => e.tag = tag ∧ ¬ e.isDefault) = none :=
    List.find?_eq_none.2 fun e member => by simp [default e member]
  have plain : acl.offered.entries.find? ((fun e => e.tag = tag ∧ ¬ e.isDefault) ∘
      inheritedEntry uid gid create) = acl.offered.find? tag := by
    refine List.find?_congr fun e member => ?_
    obtain ⟨tags, kind⟩ := inheritedEntry_same uid gid create e
    simp [tags, kind, isDefault_of_mem_offered member]
  unfold Acl.permOf?
  rw [find?, same, List.find?_append, others, Option.or_none, taken, List.find?_map, plain,
    Option.map_map, Option.map_map]
  refine Option.map_congr fun e found => ?_
  rw [Function.comp_apply, Function.comp_apply, perm_inheritedEntry, (find?_passed found).1]

end Inherited

section Modes

variable {perm : UInt8} {e : AclEntry} {entries : List AclEntry} {i : Nat}

/-- Three bits are bounded, and all others stay. -/
theorem bit_bounded (small : perm ≤ 7) (fits : shift.toNat ≤ 6) (low : i < 32) :
    (bounded mode create shift perm).bit i =
      if shift.toNat ≤ i ∧ i < shift.toNat + 3 then
        create.bit i && Mode.bit perm.toUInt32 (i - shift.toNat)
      else mode.bit i := by
  rw [bounded, Mode.bit_or, Mode.bit_and, Mode.bit_and, Mode.bit_not _ _ low,
    Mode.bit_shiftLeft _ shift (by omega) low, Mode.bit_shiftLeft _ shift (by omega) low, Mode.bit_seven]
  by_cases inside : shift.toNat ≤ i ∧ i < shift.toNat + 3
  · simp [inside, show i - shift.toNat < 3 by omega]
  · by_cases above : shift.toNat ≤ i
    · have beyond : 3 ≤ i - shift.toNat := by omega
      simp [inside, (Mode.triple_of_le small).bit_eq beyond, Nat.not_lt_of_le beyond]
    · simp [above]

theorem boundedBy_eq (create mode : Mode) (e : AclEntry) :
    boundedBy create mode e =
      match e.tag.shift? with
      | some shift => bounded mode create shift e.perm
      | none => mode := by
  unfold boundedBy
  cases e.tag <;> rfl

/-- An entry bounds the bits of those whom it speaks of, and leaves the others. -/
theorem bitsAt_boundedBy (small : e.perm ≤ 7) (speaks : tag.shift? = some shift) :
    (boundedBy create mode e).bitsAt shift =
      if e.tag = tag then create.bitsAt shift &&& e.perm.toUInt32 else mode.bitsAt shift := by
  have fits := AclTag.shift_le speaks
  rw [boundedBy_eq]
  by_cases here : e.tag = tag
  · rw [if_pos here, here, speaks]
    have within : (create.bitsAt shift &&& e.perm.toUInt32).Triple := (Mode.triple_of_le small).and_left _
    refine (Mode.triple_bitsAt _ _).ext within fun i low => ?_
    rw [Mode.bit_bitsAt fits low, Mode.bit_and, Mode.bit_bitsAt fits low,
      bit_bounded small fits (by omega), if_pos (by omega), Nat.add_sub_cancel_left]
  · rw [if_neg here]
    cases other : e.tag.shift? with
    | none => rfl
    | some place =>
      have apart := AclTag.shift_apart other speaks here
      refine (Mode.triple_bitsAt _ _).ext (Mode.triple_bitsAt _ _) fun i low => ?_
      rw [Mode.bit_bitsAt fits low, Mode.bit_bitsAt fits low,
        bit_bounded small (AclTag.shift_le other) (by omega), if_neg (by omega)]

theorem bitsAt_foldl (small : ∀ e ∈ entries, e.perm ≤ 7) (speaks : tag.shift? = some shift)
    (absent : ∀ e ∈ entries, e.tag ≠ tag) :
    (entries.foldl (boundedBy create) mode).bitsAt shift = mode.bitsAt shift := by
  induction entries generalizing mode with
  | nil => rfl
  | cons e rest ih =>
    rw [List.foldl_cons, ih (fun x member => small x (List.mem_cons_of_mem e member))
      (fun x member => absent x (List.mem_cons_of_mem e member)),
      bitsAt_boundedBy (small e List.mem_cons_self) speaks, if_neg (absent e List.mem_cons_self)]

/-- What is bounded are the nine permission bits. -/
theorem bit_boundedBy (small : e.perm ≤ 7) (beyond : 9 ≤ i) (low : i < 32) :
    (boundedBy create mode e).bit i = mode.bit i := by
  rw [boundedBy_eq]
  cases speaks : e.tag.shift? with
  | none => rfl
  | some shift =>
    have fits := AclTag.shift_le speaks
    exact (bit_bounded small fits low).trans (if_neg (by omega))

/-- The mode of a new entry follows what is offered. -/
theorem mode_inherit (acl : Acl) (uid gid : UInt32) (create mode : Mode) :
    (acl.inherit uid gid create mode).2 = acl.offered.entries.foldl (boundedBy create) mode := by
  unfold offered
  rw [List.foldl_map]
  rfl

/-- What a new entry inherits leaves all but its permission bits. -/
theorem bit_inherit (wf : WellFormed acl.offered.entries) (beyond : 9 ≤ i) (low : i < 32) :
    (acl.inherit uid gid create mode).2.bit i = mode.bit i := by
  have folded : ∀ (entries : List AclEntry) (mode : Mode), (∀ e ∈ entries, e.perm ≤ 7) →
      (entries.foldl (boundedBy create) mode).bit i = mode.bit i := by
    intro entries
    induction entries with
    | nil => exact fun _ _ => rfl
    | cons e rest ih =>
      intro mode small
      rw [List.foldl_cons, ih _ (fun x member => small x (List.mem_cons_of_mem e member)),
        bit_boundedBy (small e List.mem_cons_self) beyond low]
  rw [mode_inherit]
  exact folded _ _ wf.small

/-- The new entry shows what is offered to its owner, to its group and to everyone else, within the creation
mode. -/
theorem bitsAt_inherit (uid gid : UInt32) (create mode : Mode) (wf : WellFormed acl.offered.entries)
    (speaks : tag.shift? = some shift) :
    ∃ perm, acl.offered.permOf? tag = some perm ∧
      (acl.inherit uid gid create mode).2.bitsAt shift = within create tag perm := by
  have once := wf.access.base tag shift speaks
  obtain ⟨e, found⟩ := exists_find? wf speaks
  obtain ⟨here, plain⟩ := find?_passed found
  refine ⟨e.perm.toUInt32, congrArg (Option.map _) found, ?_⟩
  obtain ⟨-, front, back, split, -⟩ := List.find?_eq_some_iff_append.1 found
  have inside : ∀ x ∈ e :: back, x ∈ acl.offered.entries := fun x member =>
    split ▸ List.mem_append_right front member
  -- No entry that comes later has the tag, so the bits stay what the entry makes of them.
  have absent : ∀ x ∈ back, x.tag ≠ tag := by
    intro x member other
    have pair : [e, x].Sublist acl.offered.entries :=
      split ▸ ((List.singleton_sublist.2 member).cons_cons e).trans (List.sublist_append_right front _)
    have bare := isDefault_of_mem_offered (inside x (List.mem_cons_of_mem e member))
    exact not_twice once pair ⟨here, plain⟩ ⟨other, bare⟩
  have small : ∀ x ∈ e :: back, x.perm ≤ 7 := fun x member => wf.small x (inside x member)
  rw [mode_inherit, split, List.foldl_append, List.foldl_cons,
    bitsAt_foldl (fun x member => small x (List.mem_cons_of_mem e member)) speaks absent,
    bitsAt_boundedBy (small e List.mem_cons_self) speaks, if_pos here, within, speaks, UInt32.and_comm]

/-- Of those whom the mode speaks of, a new entry lists what it shows. -/
theorem Takes.shown {new : Acl} (takes : new.Takes acl uid gid create)
    (wf : WellFormed acl.offered.entries) (mode : Mode) (speaks : tag.shift? = some shift) :
    new.permOf? tag = some ((acl.inherit uid gid create mode).2.bitsAt shift) := by
  obtain ⟨perm, offers, shows_⟩ := bitsAt_inherit uid gid create mode wf speaks
  rw [takes.permOf?, offers, shows_]
  rfl

end Modes

end Acl
end Stowage
