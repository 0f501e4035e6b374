import Stowage.Proofs.AccessLists
import Stowage.Proofs.Actions

/-! Which entries make a valid list. The rules are said of the entries as they are given, in no order. The list
puts those of one key side by side, so a look at neighbours finds every repetition, and how many entries there
are of a kind is the same in any order. -/
namespace Stowage.Acl

open AclEntry

variable {entries : List AclEntry} {isDefault : Bool}

/-- The rules for the entries of access, or for the default entries. There is one entry each for the owner, the
owning group and everyone else, and one mask if users or groups are named. -/
structure LawfulAmong (entries : List AclEntry) (isDefault : Bool) : Prop where
  owner : tally entries .userObj isDefault = 1
  owning : tally entries .groupObj isDefault = 1
  other : tally entries .other isDefault = 1
  mask (named : ∃ e ∈ entries, (e.tag = .user ∨ e.tag = .group) ∧ e.isDefault = isDefault) :
    tally entries .mask isDefault = 1

/-- The rules for the entries of a list. Permissions have three bits, no two entries speak of the same, and the
default entries, if there are any, have to be complete as the others have. -/
structure Lawful (entries : List AclEntry) : Prop where
  small (e : AclEntry) (member : e ∈ entries) : e.perm ≤ 7
  apart : (entries.map whom).Nodup
  access : LawfulAmong entries false
  default (some_ : ∃ e ∈ entries, e.isDefault = true) : LawfulAmong entries true

/-- Nobody is named exactly if the named users are none, and the named groups are none. -/
theorem unnamed_iff : (¬ ∃ e ∈ entries, (e.tag = .user ∨ e.tag = .group) ∧ e.isDefault = isDefault) ↔
    tally entries .user isDefault = 0 ∧ tally entries .group isDefault = 0 := by
  have none_ : ∀ tag, tally entries tag isDefault = 0 ↔
      ∀ e ∈ entries, ¬ (e.tag = tag ∧ e.isDefault = isDefault) := by
    intro tag
    simp only [tally, List.countP_eq_zero, decide_eq_true_eq]
  rw [none_, none_, ← forall₂_and]
  simp only [not_exists, not_and, or_imp]

theorem lawfulAmong_iff : LawfulAmong entries isDefault ↔ Complete entries isDefault := by
  constructor
  · rintro ⟨owner, owning, other, mask⟩
    refine ⟨fun tag shift speaks => ?_, ?_⟩
    · cases tag with
      | userObj => exact owner
      | groupObj => exact owning
      | other => exact other
      | user | group | mask => cases speaks
    · by_cases named : ∃ e ∈ entries, (e.tag = .user ∨ e.tag = .group) ∧ e.isDefault = isDefault
      · exact .inr (mask named)
      · exact .inl (unnamed_iff.1 named)
  · rintro ⟨base, mask⟩
    refine ⟨base .userObj _ rfl, base .groupObj _ rfl, base .other _ rfl, fun named => ?_⟩
    exact mask.resolve_left fun unnamed => unnamed_iff.2 unnamed named

/-- Order is nothing to the numbers of entries. -/
theorem Complete.perm {others : List AclEntry} (perm : others.Perm entries)
    (complete : Complete entries isDefault) : Complete others isDefault :=
  complete.congr fun _ => perm.countP_eq _

/-- The keys of the sorted entries increase exactly if no two entries speak of the same. -/
theorem increasing_sort_iff : Increasing (sort entries) ↔ (entries.map whom).Nodup := by
  -- The sorted entries are in order of their keys, so these increase as soon as none is repeated.
  have keys : Increasing (sort entries) ↔ ((sort entries).map key).Nodup := by
    refine ⟨Increasing.nodup, fun distinct => ?_⟩
    refine ((ordered_sort entries).and (List.pairwise_map.1 distinct)).imp ?_
    exact fun ⟨le, other⟩ => Nat.lt_of_le_of_ne le other
  calc Increasing (sort entries)
    _ ↔ ((sort entries).map key).Nodup := keys
    _ ↔ ((sort entries).map whom).Nodup := by
      simp only [List.Nodup, List.pairwise_map, ne_eq, key_eq_iff]
    _ ↔ (entries.map whom).Nodup := ((perm_sort entries).map whom).nodup_iff

/-- The sorted entries are those of a well-formed list exactly if the entries keep to the rules. -/
theorem wellFormed_sort_iff : WellFormed (sort entries) ↔ Lawful entries := by
  have perm := perm_sort entries
  have complete : ∀ kind, Complete (sort entries) kind ↔ LawfulAmong entries kind := fun kind =>
    ⟨fun sorted => lawfulAmong_iff.2 (sorted.perm perm.symm), fun given => (lawfulAmong_iff.1 given).perm perm⟩
  constructor
  · rintro ⟨small, increasing, access, default⟩
    refine ⟨fun e member => small e (mem_sort.2 member), increasing_sort_iff.1 increasing,
      (complete false).1 access, ?_⟩
    rintro ⟨e, member, kind⟩
    exact (complete true).1 (default ⟨e, mem_sort.2 member, kind⟩)
  · rintro ⟨small, apart, access, default⟩
    refine ⟨fun e member => small e (mem_sort.1 member), increasing_sort_iff.2 apart,
      (complete false).2 access, ?_⟩
    rintro ⟨e, member, kind⟩
    exact (complete true).2 (default ⟨e, mem_sort.1 member, kind⟩)

theorem kind_of_checkEntries_eq_error {previous : Option AclEntry} {fault : Error}
    (failed : checkEntries previous entries = .error fault) : fault.kind = .invalidAcl := by
  induction entries generalizing previous with
  | nil => cases failed
  | cons e rest ih =>
    unfold checkEntries at failed
    split at failed
    · cases failed
      rfl
    · split at failed
      · cases failed
        rfl
      · exact ih failed

theorem kind_of_validate_eq_error {acl : Acl} {fault : Error} (failed : acl.validate = .error fault) :
    fault.kind = .invalidAcl := by
  unfold validate at failed
  split at failed
  · cases failed
  rcases Error.bind_eq_error_iff.1 failed with scan | ⟨_, -, counts⟩
  · exact kind_of_checkEntries_eq_error scan
  obtain ⟨-, rfl⟩ | ⟨-, masked⟩ := Error.guarded_eq_error_iff.1 counts
  · rfl
  obtain ⟨-, rfl⟩ | ⟨-, defaults⟩ := Error.guarded_eq_error_iff.1 masked
  · rfl
  split at defaults
  · obtain ⟨-, rfl⟩ | ⟨-, last⟩ := Error.guarded_eq_error_iff.1 defaults
    · rfl
    · split at last <;> cases last
      rfl
  · cases defaults

/-- Whatever entries are given, and in whatever order: their list is valid exactly if there are none of them or
they keep to the rules. If not, it is refused as an invalid list. -/
theorem valid_iff_lawful (entries : List AclEntry) :
    ((ofEntries entries).validate = .ok () ↔ entries = [] ∨ Lawful entries) ∧
      ((∃ e, (ofEntries entries).validate = .error e ∧ e.kind = .invalidAcl) ↔
        ¬ (entries = [] ∨ Lawful entries)) := by
  have valid : (ofEntries entries).validate = .ok () ↔ entries = [] ∨ Lawful entries := by
    have empty : sort entries = [] ↔ entries = [] := by
      rw [← List.perm_nil, (perm_sort entries).congr_left, List.perm_nil]
    rw [validate_eq_ok_iff, ← empty, ← wellFormed_sort_iff]
    rfl
  refine ⟨valid, ?_⟩
  rw [← valid]
  cases answer : (ofEntries entries).validate with
  | ok _ => simp
  | error e => simp [kind_of_validate_eq_error answer]

/-- Two entries for one user are found, however far apart they are given. -/
example : (ofEntries [⟨.user, false, 7, 2⟩, ⟨.other, false, 0, 0⟩, ⟨.mask, false, 7, 0⟩, ⟨.groupObj, false, 4, 0⟩,
    ⟨.userObj, false, 6, 0⟩, ⟨.user, false, 6, 2⟩]).validate = .error (.invalidAcl "duplicated entry: B2") := by
  decide +kernel

end Stowage.Acl
