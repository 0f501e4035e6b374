import Stowage.Proofs.Authorisation
import Stowage.Proofs.InheritedAccess

/-! What a valid list decides. The entry that names the user settles it; else all entries that name one of the
user's groups, the owning one among them, settle it together; else the entry for everyone else. That says which
bits are granted, and no others are. The order of the entries is nothing to it, and of the groups only the
first one and which of them are not banned. -/
namespace Stowage

namespace SecurityContext

/-- The identity is in a group with this id that is not banned. -/
def Joins (ctx : SecurityContext) (gid : UInt32) : Prop :=
  ∃ group ∈ ctx.groups, group.gid = gid ∧ group.isBanned = false

theorem joins_iff {ctx : SecurityContext} {gid : UInt32} : ctx.Joins gid ↔ hasGroup ctx.groups gid = true :=
  hasGroup_iff.symm

end SecurityContext

namespace AclEntry

/-- The entry is for the user with this id. -/
def NamesUser (e : AclEntry) (uid : UInt32) : Prop :=
  e.isDefault = false ∧ e.tag = .user ∧ e.id = uid

/-- The entry is for a group that the identity is in: the owning group of the file, or one that is named. -/
def NamesGroup (e : AclEntry) (ctx : SecurityContext) (owning : UInt32) : Prop :=
  e.isDefault = false ∧ (e.tag = .groupObj ∧ ctx.Joins owning ∨ e.tag = .group ∧ ctx.Joins e.id)

end AclEntry

namespace Acl

open AclEntry Permission

/-- The upper bound of named users and of groups: the permission of the first mask, if there is one. -/
def bound (acl : Acl) : Mode :=
  (acl.permOf? .mask).getD 7

/-- The bits that the list grants to an identity that does not own the file. -/
inductive Evaluates (acl : Acl) (ctx : SecurityContext) (file : Ownership) : Mode → Prop where
  /-- An entry names the user. -/
  | user {e : AclEntry} (member : e ∈ acl.entries) (names : e.NamesUser ctx.uid) :
      Evaluates acl ctx file (e.perm.toUInt32 &&& acl.bound)
  /-- No entry names the user, and some name groups: each bit that one of these has. -/
  | groups {union : Mode} (unnamed : ∀ e ∈ acl.entries, ¬ e.NamesUser ctx.uid)
      (some_ : ∃ e ∈ acl.entries, e.NamesGroup ctx file.gid)
      (each : ∀ i, union.bit i = true ↔
        ∃ e ∈ acl.entries, e.NamesGroup ctx file.gid ∧ Mode.bit e.perm.toUInt32 i = true) :
      Evaluates acl ctx file (union &&& acl.bound)
  /-- No entry names the user or a group. -/
  | other {e : AclEntry} (unnamed : ∀ e ∈ acl.entries, ¬ e.NamesUser ctx.uid)
      (ungrouped : ∀ e ∈ acl.entries, ¬ e.NamesGroup ctx file.gid) (member : e ∈ acl.entries)
      (plain : e.isDefault = false) (here : e.tag = .other) :
      Evaluates acl ctx file e.perm.toUInt32

section Entries

variable {acl : Acl} {ctx : SecurityContext} {file : Ownership} {e d : AclEntry}

/-- A key stands in a valid list once. -/
theorem WellFormed.eq_of_key (wf : WellFormed acl.entries) (member : e ∈ acl.entries)
    (other : d ∈ acl.entries) (same : e.key = d.key) : e = d :=
  List.inj_on_of_nodup_map wf.increasing.nodup member other same

/-- Owning group and everyone else stand in a valid list once. -/
theorem WellFormed.eq_of_tag (wf : WellFormed acl.entries) {shift : Mode}
    (speaks : e.tag.shift? = some shift) (member : e ∈ acl.entries) (other : d ∈ acl.entries)
    (plain : e.isDefault = false) (same : d.tag = e.tag ∧ d.isDefault = false) : d = e := by
  have once := wf.access.base e.tag shift speaks
  rw [tally, List.countP_eq_length_filter, List.length_eq_one_iff] at once
  obtain ⟨only, alone⟩ := once
  have passes : ∀ x ∈ acl.entries, x.tag = e.tag → x.isDefault = false → x = only := by
    intro x there tag default
    rw [← List.mem_singleton, ← alone]
    exact List.mem_filter.2 ⟨there, decide_eq_true ⟨tag, default⟩⟩
  rw [passes d other same.1 same.2, passes e member rfl plain]

/-- The entry of a tag that stands once is the one that is found. -/
theorem WellFormed.permOf?_eq (wf : WellFormed acl.entries) {shift : Mode}
    (speaks : e.tag.shift? = some shift) (member : e ∈ acl.entries) (plain : e.isDefault = false) :
    acl.permOf? e.tag = some e.perm.toUInt32 := by
  obtain ⟨found, same⟩ := exists_find? wf speaks
  have there := List.mem_of_find?_eq_some same
  rw [permOf?, same, wf.eq_of_tag speaks member there plain (find?_passed same)]
  rfl

theorem namedUser?_eq_none_iff {uid : UInt32} :
    namedUser? acl uid = none ↔ ∀ e ∈ acl.entries, ¬ e.NamesUser uid := by
  rw [namedUser?, Option.map_eq_none_iff, List.find?_eq_none]
  simp only [decide_eq_true_eq, NamesUser, Bool.not_eq_true]

/-- The entry that names the user is the one that is found. -/
theorem WellFormed.namedUser?_eq (wf : WellFormed acl.entries) {uid : UInt32} (member : e ∈ acl.entries)
    (names : e.NamesUser uid) : namedUser? acl uid = some e.perm.toUInt32 := by
  have passes : ∃ d ∈ acl.entries, decide (¬ d.isDefault = true ∧ d.tag = .user ∧ d.id = uid) = true :=
    ⟨e, member, by simpa [NamesUser] using names⟩
  obtain ⟨found, same⟩ := Option.isSome_iff_exists.1 (List.find?_isSome.2 passes)
  have named := List.find?_some same
  rw [decide_eq_true_eq, Bool.not_eq_true] at named
  have raw : found.rawType = e.rawType :=
    rawType_eq_iff.2 ⟨named.2.1.trans names.2.1.symm, named.1.trans names.1.symm⟩
  have keys : found.key = e.key := by
    rw [key, key, raw, named.2.2, names.2.2]
  rw [namedUser?, same, wf.eq_of_key (List.mem_of_find?_eq_some same) member keys]
  rfl

/-- The permissions that count for groups are those of the entries that name one of the groups. -/
theorem WellFormed.mem_groupPerms_iff (wf : WellFormed acl.entries) {perm : Mode} :
    perm ∈ (owningGroup? acl ctx.groups file.gid).toList ++ namedGroups acl ctx.groups ↔
      ∃ e ∈ acl.entries, e.NamesGroup ctx file.gid ∧ e.perm.toUInt32 = perm := by
  have owning : perm ∈ (owningGroup? acl ctx.groups file.gid).toList ↔
      ∃ e ∈ acl.entries, e.isDefault = false ∧ e.tag = .groupObj ∧ ctx.Joins file.gid ∧
        e.perm.toUInt32 = perm := by
    rw [Option.mem_toList, owningGroup?, SecurityContext.joins_iff]
    constructor
    · intro found
      split at found
      · rename_i joins
        obtain ⟨e, same, rfl⟩ := Option.map_eq_some_iff.1 found
        obtain ⟨tag, plain⟩ := find?_passed same
        exact ⟨e, List.mem_of_find?_eq_some same, plain, tag, joins, rfl⟩
      · cases found
    · rintro ⟨e, member, plain, tag, joins, rfl⟩
      have speaks : e.tag.shift? = some 3 := by rw [tag]; rfl
      rw [if_pos joins, ← tag]
      exact wf.permOf?_eq speaks member plain
  have named : perm ∈ namedGroups acl ctx.groups ↔
      ∃ e ∈ acl.entries, e.isDefault = false ∧ e.tag = .group ∧ ctx.Joins e.id ∧
        e.perm.toUInt32 = perm := by
    simp only [namedGroups, List.mem_map, List.mem_filter, decide_eq_true_eq, Bool.not_eq_true,
      SecurityContext.joins_iff, and_assoc]
  rw [List.mem_append, owning, named, ← exists_or]
  refine exists_congr fun e => ?_
  unfold NamesGroup
  tauto

/-- A bit is in the union of permissions if it is in one of them. -/
theorem bit_union {perms : List Mode} {i : Nat} :
    (perms.foldl (· ||| ·) 0).bit i = true ↔ ∃ perm ∈ perms, perm.bit i = true := by
  induction perms with
  | nil => simp [Mode.bit]
  | cons perm rest ih =>
    rw [List.foldl_cons, foldl_or, UInt32.zero_or, Mode.bit_or, Bool.or_eq_true, ih, List.exists_mem_cons_iff]

/-- That the owning group decides alone where there is no mask is no exception: no one else is named then, and
nothing is cut off. -/
theorem grantedByList_eq (wf : WellFormed acl.entries) :
    grantedByList ctx acl file =
      match namedUser? acl ctx.uid with
      | some perm => perm &&& acl.bound
      | none =>
        match (owningGroup? acl ctx.groups file.gid).toList ++ namedGroups acl ctx.groups with
        | [] => (acl.permOf? .other).getD file.mode.otherBits
        | perms => perms.foldl (· ||| ·) 0 &&& acl.bound := by
  unfold grantedByList bound
  cases user : namedUser? acl ctx.uid with
  | some perm => rfl
  | none =>
    cases masked : acl.permOf? .mask with
    | some mask => cases owningGroup? acl ctx.groups file.gid <;> rfl
    | none =>
      obtain ⟨-, ungrouped⟩ := unnamed_of_unmasked wf masked ctx.uid ctx.groups
      cases owned : owningGroup? acl ctx.groups file.gid with
      | none => rfl
      | some perm =>
        have found : acl.permOf? .groupObj = some perm := by
          unfold owningGroup? at owned
          split at owned
          · exact owned
          · cases owned
        have small : perm &&& 7 = perm := triple_of_permOf? wf found
        simp [ungrouped, small]

/-- What a valid list grants is what its entries say. -/
theorem evaluates_grantedByList (wf : WellFormed acl.entries) :
    acl.Evaluates ctx file (grantedByList ctx acl file) := by
  rw [grantedByList_eq wf]
  cases user : namedUser? acl ctx.uid with
  | some perm =>
    obtain ⟨e, found, rfl⟩ := Option.map_eq_some_iff.1 user
    have names := List.find?_some found
    rw [decide_eq_true_eq, Bool.not_eq_true] at names
    exact .user (List.mem_of_find?_eq_some found) names
  | none =>
    have unnamed := namedUser?_eq_none_iff.1 user
    have perms : ∀ perm, perm ∈ (owningGroup? acl ctx.groups file.gid).toList ++ namedGroups acl ctx.groups ↔
        ∃ e ∈ acl.entries, e.NamesGroup ctx file.gid ∧ e.perm.toUInt32 = perm :=
      fun _ => wf.mem_groupPerms_iff
    cases all : (owningGroup? acl ctx.groups file.gid).toList ++ namedGroups acl ctx.groups with
    | nil =>
      obtain ⟨e, member, here, plain⟩ := exists_of_tally (wf.access.base .other 0 rfl)
      have speaks : e.tag.shift? = some 0 := by rw [here]; rfl
      have found := wf.permOf?_eq speaks member plain
      rw [here] at found
      simp only [found, Option.getD_some]
      refine .other unnamed (fun d there names => ?_) member plain here
      have counted := (perms _).2 ⟨d, there, names, rfl⟩
      rw [all] at counted
      cases counted
    | cons first rest =>
      rw [all] at perms
      refine .groups unnamed ?_ fun i => ?_
      · obtain ⟨e, member, names, -⟩ := (perms first).1 List.mem_cons_self
        exact ⟨e, member, names⟩
      · rw [bit_union]
        constructor
        · rintro ⟨perm, counted, set⟩
          obtain ⟨e, member, names, rfl⟩ := (perms perm).1 counted
          exact ⟨e, member, names, set⟩
        · rintro ⟨e, member, names, set⟩
          exact ⟨_, (perms _).2 ⟨e, member, names, rfl⟩, set⟩

/-- The entries of a valid list say one thing. -/
theorem Evaluates.unique (wf : WellFormed acl.entries) {bits more : Mode}
    (first : acl.Evaluates ctx file bits) (second : acl.Evaluates ctx file more) : bits = more := by
  cases first with
  | user member names =>
    cases second with
    | user there again =>
      have same := (wf.namedUser?_eq member names).symm.trans (wf.namedUser?_eq there again)
      rw [Option.some.inj same]
    | groups unnamed _ _ | other unnamed _ _ _ _ => exact absurd names (unnamed _ member)
  | groups unnamed some_ each =>
    cases second with
    | user there again => exact absurd again (unnamed _ there)
    | groups _ _ others =>
      refine congrArg (· &&& acl.bound) (Mode.eq_of_bits fun i _ => ?_)
      rw [Bool.eq_iff_iff, each, others]
    | other _ ungrouped _ _ _ =>
      obtain ⟨e, member, names⟩ := some_
      exact absurd names (ungrouped e member)
  | @other e unnamed ungrouped member plain here =>
    cases second with
    | user there again => exact absurd again (unnamed _ there)
    | groups _ some_ _ =>
      obtain ⟨e, there, names⟩ := some_
      exact absurd names (ungrouped e there)
    | other _ _ there again also =>
      have speaks : e.tag.shift? = some 0 := by rw [here]; rfl
      rw [wf.eq_of_tag speaks member there plain ⟨also.trans here.symm, again⟩]

/-- Entries in another order make the same list, if that is valid. -/
theorem ofEntries_perm {entries others : List AclEntry} (valid : (ofEntries entries).validate = .ok ())
    (perm : others.Perm entries) : ofEntries others = ofEntries entries := by
  have sorted : (sort entries).Perm entries := perm_sort entries
  have same : sort others = sort entries := by
    rcases validate_eq_ok_iff.1 valid with empty | wf
    · have none_ : sort entries = [] := empty
      rw [none_] at sorted
      rw [(sorted.trans perm.symm).nil_eq.symm, none_]
      rfl
    · exact sort_eq_of_perm (perm.trans sorted.symm) wf.increasing
  unfold ofEntries
  simp only [same]

end Entries

end Acl

/-- The groups after the first one, in another order, with repetitions, and with banned groups among them. -/
inductive Regrouped : List Group → List Group → Prop where
  | reordered {groups more : List Group} (perm : more.Perm groups) : Regrouped groups more
  | repeated {groups : List Group} {group : Group} (member : group ∈ groups) :
      Regrouped groups (group :: groups)
  | banned {groups : List Group} {group : Group} (locked : group.isBanned = true) :
      Regrouped groups (group :: groups)
  | trans {groups more last : List Group} (first : Regrouped groups more) (next : Regrouped more last) :
      Regrouped groups last

/-- Groups that count are neither gained nor lost. -/
theorem Regrouped.mem_iff {groups more : List Group} (regrouped : Regrouped groups more) {group : Group}
    (free : group.isBanned = false) : group ∈ more ↔ group ∈ groups := by
  induction regrouped with
  | reordered perm => exact perm.mem_iff
  | repeated member =>
    rw [List.mem_cons, or_iff_right_of_imp]
    rintro rfl
    exact member
  | banned locked =>
    rw [List.mem_cons, or_iff_right_of_imp]
    rintro rfl
    cases free.symm.trans locked
  | trans _ _ first next => exact next.trans first

namespace Permission

open Acl

variable {ctx : SecurityContext} {acl : Acl} {file : Ownership} {requested : Mode}

/-- The decision goes by the first group and by the groups that count. -/
theorem permits_regrouped {first : Group} {rest more : List Group} (groups : ctx.groups = first :: rest)
    (regrouped : Regrouped rest more) :
    permits { ctx with groups := first :: more } acl file requested = permits ctx acl file requested := by
  have joined : ∀ gid, SecurityContext.hasGroup (first :: more) gid =
      SecurityContext.hasGroup (first :: rest) gid := by
    intro gid
    rw [Bool.eq_iff_iff, SecurityContext.hasGroup_iff, SecurityContext.hasGroup_iff,
      List.exists_mem_cons_iff, List.exists_mem_cons_iff]
    refine or_congr Iff.rfl (exists_congr fun group => ?_)
    rw [and_congr_left_iff]
    rintro ⟨-, free⟩
    exact regrouped.mem_iff free
  have banned : SecurityContext.isBanned { ctx with groups := first :: more } = ctx.isBanned := by
    unfold SecurityContext.isBanned
    rw [groups]
    rfl
  have root : SecurityContext.isRoot { ctx with groups := first :: more } = ctx.isRoot := rfl
  have uid : SecurityContext.uid { ctx with groups := first :: more } = ctx.uid := rfl
  unfold permits granted grantedByList owningGroup? namedGroups
  rw [banned, root, uid, groups]
  simp only [joined]

/-- A valid list decides about an identity that is neither root nor banned and does not own the file by what
its entries say, and by nothing else: a request is allowed exactly if its three bits are among those that are
granted. Neither the order in which the entries were given nor groups that are given in another order or
again, or that are banned, change a decision. -/
theorem permits_iff_evaluates {entries : List AclEntry} (valid : (ofEntries entries).validate = .ok ())
    (some_ : entries ≠ []) :
    (∀ (ctx : SecurityContext) (file : Ownership), ctx.isRoot = false → ctx.isBanned = false →
      file.uid ≠ ctx.uid →
        ∃ bits, (ofEntries entries).Evaluates ctx file bits ∧
          (∀ other, (ofEntries entries).Evaluates ctx file other → other = bits) ∧
          ∀ requested, permits ctx (ofEntries entries) file requested = true ↔
            bits &&& (requested &&& 7) = requested &&& 7) ∧
      (∀ others : List AclEntry, others.Perm entries → ∀ ctx file requested,
        permits ctx (ofEntries others) file requested = permits ctx (ofEntries entries) file requested) ∧
      ∀ (ctx : SecurityContext) first rest more, ctx.groups = first :: rest → Regrouped rest more →
        ∀ file requested, permits { ctx with groups := first :: more } (ofEntries entries) file requested =
          permits ctx (ofEntries entries) file requested := by
  have filled : (ofEntries entries).isEmpty = false := by
    obtain ⟨e, rest, rfl⟩ := List.exists_cons_of_ne_nil some_
    have there : e ∈ (ofEntries (e :: rest)).entries := AclEntry.mem_place.2 (.inl rfl)
    exact List.isEmpty_eq_false_iff_exists_mem.2 ⟨e, there⟩
  have wf := wellFormed_of_filled valid filled
  refine ⟨fun ctx file common free foreign => ?_, fun others perm ctx file requested => ?_,
    fun ctx first rest more groups regrouped file requested => permits_regrouped groups regrouped⟩
  · refine ⟨_, evaluates_grantedByList wf, fun other said => said.unique wf (evaluates_grantedByList wf),
      fun requested => ?_⟩
    simp [permits, granted, covers, common, free, foreign, filled]
  · rw [ofEntries_perm valid perm]

/-- A list for one guest and two groups, in no order. -/
def guestList : List AclEntry :=
  [⟨.other, false, 1, 0⟩, ⟨.mask, false, 6, 0⟩, ⟨.group, false, 3, 300⟩, ⟨.user, false, 6, 1005⟩,
    ⟨.groupObj, false, 4, 0⟩, ⟨.userObj, false, 7, 0⟩]

/-- Someone who is in both groups that the list speaks about. -/
def carol : SecurityContext :=
  ⟨⟨"carol", 1003, ∅⟩, [⟨"atlas", 200, ∅⟩, ⟨"cms", 300, ∅⟩], { clientName := "carol" }⟩

/-- Someone in two groups reads through one and writes through the other, and the mask lets nothing more
through: not with the list turned round, nor with a banned group and a repeated one besides. -/
theorem permits_both_groups :
    let file : Ownership := ⟨0, 200, 0o764⟩
    let closed : Group := ⟨"closed", 400, Table.ofList [("banned", .bool true)]⟩
    (ofEntries guestList).validate = .ok () ∧ guestList ≠ [] ∧
      (ofEntries guestList).Evaluates carol file 6 ∧
      (∀ requested : Mode, permits carol (ofEntries guestList) file requested = true ↔
        6 &&& (requested &&& 7) = requested &&& 7) ∧
      permits carol (ofEntries guestList.reverse) file 6 = true ∧
      permits { carol with groups := [⟨"atlas", 200, ∅⟩, closed, ⟨"cms", 300, ∅⟩, ⟨"cms", 300, ∅⟩] }
        (ofEntries guestList) file 1 = false := by
  intro file closed
  have valid : (ofEntries guestList).validate = .ok () := by decide +kernel
  have some_ : guestList ≠ [] := by decide
  obtain ⟨decides, permuted, regrouped⟩ := permits_iff_evaluates valid some_
  obtain ⟨bits, evaluates, unique, requests⟩ := decides carol file (by decide) (by decide) (by decide)
  have six : bits = 6 := by
    have computed : grantedByList carol (ofEntries guestList) file = 6 := by decide +kernel
    have wf := wellFormed_of_filled valid (by decide +kernel)
    rw [← unique _ (evaluates_grantedByList wf), computed]
  subst six
  have more : Regrouped [⟨"cms", 300, ∅⟩] [closed, ⟨"cms", 300, ∅⟩, ⟨"cms", 300, ∅⟩] :=
    .trans (.repeated List.mem_cons_self) (.banned (by decide +kernel))
  refine ⟨valid, some_, evaluates, requests, ?_, ?_⟩
  · rw [permuted _ (List.reverse_perm _)]
    exact (requests 6).2 (by decide)
  · rw [regrouped carol _ _ _ rfl more, Bool.eq_false_iff, Ne, requests]
    decide

end Permission
end Stowage
