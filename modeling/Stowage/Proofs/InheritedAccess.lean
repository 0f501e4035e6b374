import Stowage.Proofs.ShownLists
import Stowage.Proofs.StoredLists

/-! What others may do with an entry that inherits a list. The creation mode bounds the owning group and
everyone else. It does not bound the default mask, so users and groups that the default entries name may do
what these say within the mask, however private the entry was meant to be. -/
namespace Stowage

namespace Permission

open Acl

section Covering

variable {bound granted requested first second : Mode}

theorem covers_iff : covers granted requested = true ↔
    ∀ i, requested.bit i = true → granted.bit i = true := by
  rw [covers, beq_iff_eq]
  constructor
  · intro same i set
    rw [← same, Mode.bit_and, Bool.and_eq_true] at set
    exact set.1
  · intro inside
    refine Mode.eq_of_bits fun i _ => ?_
    rw [Mode.bit_and]
    cases set : requested.bit i with
    | false => exact Bool.and_false _
    | true => rw [inside i set, Bool.and_true]

theorem covers_or : covers bound (first ||| second) = true ↔
    covers bound first = true ∧ covers bound second = true := by
  simp only [covers_iff, Mode.bit_or, Bool.or_eq_true]
  exact ⟨fun all => ⟨fun i set => all i (.inl set), fun i set => all i (.inr set)⟩,
    fun ⟨left, right⟩ i set => set.elim (left i) (right i)⟩

theorem covers_trans (outer : covers bound granted = true) (inner : covers granted requested = true) :
    covers bound requested = true :=
  covers_iff.2 fun i set => covers_iff.1 outer i (covers_iff.1 inner i set)

theorem covers_and (first second : Mode) :
    covers first (first &&& second) = true ∧ covers second (first &&& second) = true := by
  simp only [covers_iff, Mode.bit_and, Bool.and_eq_true]
  exact ⟨fun _ set => set.1, fun _ set => set.2⟩

theorem covers_zero (bound : Mode) : covers bound 0 = true :=
  beq_iff_eq.2 UInt32.and_zero

end Covering

/-- The permissions that a list gives to a user and groups that it names, within its mask. -/
def named (acl : Acl) (ctx : SecurityContext) : Mode :=
  (match namedUser? acl ctx.uid with
    | some perm => perm
    | none => (namedGroups acl ctx.groups).foldl (· ||| ·) 0) &&& (acl.permOf? .mask).getD 7

/-- The list names the user or one of the groups, or one of them is the owning group. -/
def InGroupClass (acl : Acl) (ctx : SecurityContext) (gid : UInt32) : Prop :=
  (namedUser? acl ctx.uid).isSome = true ∨ namedGroups acl ctx.groups ≠ [] ∨
    SecurityContext.hasGroup ctx.groups gid = true

/-- The bits are within those of the creation mode: of the group class for those who are in it, and of
everyone else for others. -/
def Bounded (acl : Acl) (ctx : SecurityContext) (gid : UInt32) (create bits : Mode) : Prop :=
  (InGroupClass acl ctx gid → covers create.groupBits bits = true) ∧
    (¬ InGroupClass acl ctx gid → covers create.otherBits bits = true)

section Bounds

variable {acl : Acl} {ctx : SecurityContext} {gid : UInt32} {create bits : Mode}

theorem bounded_iff_of_inside (inside : InGroupClass acl ctx gid) :
    Bounded acl ctx gid create bits ↔ covers create.groupBits bits = true :=
  ⟨fun bounded => bounded.1 inside, fun covered => ⟨fun _ => covered, fun outside => absurd inside outside⟩⟩

theorem bounded_iff_of_outside (outside : ¬ InGroupClass acl ctx gid) :
    Bounded acl ctx gid create bits ↔ covers create.otherBits bits = true :=
  ⟨fun bounded => bounded.2 outside, fun covered => ⟨fun inside => absurd inside outside, fun _ => covered⟩⟩

/-- Who is not named is in the group class as a member of the owning group only. -/
theorem inGroupClass_iff (unnamed : namedUser? acl ctx.uid = none)
    (ungrouped : namedGroups acl ctx.groups = []) :
    InGroupClass acl ctx gid ↔ SecurityContext.hasGroup ctx.groups gid = true := by
  rw [InGroupClass, unnamed, ungrouped]
  simp

theorem named_eq_zero (unnamed : namedUser? acl ctx.uid = none)
    (ungrouped : namedGroups acl ctx.groups = []) : named acl ctx = 0 := by
  rw [named, unnamed, ungrouped]
  exact UInt32.zero_and

/-- What is granted is within the creation mode exactly if all that is permitted with it is. -/
theorem bounded_requests_iff {granted : Mode} (three : granted.Triple) :
    (∀ requested : Mode, requested ≤ 7 → covers granted (requested &&& 7) = true →
      Bounded acl ctx gid create requested) ↔ Bounded acl ctx gid create granted := by
  constructor
  · intro all
    refine all granted (Mode.triple_iff_le.1 three) ?_
    rw [three]
    exact covers_iff.2 fun _ set => set
  · intro bounded requested small permitted
    rw [Mode.triple_iff_le.2 small] at permitted
    exact ⟨fun inside => covers_trans (bounded.1 inside) permitted,
      fun outside => covers_trans (bounded.2 outside) permitted⟩

end Bounds

section Inheriting

variable {acl new : Acl} {uid gid : UInt32} {create : Mode} {ctx : SecurityContext} {entry : Ownership}

/-- A list without a mask names nobody. -/
theorem unnamed_of_unmasked (wf : WellFormed acl.entries) (none_ : acl.permOf? .mask = none) (uid : UInt32)
    (groups : List Group) : namedUser? acl uid = none ∧ namedGroups acl groups = [] := by
  rcases wf.access.mask with ⟨noUsers, noGroups⟩ | once
  · rw [tally, List.countP_eq_zero] at noUsers noGroups
    constructor
    · refine Option.map_eq_none_iff.2 (List.find?_eq_none.2 fun e member here => noUsers e member ?_)
      rw [decide_eq_true_eq] at here ⊢
      exact ⟨here.2.1, Bool.eq_false_iff.2 here.1⟩
    · refine List.map_eq_nil_iff.2 (List.filter_eq_nil_iff.2 fun e member here => noGroups e member ?_)
      rw [decide_eq_true_eq] at here ⊢
      exact ⟨here.2.1, Bool.eq_false_iff.2 here.1⟩
  · obtain ⟨e, member, here, plain⟩ := exists_of_tally once
    have absent := List.find?_eq_none.1 (Option.map_eq_none_iff.1 none_) e member
    exact absurd (decide_eq_true ⟨here, Bool.eq_false_iff.1 plain⟩) absent

theorem named_of_unmasked (wf : WellFormed acl.entries) (none_ : acl.permOf? .mask = none)
    (ctx : SecurityContext) : named acl ctx = 0 := by
  obtain ⟨unnamed, ungrouped⟩ := unnamed_of_unmasked wf none_ ctx.uid ctx.groups
  exact named_eq_zero unnamed ungrouped

/-- What is offered to a user or a group by name is taken as it is. -/
theorem inheritedEntry_of_named {e : AclEntry} (plain : e.isDefault = false)
    (named : e.tag = .user ∨ e.tag = .group) : inheritedEntry uid gid create e = e := by
  obtain ⟨tag, _, perm, id⟩ := e
  obtain rfl := plain
  rcases named with rfl | rfl <;> rfl

/-- A new list names those whom the offered one names, with the same permissions. -/
theorem filter_of_takes (takes : new.Takes acl uid gid create) {tag : AclTag}
    (named : tag = .user ∨ tag = .group) (p : UInt32 → Prop) [DecidablePred p] :
    (new.entries.filter fun e => ¬ e.isDefault ∧ e.tag = tag ∧ p e.id) =
      acl.offered.entries.filter fun e => ¬ e.isDefault ∧ e.tag = tag ∧ p e.id := by
  obtain ⟨rest, same, default⟩ := takes
  have others : (rest.filter fun e => ¬ e.isDefault ∧ e.tag = tag ∧ p e.id) = [] :=
    List.filter_eq_nil_iff.2 fun e member => by simp [default e member]
  have alike : ∀ e ∈ acl.offered.entries, e.tag = tag → inheritedEntry uid gid create e = e := by
    rintro e member rfl
    exact inheritedEntry_of_named (isDefault_of_mem_offered member) named
  have passed : (acl.offered.entries.filter ((fun e => decide (¬ e.isDefault ∧ e.tag = tag ∧ p e.id)) ∘
      inheritedEntry uid gid create)) =
      acl.offered.entries.filter fun e => ¬ e.isDefault ∧ e.tag = tag ∧ p e.id := by
    refine List.filter_congr fun e member => ?_
    rw [Function.comp_apply]
    by_cases here : e.tag = tag
    · rw [alike e member here]
    · simp [(inheritedEntry_same uid gid create e).1, here]
  rw [same, List.filter_append, others, List.append_nil, taken, List.filter_map, passed]
  refine (List.map_congr_left fun e member => ?_).trans (List.map_id _)
  obtain ⟨offered, passes⟩ := List.mem_filter.1 member
  exact alike e offered (of_decide_eq_true passes).2.1

theorem namedUser?_of_takes (takes : new.Takes acl uid gid create) (who : UInt32) :
    namedUser? new who = namedUser? acl.offered who := by
  unfold namedUser?
  rw [← List.head?_filter, ← List.head?_filter, filter_of_takes takes (.inl rfl) (· = who)]

theorem namedGroups_of_takes (takes : new.Takes acl uid gid create) (groups : List Group) :
    namedGroups new groups = namedGroups acl.offered groups :=
  congrArg _ (filter_of_takes takes (.inr rfl) (SecurityContext.hasGroup groups · = true))

theorem foldl_or (perms : List Mode) (first : Mode) :
    perms.foldl (· ||| ·) first = first ||| perms.foldl (· ||| ·) 0 := by
  induction perms generalizing first with
  | nil => exact UInt32.or_zero.symm
  | cons next rest ih => rw [List.foldl_cons, ih, List.foldl_cons, ih (0 ||| next), UInt32.zero_or, UInt32.or_assoc]

theorem triple_mask (wf : WellFormed acl.entries) : ((acl.permOf? .mask).getD 7).Triple := by
  cases masked : acl.permOf? .mask with
  | none => rfl
  | some mask => exact triple_of_permOf? wf masked

/-- The owning group and those that are named, together and within the mask. -/
theorem union_of_unnamed {mask : Mode} (unnamed : namedUser? acl ctx.uid = none)
    (masked : acl.permOf? .mask = some mask) (owning : Mode) :
    (owning :: namedGroups acl ctx.groups).foldl (· ||| ·) 0 &&& mask = (owning &&& mask) ||| named acl ctx := by
  rw [named, unnamed, masked, List.foldl_cons, foldl_or, UInt32.zero_or]
  refine Mode.eq_of_bits fun i _ => ?_
  simp only [Mode.bit_and, Mode.bit_or, Option.getD_some, Bool.and_or_distrib_right]

/-- What a new list grants is within the creation mode exactly if that is so of what its mask lets those
have whom the default entries name. -/
theorem bounded_grantedByList_iff (wf : WellFormed acl.offered.entries) (takes : new.Takes acl uid gid create) :
    (grantedByList ctx new entry).Triple ∧
      (Bounded acl.offered ctx entry.gid create (grantedByList ctx new entry) ↔
        covers create.groupBits (named acl.offered ctx) = true) := by
  obtain ⟨owning, isOwning⟩ := exists_permOf? wf .groupObj rfl
  obtain ⟨others, isOther⟩ := exists_permOf? wf .other rfl
  have group : new.permOf? .groupObj = some (owning &&& create.groupBits) := by
    rw [takes.permOf?, isOwning]
    rfl
  have other : new.permOf? .other = some (others &&& create.otherBits) := by
    rw [takes.permOf?, isOther, ← Mode.bitsAt_zero]
    rfl
  have bounds : new.permOf? .mask = acl.offered.permOf? .mask := (takes.permOf? .mask).trans Option.map_id'
  have three := triple_mask wf
  unfold grantedByList owningGroup?
  rw [namedUser?_of_takes takes, namedGroups_of_takes takes, group, other, bounds]
  cases user : namedUser? acl.offered ctx.uid with
  | some perm =>
    have inside : InGroupClass acl.offered ctx entry.gid := .inl (user ▸ rfl)
    rw [bounded_iff_of_inside inside, named, user]
    exact ⟨three.and_left perm, Iff.rfl⟩
  | none =>
    by_cases member : SecurityContext.hasGroup ctx.groups entry.gid = true
    · have inside : InGroupClass acl.offered ctx entry.gid := .inr (.inr member)
      rw [if_pos member, bounded_iff_of_inside inside]
      cases masked : acl.offered.permOf? .mask with
      | none =>
        rw [named_of_unmasked wf masked]
        exact ⟨(Mode.triple_bitsAt create 3).and_left owning,
          iff_of_true (covers_and owning _).2 (covers_zero _)⟩
      | some mask =>
        have within : covers create.groupBits (owning &&& create.groupBits &&& mask) = true :=
          covers_trans (covers_and owning _).2 (covers_and _ mask).1
        have union := union_of_unnamed user masked (owning &&& create.groupBits)
        rw [masked] at three
        refine ⟨three.and_left _, (congrArg (covers create.groupBits · = true) union).to_iff.trans ?_⟩
        -- What the owning group gets is within the creation mode; what is left is for those named.
        rw [covers_or]
        exact and_iff_right within
    · rw [if_neg member]
      cases groups : namedGroups acl.offered ctx.groups with
      | nil =>
        have outside : ¬ InGroupClass acl.offered ctx entry.gid := mt (inGroupClass_iff user groups).1 member
        rw [bounded_iff_of_outside outside, named_eq_zero user groups]
        exact ⟨(Mode.triple_otherBits create).and_left others,
          iff_of_true (covers_and others _).2 (covers_zero _)⟩
      | cons first rest =>
        have inside : InGroupClass acl.offered ctx entry.gid :=
          .inr (.inl (groups ▸ List.cons_ne_nil first rest))
        rw [bounded_iff_of_inside inside, named, user, groups]
        exact ⟨three.and_left _, Iff.rfl⟩

end Inheriting

end Permission

namespace BuiltIn

open Acl Permission

section Templates

variable {ctx c : SecurityContext} {umask type mode : Mode} {parent : Entry} (name : String)

/-- The mode of a new entry that inherits is within the creation mode. -/
theorem covers_template (valid : parent.acl.validate = .ok ()) (some_ : parent.acl.hasDefaults = true) :
    let fresh := template ctx umask parent name type mode
    covers mode.groupBits fresh.stat.mode.groupBits = true ∧
      covers mode.otherBits fresh.stat.mode.otherBits = true := by
  intro fresh
  have wf := wellFormed_offered (wellFormed_of_defaults valid some_) some_
  have shown : ∀ (tag : AclTag) (shift : Mode), tag.shift? = some shift →
      covers (mode.bitsAt shift) (fresh.stat.mode.bitsAt shift) = true := by
    intro tag shift speaks
    obtain ⟨perm, -, bits⟩ :=
      bitsAt_inherit ctx.uid (groupOf ctx parent) mode (type ||| mode.perm) wf speaks
    rw [bitsAt_template name (AclTag.shift_le speaks), given_of_defaults some_, bits, within, speaks]
    exact (covers_and perm _).2
  have other := shown .other 0 rfl
  rw [Mode.bitsAt_zero, Mode.bitsAt_zero] at other
  exact ⟨shown .groupObj 3 rfl, other⟩

/-- What a new entry grants to others is within the creation mode exactly if that is so of what the default
mask lets those have whom the default entries name. -/
theorem bounded_granted_iff (valid : parent.acl.validate = .ok ()) (some_ : parent.acl.hasDefaults = true)
    (foreign : c.uid ≠ ctx.uid) :
    let fresh := template ctx umask parent name type mode
    (granted c fresh.acl fresh.stat.ownership).Triple ∧
      (Bounded parent.acl.offered c fresh.stat.gid mode (granted c fresh.acl fresh.stat.ownership) ↔
        covers mode.groupBits (named parent.acl.offered c) = true) := by
  intro fresh
  have whole := wellFormed_of_defaults valid some_
  have wf := wellFormed_offered whole some_
  have list : fresh.acl = (given ctx umask parent type mode).1 := (template_eq name).1
  have others : fresh.stat.ownership.uid ≠ c.uid := Ne.symm foreign
  rw [granted, if_neg others, list, given_of_defaults some_]
  rcases inherit_cases ctx.uid (groupOf ctx parent) mode (type ||| mode.perm) whole some_ with
    ⟨new, takes⟩ | ⟨empty, unmasked, -⟩
  · rw [isEmpty_of_wellFormed new, if_neg Bool.false_ne_true]
    exact bounded_grantedByList_iff wf takes
  · have none_ : parent.acl.offered.permOf? .mask = none := by
      rw [permOf?_offered, unmasked]
      rfl
    obtain ⟨unnamed, ungrouped⟩ := unnamed_of_unmasked wf none_ c.uid c.groups
    obtain ⟨group, other⟩ : covers mode.groupBits fresh.stat.ownership.mode.groupBits = true ∧
        covers mode.otherBits fresh.stat.ownership.mode.otherBits = true :=
      covers_template name valid some_
    have class_ : InGroupClass parent.acl.offered c fresh.stat.gid ↔
        SecurityContext.hasGroup c.groups fresh.stat.ownership.gid = true :=
      inGroupClass_iff unnamed ungrouped
    rw [isEmpty, empty, List.isEmpty_nil, if_pos rfl, named_of_unmasked wf none_]
    by_cases member : SecurityContext.hasGroup c.groups fresh.stat.ownership.gid = true
    · rw [if_pos member]
      exact ⟨Mode.triple_bitsAt _ 3,
        (bounded_iff_of_inside (class_.2 member)).trans (iff_of_true group (covers_zero _))⟩
    · rw [if_neg member]
      exact ⟨Mode.triple_otherBits _,
        (bounded_iff_of_outside (mt class_.1 member)).trans (iff_of_true other (covers_zero _))⟩

/-- The same of what others are permitted: the banned are permitted nothing. -/
theorem bounded_permits_iff (valid : parent.acl.validate = .ok ()) (some_ : parent.acl.hasDefaults = true)
    (common : c.isRoot = false) (foreign : c.uid ≠ ctx.uid) :
    let fresh := template ctx umask parent name type mode
    (∀ requested : Mode, requested ≤ 7 → fresh.permits c requested = true →
        Bounded parent.acl.offered c fresh.stat.gid mode requested) ↔
      c.isBanned = true ∨ covers mode.groupBits (named parent.acl.offered c) = true := by
  intro fresh
  obtain ⟨three, bounded⟩ : (granted c fresh.acl fresh.stat.ownership).Triple ∧
      (Bounded parent.acl.offered c fresh.stat.gid mode (granted c fresh.acl fresh.stat.ownership) ↔
        covers mode.groupBits (named parent.acl.offered c) = true) :=
    bounded_granted_iff name valid some_ foreign
  cases banned : c.isBanned with
  | true =>
    have nothing : ∀ requested, fresh.permits c requested = false := fun requested => by
      simp [Entry.permits, permits, common, banned]
    exact iff_of_true (fun requested _ permitted =>
      absurd ((nothing requested).symm.trans permitted) Bool.false_ne_true) (.inl rfl)
  | false =>
    have granting : ∀ requested, fresh.permits c requested =
        covers (granted c fresh.acl fresh.stat.ownership) (requested &&& 7) := fun requested => by
      simp [Entry.permits, permits, common, banned]
    simp only [granting]
    rw [bounded_requests_iff three, bounded, or_iff_right Bool.false_ne_true]

end Templates

/-- Whatever requests came before, let an entry be made in a directory with a valid list that has default
entries. Someone who is neither root nor its owner is to stay within the group bits of the creation mode, if
the default entries name them or they are in the owning group, and within its other bits, if not. They do
exactly if they are banned, or if what the default entries give to them by name is, within the default mask,
within those group bits. -/
theorem bounded_iff_named_covered (requests : List InodeRequest) (session : CatalogSession)
    (r : CatalogRequest) (path : String) (type mode : Mode) (asked : r.made? = some (path, type, mode))
    (answer : r.Answer) (after : Browsing Namespace)
    (done : handler (some Namespace.handler) r ⟨session, Namespace.initial.run requests⟩ = .ok answer after) :
    let ns := Namespace.initial.run requests
    ∃ parent fresh, ns.at? (session.names path).dropLast = some parent ∧
      after.store.at? (session.names path) = some fresh ∧ ns.entries.get? fresh.stat.ino = none ∧
      (parent.acl.validate = .ok () → parent.acl.hasDefaults = true →
        ∀ c : SecurityContext, c.isRoot = false → c.uid ≠ fresh.stat.uid →
          ((∀ requested : Mode, requested ≤ 7 → fresh.permits c requested = true →
              Bounded parent.acl.offered c fresh.stat.gid mode requested) ↔
            c.isBanned = true ∨ covers mode.groupBits (named parent.acl.offered c) = true)) := by
  intro ns
  obtain ⟨ctx, parent, fresh, makes⟩ := makes_of_ok (Namespace.tree_initial.run requests) asked done
  obtain ⟨name, drawn⟩ := makes.drawn
  refine ⟨parent, fresh, makes.above, makes.stands, makes.fresh, fun valid some_ c common foreign => ?_⟩
  rw [drawn] at foreign ⊢
  exact bounded_permits_iff name valid some_ common foreign

/-- A directory of root's whose default entries name alice's group. -/
def handedDown : List InodeRequest :=
  [.create {
    parent := 1, name := "d", stat := { mode := Mode.directory ||| 0o777 }
    acl := .ofEntries [⟨.userObj, false, 7, 0⟩, ⟨.groupObj, false, 7, 0⟩, ⟨.other, false, 7, 0⟩,
      ⟨.userObj, true, 7, 0⟩, ⟨.groupObj, true, 5, 0⟩, ⟨.group, true, 7, 200⟩, ⟨.mask, true, 7, 0⟩,
      ⟨.other, true, 5, 0⟩] }]

/-- Someone whom the default entries do not name. -/
def stranger : SecurityContext :=
  ⟨⟨"bob", 1002, ∅⟩, [⟨"cms", 300, ∅⟩], { clientName := "bob" }⟩

/-- A file that root makes for itself alone in it is one for alice too, and is none for a stranger. -/
theorem private_file_open_to_named :
    let session : CatalogSession := { security := some SecurityContext.root }
    let ns := Namespace.initial.run handedDown
    ∃ parent fresh after,
      handler (some Namespace.handler) (.create "/d/f" 0o600) ⟨session, ns⟩ = .ok () after ∧
      ns.at? ["d"] = some parent ∧ after.store.at? ["d", "f"] = some fresh ∧
      (∃ requested : Mode, requested ≤ 7 ∧ fresh.permits ReplicaRights.alice requested = true ∧
        ¬ Bounded parent.acl.offered ReplicaRights.alice fresh.stat.gid 0o600 requested) ∧
      ∀ requested : Mode, requested ≤ 7 → fresh.permits stranger requested = true →
        Bounded parent.acl.offered stranger fresh.stat.gid 0o600 requested := by
  intro session ns
  obtain ⟨_, after, done⟩ : ∃ answer after,
      handler (some Namespace.handler) (.create "/d/f" 0o600) ⟨session, ns⟩ = .ok answer after :=
    Action.exists_of_isOk (by decide +kernel)
  obtain ⟨parent, fresh, above, stands, -, access⟩ :=
    bounded_iff_named_covered handedDown session (.create "/d/f" 0o600) "/d/f" Mode.regular 0o600 rfl ()
      after done
  have names : session.names "/d/f" = ["d", "f"] := by decide +kernel
  have hands : (ns.at? ["d"]).map (fun e =>
      (decide (e.acl.validate = .ok ()), e.acl.hasDefaults,
        covers (0o600 : Mode).groupBits (named e.acl.offered ReplicaRights.alice),
        covers (0o600 : Mode).groupBits (named e.acl.offered stranger))) = some (true, true, false, true) := by
    decide +kernel
  have owner : (((handler (some Namespace.handler) (.create "/d/f" 0o600)).outcome
      ⟨session, ns⟩).2.store.at? ["d", "f"]).map (·.stat.uid) = some 0 := by
    decide +kernel
  rw [names] at above stands
  have held : ns.at? ["d"] = some parent := above
  rw [Action.outcome_of_ok done, stands] at owner
  rw [held] at hands
  obtain ⟨valid, facts⟩ := Prod.mk.inj (Option.some.inj hands)
  obtain ⟨some_, facts⟩ := Prod.mk.inj facts
  obtain ⟨beyond, within⟩ := Prod.mk.inj facts
  have root : fresh.stat.uid = 0 := Option.some.inj owner
  have settled := access (of_decide_eq_true valid) some_
  refine ⟨parent, fresh, after, done, held, stands, ?_, ?_⟩
  · refine Classical.byContradiction fun none_ => ?_
    have bounded := (settled ReplicaRights.alice (by decide) (root ▸ by decide)).1
      fun requested small permitted => Classical.byContradiction fun outside =>
        none_ ⟨requested, small, permitted, outside⟩
    rcases bounded with banned | covered
    · revert banned
      decide +kernel
    · cases beyond.symm.trans covered
  · exact (settled stranger (by decide) (root ▸ by decide)).2 (.inr within)

end BuiltIn
end Stowage
