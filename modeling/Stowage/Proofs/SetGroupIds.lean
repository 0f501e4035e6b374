import Stowage.Proofs.Authorisation
import Stowage.Proofs.StoredLists
import Stowage.Proofs.ShownLists

/-! Files that run for a group. A file with the set-group-id bit lends the rights of its group to whoever runs
it, so nobody but root is to come by one for a group that they are not in. Changes of the mode, the owner and
the list keep to that; the making of a file takes the bit as it is asked for, whatever group the new file
belongs to. -/
namespace Stowage

namespace Mode

theorem bit_setGroupId {i : Nat} (low : i < 32) : setGroupId.bit i = decide (i = 10) := by
  have each : ∀ i, i < 32 → setGroupId.bit i = decide (i = 10) := by decide
  exact each i low

theorem hasSetGroupId_eq (mode : Mode) : mode.hasSetGroupId = mode.bit 10 := by
  have alone : mode &&& setGroupId = if mode.bit 10 then setGroupId else 0 := by
    apply eq_of_bits
    intro i low
    rw [bit_and, apply_ite (bit · i), bit_setGroupId low]
    by_cases here : i = 10
    · subst here
      cases mode.bit 10 <;> decide
    · simp [here, bit]
  unfold hasSetGroupId
  rw [alone]
  cases mode.bit 10 <;> decide

theorem bit_perm {mode : Mode} : mode.perm.bit 10 = mode.bit 10 := by
  have perms : permMask.bit 10 = true := by decide
  rw [perm, bit_and, perms, Bool.and_true]

/-- Replaced permission bits bring their own set-group-id bit. -/
theorem hasSetGroupId_replaced (mode bits : Mode) :
    ((mode &&& typeMask) ||| bits.perm).hasSetGroupId = bits.hasSetGroupId := by
  have type : typeMask.bit 10 = false := by decide
  rw [hasSetGroupId_eq, hasSetGroupId_eq, bit_or, bit_and, type, Bool.and_false, Bool.false_or, bit_perm]

end Mode

/-- The list of an entry says nothing about the set-group-id bit. -/
theorem Acl.hasSetGroupId_modeOf {acl : Acl} (valid : acl.validate = .ok ()) (mode : Mode) :
    (acl.modeOf mode).hasSetGroupId = mode.hasSetGroupId := by
  rw [Mode.hasSetGroupId_eq, Mode.hasSetGroupId_eq]
  rcases validate_eq_ok_iff.1 valid with empty | wf
  · have none_ : ∀ tag, acl.permOf? tag = none := fun tag => by
      rw [permOf?, find?, empty]
      rfl
    have same : acl.modeOf mode = mode.withClasses mode.ownerBits mode.groupBits mode.otherBits := by
      unfold modeOf
      simp only [none_]
      rfl
    rw [same]
    exact mode.bit_withClasses_of_le (Mode.triple_bitsAt mode 6) (Mode.triple_bitsAt mode 3)
      mode.triple_otherBits (by decide) (by decide)
  · obtain ⟨owner, group, others, first, second, third, -, -, -, same⟩ := modeOf_eq wf mode
    rw [same]
    exact mode.bit_withClasses_of_le first second third (by decide) (by decide)

namespace BuiltIn

open Acl Namespace

/-- If the creation mask was one of permission bits before, then it is one after. -/
def KeepsMask (b c : Browsing Namespace) : Prop :=
  b.session.umask &&& Mode.accessMask = b.session.umask →
    c.session.umask &&& Mode.accessMask = c.session.umask

instance : Action.Frame KeepsMask where
  refl _ usual := usual
  trans first second usual := second (first usual)

/-- No request leaves another creation mask than one of permission bits. -/
theorem keepsMask_handler (r : CatalogRequest) :
    Action.Keeps KeepsMask (handler (some Namespace.handler) r) := by
  have same : ∀ {b c : Browsing Namespace}, SameSession b c → KeepsMask b c := fun same usual => by
    rwa [show _ = _ from same]
  refine keeps_handler belowReads_namespace (fun q b => same (sameSession_ask _ q b))
    (fun path b usual => usual) (fun mask b _ => ?_) r
  exact (UInt32.and_assoc _ _ _).trans (congrArg _ (UInt32.and_self ..))

end BuiltIn

namespace CatalogSession

/-- What the session of a catalog comes to. It starts with the same mask everywhere, is told identities, and
is changed by requests, whatever the namespace is that they are made to. -/
inductive Served : CatalogSession → Prop
  | start (security : Option SecurityContext) (workingDir : String) : Served { security, workingDir }
  | told {session : CatalogSession} (ctx : SecurityContext) (served : Served session) :
    Served { session with security := some ctx }
  | asked {session : CatalogSession} (r : CatalogRequest) (ns : Namespace) (served : Served session) :
    Served ((BuiltIn.handler (some Namespace.handler) r).outcome ⟨session, ns⟩).2.session

/-- A session comes to any mask of permission bits, and to no other. -/
theorem served_iff {session : CatalogSession} :
    session.Served ↔ session.umask &&& Mode.accessMask = session.umask := by
  constructor
  · intro served
    have first : (0o022 : Mode) &&& Mode.accessMask = 0o022 := by decide
    induction served with
    | start => exact first
    | told ctx served usual => exact usual
    | asked r ns served usual => exact BuiltIn.keepsMask_handler r ⟨_, ns⟩ usual
  · obtain ⟨security, workingDir, mask⟩ := session
    intro usual
    have masked := (Served.start security workingDir).asked (.umask mask) .initial
    have left : ((BuiltIn.handler (some Namespace.handler) (.umask mask)).outcome
        ⟨{ security, workingDir }, .initial⟩).2.session =
          { security, workingDir, umask := mask &&& Mode.accessMask } := rfl
    rw [left, usual] at masked
    exact masked

end CatalogSession

namespace BuiltIn

open Acl Namespace

section Templates

variable {ctx : SecurityContext} {umask mode : Mode} {parent : Entry} (name : String)

/-- A new file has the set-group-id bit if it is asked for. -/
theorem hasSetGroupId_template (valid : parent.acl.validate = .ok ())
    (usual : umask &&& Mode.accessMask = umask) :
    (template ctx umask parent name Mode.regular mode).stat.mode.hasSetGroupId = mode.hasSetGroupId := by
  have kept : (template ctx umask parent name Mode.regular mode).stat.mode =
      (given ctx umask parent Mode.regular mode).2 :=
    if_neg fun ⟨_, directory⟩ => absurd directory (by decide)
  have type : Mode.regular.bit 10 = false := by decide
  rw [Mode.hasSetGroupId_eq, Mode.hasSetGroupId_eq, kept]
  unfold given
  split
  · rename_i some_
    have wf := wellFormed_offered (wellFormed_of_defaults valid some_) some_
    rw [bit_inherit wf (by decide) (by decide), Mode.bit_or, type, Bool.false_or, Mode.bit_perm]
  · have clear : umask.bit 10 = false := by
      rw [← usual, Mode.bit_and, Mode.bit_accessMask]
      simp
    rw [Mode.bit_or, type, Bool.false_or, Mode.bit_perm, Mode.bit_and, Mode.bit_not _ _ (by decide), clear,
      Bool.not_false, Bool.and_true]

end Templates

/-- Restyled by someone other than root, an entry has the set-group-id bit only if it had it or if they are in
its group. -/
theorem Restyled.hasSetGroupId {ctx : SecurityContext} {old new : Entry} {r : CatalogRequest}
    (style : Restyled ctx old r new) (common : ctx.isRoot = false)
    (runs : new.stat.mode.hasSetGroupId = true) :
    old.stat.mode.hasSetGroupId = true ∨ SecurityContext.hasGroup ctx.groups old.stat.gid = true := by
  cases style with
  | mode path mode =>
    rw [Mode.hasSetGroupId_replaced] at runs
    refine .inr (Decidable.byContradiction fun outside => ?_)
    rw [bitsFor, if_pos ⟨Bool.not_eq_true _ ▸ common, outside⟩, Mode.hasSetGroupId_eq, Mode.bit_and,
      Mode.bit_not _ _ (by decide), Mode.bit_setGroupId (by decide)] at runs
    simp at runs
  | owner =>
    rw [Mode.hasSetGroupId_replaced, Mode.hasSetGroupId_eq, Mode.bit_perm, ← Mode.hasSetGroupId_eq] at runs
    exact .inl runs
  | list path acl valid =>
    rw [Mode.hasSetGroupId_replaced, hasSetGroupId_modeOf valid, Mode.hasSetGroupId_eq, Mode.bit_perm,
      ← Mode.hasSetGroupId_eq] at runs
    exact .inl runs

/-- Only what is asked for as a file is made as one. -/
theorem create_of_regular {r : CatalogRequest} {path : String} (name : String) {type mode umask : Mode}
    {ctx : SecurityContext} {parent : Entry} (asked : r.made? = some (path, type, mode))
    (valid : parent.acl.validate = .ok ())
    (regular : (template ctx umask parent name type mode).stat.isRegular = true) :
    type = Mode.regular ∧ r = .create path mode := by
  cases r with
  | create =>
    cases asked
    exact ⟨rfl, rfl⟩
  | makeDir =>
    cases asked
    have directory : (template ctx umask parent name Mode.directory mode).stat.isDirectory = true :=
      isDirectory_template name valid
    have same := (beq_iff_eq.1 regular).symm.trans (beq_iff_eq.1 directory)
    exact absurd same (by decide)
  | _ => cases asked

/-- A new file is a regular one, and of the group that its directory or its owner has. -/
theorem isRegular_template {ctx : SecurityContext} {umask mode : Mode} {parent : Entry} (name : String)
    (valid : parent.acl.validate = .ok ()) :
    (template ctx umask parent name Mode.regular mode).stat.isRegular = true := by
  have type : (given ctx umask parent Mode.regular mode).2 &&& Mode.typeMask = Mode.regular :=
    (type_given valid).trans (by decide)
  unfold Stat.isRegular Mode.isRegular
  rcases (template_eq name).2 with same | same
  · rw [same, type, beq_self_eq_true]
  · rw [same, Mode.type_or (by decide), type, beq_self_eq_true]

end BuiltIn

namespace Namespace

open BuiltIn

/-- From one namespace to the next, a regular file comes to run for a group that the identity is not in, or
only in one that is banned: it has the set-group-id bit, and it has not had the bit with this group before. -/
structure RunsForOthers (c : SecurityContext) (ns next : Namespace) (ino : Nat) (file : Entry) : Prop where
  there : next.entries.get? ino = some file
  regular : file.stat.isRegular = true
  runs : file.stat.mode.hasSetGroupId = true
  foreign : ∀ group ∈ c.groups, group.gid = file.stat.gid → group.isBanned = true
  comes : ∀ old, ns.entries.get? ino = some old → old.stat.mode.hasSetGroupId = true →
    old.stat.gid ≠ file.stat.gid

section Makings

variable {ns : Namespace} {session : CatalogSession} {c : SecurityContext} {r : CatalogRequest}
  {answer : r.Answer} {after : Browsing Namespace} {ino : Nat} {file : Entry}

/-- What was there before has come to run for no other group. -/
theorem not_runsForOthers_of_there (tree : ns.Tree) (known : session.security = some c)
    (common : c.isRoot = false)
    (done : BuiltIn.handler (some handler) r ⟨session, ns⟩ = .ok answer after) {old : Entry}
    (there : ns.entries.get? ino = some old) : ¬ RunsForOthers c ns after.store ino file := by
  intro others
  have here : ns.visited ⟨session, r⟩ = after.store := left_of_ok done
  have foreign : ¬ SecurityContext.hasGroup c.groups file.stat.gid = true := fun member =>
    have ⟨group, mine, named, free⟩ := SecurityContext.hasGroup_iff.1 member
    absurd (others.foreign group mine named) (Bool.eq_false_iff.1 free)
  have revised : old.Revised c file :=
    (authorised_of_granted tree (granted_of_ok known tree common done)).kept ino old file there others.there
  have same : old.stat.gid = file.stat.gid := Decidable.byContradiction fun changed =>
    foreign (SecurityContext.hasGroup_iff.2 (revised.regrouped (Ne.symm changed)))
  have before : ¬ old.stat.mode.hasSetGroupId = true := fun had => others.comes old there had same
  cases origin_of_visited tree (v := ⟨session, r⟩) (here ▸ others.there) with
  | kept held stored size made =>
    obtain rfl := Option.some.inj (there.symm.trans stored)
    subst made
    exact before others.runs
  | restyled ctx own held stored style =>
    obtain rfl := Option.some.inj (there.symm.trans stored)
    obtain rfl := Option.some.inj (known.symm.trans own)
    rcases style.hasSetGroupId common others.runs with had | member
    · exact before had
    · exact foreign (same ▸ member)
  | made path name type mode asked ctx own parent front whole reaches fresh made =>
    exact Nat.lt_irrefl _ (fresh ▸ tree.numbered _ _ there)

end Makings

/-- Whatever catalogs did to the namespace, each for any identity: a request of someone other than root leads
to a file that runs for a group which they are not in exactly if it makes a file, asks for the set-group-id
bit, and the file gets such a group, from its directory or as the primary group of its owner. No change of
mode, owner or list does. -/
theorem setGroupIds_of_visits (turns : List Visit) (session : CatalogSession) (c : SecurityContext)
    (r : CatalogRequest) (answer : r.Answer) (after : Browsing Namespace)
    (known : session.security = some c) (common : c.isRoot = false) (served : session.Served)
    (done : BuiltIn.handler (some handler) r ⟨session, initial.visits turns⟩ = .ok answer after) :
    (∃ ino file, RunsForOthers c (initial.visits turns) after.store ino file) ↔
      ∃ path mode parent, r = .create path mode ∧
        (initial.visits turns).at? (session.names path).dropLast = some parent ∧
        mode.hasSetGroupId = true ∧
        ∀ group ∈ c.groups, group.gid = groupOf c parent → group.isBanned = true := by
  have usual := CatalogSession.served_iff.1 served
  have tree : (initial.visits turns).Tree := tree_of_visits turns
  have sound := listsSound_of_visits turns
  have here : (initial.visits turns).visited ⟨session, r⟩ = after.store := left_of_ok done
  constructor
  · rintro ⟨ino, file, others⟩
    have fresh : ∀ old, (initial.visits turns).entries.get? ino ≠ some old := fun old there =>
      not_runsForOthers_of_there tree known common done there others
    cases origin_of_visited tree (v := ⟨session, r⟩) (here ▸ others.there) with
    | kept old there => exact absurd there (fresh old)
    | restyled _ _ old there => exact absurd there (fresh old)
    | made path name type mode asked ctx own parent front whole reaches _ made =>
      obtain rfl := Option.some.inj (known.symm.trans own)
      have valid := (sound _ parent (tree.reached_stored reaches)).valid
      subst made
      obtain ⟨rfl, asks⟩ := create_of_regular name asked valid others.regular
      refine ⟨path, mode, parent, asks, ?_, ?_, others.foreign⟩
      · change _ = session.names path at whole
        rw [← whole, List.dropLast_concat]
        exact at?_of_reaches reaches
      · exact (hasSetGroupId_template name valid usual).symm.trans others.runs
  · rintro ⟨path, mode, parent, rfl, above, asks, foreign⟩
    obtain ⟨ctx, dir, created, makes⟩ := makes_of_ok tree rfl done
    obtain rfl := Option.some.inj (known.symm.trans makes.known)
    obtain rfl := Option.some.inj (above.symm.trans makes.above)
    have valid := (sound _ parent (entry_eq_ok_iff.1 (tree.keyed.stored above))).valid
    obtain ⟨name, drawn⟩ := makes.drawn
    refine ⟨created.stat.ino, created, makes.stored, ?_, ?_, ?_, fun old there => ?_⟩
    · rw [drawn]
      exact isRegular_template name valid
    · rw [drawn]
      exact (hasSetGroupId_template name valid usual).trans asks
    · rw [drawn]
      exact foreign
    · cases makes.fresh.symm.trans there

/-- A directory of root's for another group than alice's, which hands its group on and where everyone may
write. -/
def spool : List Visit :=
  [⟨{ security := some SecurityContext.root }, .makeDir "/d" 0o777⟩,
    ⟨{ security := some SecurityContext.root }, .setOwner "/d" 0 300⟩,
    ⟨{ security := some SecurityContext.root }, .setMode "/d" 0o2777⟩]

/-- Alice makes a file in it that runs for that group, and loses the bit when she sets the same mode again. -/
theorem setGroupIds_of_spool :
    let session : CatalogSession := { security := some ReplicaRights.alice }
    let ns := initial.visits spool
    ∃ after ino file,
      BuiltIn.handler (some handler) (.create "/d/f" 0o2755) ⟨session, ns⟩ = .ok () after ∧
      RunsForOthers ReplicaRights.alice ns after.store ino file ∧
      ((initial.visits (spool ++ [⟨session, .create "/d/f" 0o2755⟩, ⟨session, .setMode "/d/f" 0o2755⟩])).at?
        ["d", "f"]).map (·.stat.mode.hasSetGroupId) = some false := by
  intro session ns
  obtain ⟨_, after, done⟩ : ∃ answer after,
      BuiltIn.handler (some handler) (.create "/d/f" 0o2755) ⟨session, ns⟩ = .ok answer after :=
    Action.exists_of_isOk (by decide +kernel)
  have dir : (ns.at? ["d"]).map (fun e => decide (e.stat.mode.hasSetGroupId = true ∧ e.stat.gid = 300)) =
      some true := by
    decide +kernel
  obtain ⟨parent, above, hands⟩ := Option.map_eq_some_iff.1 dir
  obtain ⟨runs, group⟩ := of_decide_eq_true hands
  have names : session.names "/d/f" = ["d", "f"] := by decide +kernel
  have settled := setGroupIds_of_visits spool session ReplicaRights.alice (.create "/d/f" 0o2755) () after
    rfl (by decide) (.start (some ReplicaRights.alice) "/") done
  obtain ⟨ino, file, others⟩ := settled.2 ⟨"/d/f", 0o2755, parent, rfl, names ▸ above, by decide, by
    rw [groupOf, if_pos runs, group]
    decide⟩
  exact ⟨after, ino, file, done, others, by decide +kernel⟩

end Namespace
end Stowage
