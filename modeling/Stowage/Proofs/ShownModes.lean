import Stowage.Proofs.ShownLists
import Stowage.Proofs.StoredLists

/-! Whether the mode word of an entry shows its list. Every request keeps to that but one: an entry that is
made in a directory whose default mask is not what the owning group gets. The creation mode bounds the owning
group, whose permissions the new entry shows, and leaves the mask; so the mask is not shown, and the next
change of the mode, be it to what the entry shows, puts what is shown in its place. -/
namespace Stowage

/-- The mode word of an entry with a list is the one that the list gives. -/
def Entry.ShowsList (entry : Entry) : Prop :=
  entry.acl.isEmpty = false → entry.acl.modeOf entry.stat.mode = entry.stat.mode

/-- There is a default mask, and it is not what the owning group of a new entry gets. -/
def Acl.Strays (acl : Acl) (create : Mode) : Prop :=
  ∃ mask group, acl.findDefault? .mask = some mask ∧ acl.findDefault? .groupObj = some group ∧
    mask.perm.toUInt32 ≠ group.perm.toUInt32 &&& create.groupBits

/-- Something is made in a directory whose default mask is not what the owning group gets. -/
def Visit.Strays (v : Visit) (ns : Namespace) : Prop :=
  ∃ path type mode answer after parent, v.request.made? = some (path, type, mode) ∧
    BuiltIn.handler (some Namespace.handler) v.request ⟨v.session, ns⟩ = .ok answer after ∧
    ns.at? (v.session.names path).dropLast = some parent ∧ parent.acl.Strays mode

/-- The mode word of an entry is that of its list exactly if its permission bits show the list. -/
theorem Entry.showsList_iff {entry : Entry} (valid : entry.acl.validate = .ok ()) :
    entry.ShowsList ↔ (entry.acl.isEmpty = false → entry.acl.Shows entry.stat.mode) :=
  forall_congr' fun some_ => Acl.modeOf_eq_iff (Acl.wellFormed_of_filled valid some_)

namespace Acl

/-- What a new entry gets to show and to list agree exactly if the list of its directory does not stray. -/
theorem shows_inherit_iff {acl new : Acl} {uid gid : UInt32} {create mode : Mode}
    (wf : WellFormed acl.offered.entries) (takes : new.Takes acl uid gid create) :
    new.Shows (acl.inherit uid gid create mode).2 ↔ ¬ acl.Strays create := by
  -- Of the owner and of everyone else, what is listed is what is shown.
  have reduced : new.Shows (acl.inherit uid gid create mode).2 ↔
      (new.permOf? .mask).or (new.permOf? .groupObj) =
        some (acl.inherit uid gid create mode).2.groupBits :=
    ⟨Shows.group, fun group => ⟨takes.shown wf mode (show AclTag.userObj.shift? = some 6 from rfl), group,
      Mode.bitsAt_zero _ ▸ takes.shown wf mode (show AclTag.other.shift? = some 0 from rfl)⟩⟩
  have owning : new.permOf? .groupObj = some (acl.inherit uid gid create mode).2.groupBits :=
    takes.shown wf mode rfl
  obtain ⟨_, isGroup, shown⟩ := bitsAt_inherit uid gid create mode wf
    (show AclTag.groupObj.shift? = some 3 from rfl)
  obtain ⟨g, first, rfl⟩ := Option.map_eq_some_iff.1 ((permOf?_offered acl _).symm.trans isGroup)
  rw [reduced]
  cases masked : acl.findDefault? .mask with
  | none =>
    have none_ : new.permOf? .mask = none := by rw [takes.permOf?, permOf?_offered, masked]; rfl
    rw [none_, Option.none_or]
    refine ⟨fun _ => ?_, fun _ => owning⟩
    rintro ⟨_, _, found, -⟩
    cases masked.symm.trans found
  | some m =>
    have bounds : new.permOf? .mask = some m.perm.toUInt32 := by
      rw [takes.permOf?, permOf?_offered, masked]
      rfl
    have gets : (acl.inherit uid gid create mode).2.groupBits = g.perm.toUInt32 &&& create.groupBits := shown
    rw [bounds, Option.some_or, gets, Option.some.injEq]
    constructor
    · rintro same ⟨_, _, found, second, differ⟩
      cases masked.symm.trans found
      cases first.symm.trans second
      exact differ same
    · intro straight
      exact Decidable.byContradiction fun differ => straight ⟨m, g, masked, first, differ⟩

/-- An empty list stays empty when it follows a change of the mode. -/
theorem withMode_of_isEmpty {acl : Acl} (empty : acl.isEmpty = true) (mode : Mode) :
    acl.withMode mode = ∅ := by
  obtain ⟨entries, ordered⟩ := acl
  obtain rfl : entries = [] := List.isEmpty_iff.1 empty
  rfl

/-- A list without a default mask does not stray. -/
theorem not_strays_of_unmasked {acl : Acl} {create : Mode} (none_ : acl.findDefault? .mask = none) :
    ¬ acl.Strays create := by
  rintro ⟨mask, _, found, -⟩
  cases none_.symm.trans found

theorem findDefault?_of_plain {acl : Acl} (none_ : acl.hasDefaults = false) (tag : AclTag) :
    acl.findDefault? tag = none := by
  refine List.find?_eq_none.2 fun e member here => ?_
  rw [decide_eq_true_eq] at here
  rw [hasDefaults_iff.2 ⟨e, member, here.2⟩] at none_
  cases none_

end Acl

namespace BuiltIn

open Acl

/-- A new entry shows its list exactly if the list of its directory does not stray. -/
theorem showsList_template_iff {ctx : SecurityContext} {umask type mode : Mode} {parent : Entry}
    (name : String) (valid : parent.acl.validate = .ok ()) :
    (template ctx umask parent name type mode).ShowsList ↔ ¬ parent.acl.Strays mode := by
  have list : (template ctx umask parent name type mode).acl = (given ctx umask parent type mode).1 :=
    (template_eq name).1
  rw [Entry.showsList_iff (list ▸ validate_given valid), shows_congr fun _ => bitsAt_template name, list]
  by_cases some_ : parent.acl.hasDefaults = true
  · have wf := wellFormed_of_defaults valid some_
    rw [given_of_defaults some_]
    rcases inherit_cases ctx.uid (groupOf ctx parent) mode (type ||| mode.perm) wf some_ with
      ⟨new, takes⟩ | ⟨empty, unmasked, -⟩
    · rw [← shows_inherit_iff (wellFormed_offered wf some_) takes]
      exact ⟨fun shows_ => shows_ (isEmpty_of_wellFormed new), fun shows_ _ => shows_⟩
    · refine ⟨fun _ => not_strays_of_unmasked unmasked, fun _ some_ => ?_⟩
      rw [isEmpty, empty] at some_
      cases some_
  · have none_ : parent.acl.hasDefaults = false := Bool.eq_false_iff.2 some_
    have drawn : (given ctx umask parent type mode).1 = ∅ := by
      rw [given, if_neg some_]
    rw [drawn]
    exact iff_of_true (fun some_ => absurd some_.symm Bool.false_ne_true)
      (not_strays_of_unmasked (findDefault?_of_plain none_ _))

/-- A restyled entry shows its list, if it has done so before. -/
theorem Restyled.showsList {ctx : SecurityContext} {old new : Entry} {r : CatalogRequest}
    (style : Restyled ctx old r new) (listed : old.Listed) (shown : old.ShowsList) : new.ShowsList := by
  rw [Entry.showsList_iff (style.listed listed).valid]
  rw [Entry.showsList_iff listed.valid] at shown
  intro some_
  cases style with
  | mode =>
    dsimp only at some_ ⊢
    split at some_
    · cases some_
    · rename_i filled
      rw [if_neg filled]
      have wf := wellFormed_of_filled listed.valid (Bool.eq_false_iff.2 filled)
      exact (shows_congr fun shift => Mode.bitsAt_replaced _ _).2 (shows_withMode wf _)
  | owner =>
    refine (shows_congr fun shift fits => ?_).2 (shown some_)
    rw [Mode.bitsAt_replaced _ _ fits, Mode.bitsAt_perm _ fits]
  | list path acl valid =>
    have wf := wellFormed_of_filled valid some_
    exact (shows_congr fun shift => Mode.bitsAt_replaced _ _).2 (shows_modeOf wf _)

section Changes

variable {ctx : SecurityContext} {old new : Entry} {path : String} {mode : Mode}

/-- The set-group-id bit apart, an identity gives an entry the permission bits that it asks for. -/
theorem bitsAt_bitsFor (ctx : SecurityContext) (old : Entry) (mode : Mode) {shift : Mode}
    (fits : shift.toNat ≤ 6) : (bitsFor ctx old mode).bitsAt shift = mode.bitsAt shift := by
  unfold bitsFor
  split
  · rw [(Mode.bitsAt_setGroupId _ fits).2, Mode.bitsAt_perm _ fits]
  · exact Mode.bitsAt_perm _ fits

/-- What is looked up is stored, and stays so. -/
theorem stored_of_found {b after : Browsing Namespace} (tree : b.store.Tree)
    (found : handler (some Namespace.handler) (.entry path) b = .ok old after) :
    b.store.entries.get? old.stat.ino = some old ∧ after = b := by
  have looked : lookup (some Namespace.handler) (Path.absolute b.session.workingDir path) b =
      .ok old after := found
  obtain ⟨⟨_, _, reaches⟩, same⟩ := (lookup_eq_ok_iff shows_namespace).1 looked
  exact ⟨tree.reached_stored reaches, same⟩

/-- The owner of an entry changes its mode, if it can look it up. -/
theorem setMode_of_found {b after : Browsing Namespace} (tree : b.store.Tree)
    (known : b.session.security = some ctx) (own : ctx.uid = old.stat.uid)
    (found : handler (some Namespace.handler) (.entry path) b = .ok old after) (mode : Mode) :
    ∃ after new, handler (some Namespace.handler) (.setMode path mode) b = .ok () after ∧
      after.store.entries.get? old.stat.ino = some new ∧ Restyled ctx old (.setMode path mode) new := by
  have identified : context b = .ok ctx b := context_eq_ok_iff.2 ⟨known, rfl⟩
  obtain ⟨there, rfl⟩ := stored_of_found tree found
  have looked : lookup (some Namespace.handler) (Path.absolute after.session.workingDir path) after =
      .ok old after := found
  have owned : requireOwner old (Path.absolute after.session.workingDir path) after = .ok () after := by
    refine (Action.bind_of_ok identified).trans ?_
    rw [if_neg (not_not_intro (.inr own))]
    rfl
  have asked : handler (some Namespace.handler) (.setMode path mode) after =
      ask (some Namespace.handler) (.setMode old.stat.ino old.stat.uid old.stat.gid
        (bitsFor ctx old mode)
        (if old.acl.isEmpty then ∅ else old.acl.withMode (bitsFor ctx old mode))) after :=
    (Action.bind_of_ok looked).trans ((Action.bind_of_ok owned).trans (Action.bind_of_ok identified))
  obtain ⟨new, made, style⟩ : ∃ new,
      after.store.setMode old.stat.ino old.stat.uid old.stat.gid (bitsFor ctx old mode)
          (if old.acl.isEmpty then ∅ else old.acl.withMode (bitsFor ctx old mode)) =
        .ok (after.store.store old.stat.ino new) ∧ Restyled ctx old (.setMode path mode) new :=
    ⟨_, Namespace.setMode_eq_ok_iff.2 ⟨old, there, rfl⟩, .mode path mode⟩
  refine ⟨_, new, asked.trans (ask_eq_ok_iff.2 ⟨_, Namespace.change_eq_ok_iff.2 made, rfl⟩), ?_, style⟩
  exact (Namespace.get?_store _ _ _ _).trans (if_pos rfl)

/-- Who asks for the mode that an entry reports leaves the permission bits. What the list says of each tag
stays exactly if it has been shown, and then everyone may do what they could before. -/
theorem Restyled.reported (style : Restyled ctx old (.setMode path mode) new)
    (valid : old.acl.validate = .ok ()) (same : mode.perm = old.stat.mode.perm) :
    new.stat.mode &&& Mode.accessMask = old.stat.mode &&& Mode.accessMask ∧
      ((∀ tag, new.acl.permOf? tag = old.acl.permOf? tag) ↔ old.ShowsList) ∧
      (old.ShowsList → ∀ c requested, new.permits c requested = old.permits c requested) := by
  obtain _ | _ | _ := style
  have follows : (if old.acl.isEmpty then ∅ else old.acl.withMode (bitsFor ctx old mode)) =
      old.acl.withMode (bitsFor ctx old mode) :=
    ite_eq_right_iff.2 fun empty => (withMode_of_isEmpty empty _).symm
  -- Both words show the same of each class, and the list follows the first.
  have asked : ∀ shift : Mode, shift.toNat ≤ 6 →
      (bitsFor ctx old mode).bitsAt shift = old.stat.mode.bitsAt shift := by
    intro shift fits
    rw [bitsAt_bitsFor ctx old mode fits, ← Mode.bitsAt_perm mode fits, same, Mode.bitsAt_perm _ fits]
  have shown : ∀ shift : Mode, shift.toNat ≤ 6 →
      ((old.stat.mode &&& Mode.typeMask) ||| (bitsFor ctx old mode).perm).bitsAt shift =
        old.stat.mode.bitsAt shift := by
    intro shift fits
    rw [Mode.bitsAt_replaced _ _ fits, asked shift fits]
  have listed : (∀ tag, (old.acl.withMode (bitsFor ctx old mode)).permOf? tag = old.acl.permOf? tag) ↔
      old.ShowsList := by
    rw [Entry.showsList_iff valid]
    rcases validate_eq_ok_iff.1 valid with empty | wf
    · have none_ : old.acl.isEmpty = true := List.isEmpty_iff.2 empty
      refine iff_of_true (fun tag => ?_) fun some_ => nomatch none_.symm.trans some_
      rw [withMode_of_isEmpty none_, permOf?, permOf?, Acl.find?, Acl.find?, empty]
      rfl
    · rw [permOf?_withMode_eq_iff wf, shows_congr asked]
      exact ⟨fun shows_ _ => shows_, fun shows_ => shows_ (isEmpty_of_wellFormed wf)⟩
  rw [follows]
  exact ⟨Mode.access_eq_of_classes (shown 6 (by decide)) (shown 3 (by decide)) (shown 0 (by decide)),
    listed, fun shows_ _ _ => Permission.permits_congr (Permission.namesAlike_withMode _ _)
      (listed.2 shows_) rfl rfl shown⟩

end Changes

end BuiltIn

namespace Namespace

open BuiltIn

variable {ns : Namespace} {v : Visit}

/-- Every entry shows its list. -/
def ModesShow (ns : Namespace) : Prop :=
  ∀ ino entry, ns.entries.get? ino = some entry → entry.ShowsList

theorem modesShow_initial : initial.ModesShow := by
  intro ino entry there
  obtain ⟨-, rfl⟩ := Prod.mk.inj (List.mem_singleton.1 (Table.mem_of_get? there))
  exact nofun

/-- A visit leaves every entry showing its list exactly if it does not stray. -/
theorem ModesShow.visited_iff (shown : ns.ModesShow) (sound : ns.ListsSound) (tree : ns.Tree) (v : Visit) :
    (ns.visited v).ModesShow ↔ ¬ v.Strays ns := by
  constructor
  · rintro after ⟨path, type, mode, answer, left, parent, asked, done, above, strays⟩
    obtain ⟨ctx, other, created, makes⟩ := makes_of_ok tree asked done
    obtain rfl := Option.some.inj (above.symm.trans makes.above)
    have valid := (sound _ parent (entry_eq_ok_iff.1 (tree.keyed.stored above))).valid
    have here : ns.visited v = left.store := left_of_ok done
    obtain ⟨name, drawn⟩ := makes.drawn
    have shows_ := after _ created (here ▸ makes.stored)
    rw [drawn] at shows_
    exact (showsList_template_iff name valid).1 shows_ strays
  · intro straight ino entry there
    cases origin_of_visited tree there with
    | kept old held size same =>
      rw [same]
      exact shown ino old held
    | restyled ctx known old held style => exact style.showsList (sound ino old held) (shown ino old held)
    | made path name type mode asked ctx known parent front whole reaches fresh same =>
      cases run : BuiltIn.handler (some handler) v.request ⟨v.session, ns⟩ with
      | error e after =>
        -- A request that fails leaves the namespace, and so the entry was there before.
        have here : ns.visited v = ns := left_of_error run
        rw [here] at there
        exact shown ino entry there
      | ok answer after =>
        have above : ns.at? (v.session.names path).dropLast = some parent := by
          rw [← whole, List.dropLast_concat]
          exact at?_of_reaches reaches
        have valid := (sound _ parent (tree.reached_stored reaches)).valid
        have within : ¬ parent.acl.Strays mode := fun strays =>
          straight ⟨path, type, mode, answer, after, parent, asked, run, above, strays⟩
        rw [same]
        exact (showsList_template_iff name valid).2 within

/-- Every entry shows its list after each of the visits exactly if none of them strays. -/
theorem modesShow_iff (turns : List Visit) :
    (∀ earlier, earlier <+: turns → (initial.visits earlier).ModesShow) ↔
      ∀ earlier v, earlier ++ [v] <+: turns → ¬ v.Strays (initial.visits earlier) := by
  have step : ∀ earlier v, (initial.visits earlier).ModesShow →
      ((initial.visits (earlier ++ [v])).ModesShow ↔ ¬ v.Strays (initial.visits earlier)) := by
    intro earlier v shown
    rw [visits_append]
    exact shown.visited_iff (listsSound_of_visits earlier) (tree_of_visits earlier) v
  constructor
  · intro shown earlier v before
    exact (step earlier v (shown earlier ((List.prefix_append _ _).trans before))).1 (shown _ before)
  · intro straight earlier before
    induction earlier using List.reverseRecOn with
    | nil => exact modesShow_initial
    | append_singleton earlier v ih =>
      exact (step earlier v (ih ((List.prefix_append _ _).trans before))).2 (straight earlier v before)

/-- Whatever catalogs did to the namespace, each for any identity: the mode word of every entry has been that
of its list all the time exactly if nothing has been made in a directory whose default mask strays from what
the owning group gets. An owner who then sets the mode that an entry reports leaves its permission bits; what
the list says stays exactly if the mode is that of the list, and then everyone may do what they could. -/
theorem modes_show_lists_iff_none_strays (turns : List Visit) :
    let ns := initial.visits turns
    ((∀ earlier, earlier <+: turns → (initial.visits earlier).ModesShow) ↔
      ∀ earlier v, earlier ++ [v] <+: turns → ¬ v.Strays (initial.visits earlier)) ∧
    ∀ session ctx path mode entry after, session.security = some ctx → ctx.uid = entry.stat.uid →
      BuiltIn.handler (some handler) (.entry path) ⟨session, ns⟩ = .ok entry after →
      mode.perm = entry.stat.mode.perm →
      ∃ after new, BuiltIn.handler (some handler) (.setMode path mode) ⟨session, ns⟩ = .ok () after ∧
        after.store.entries.get? entry.stat.ino = some new ∧
        new.stat.mode &&& Mode.accessMask = entry.stat.mode &&& Mode.accessMask ∧
        ((∀ tag, new.acl.permOf? tag = entry.acl.permOf? tag) ↔ entry.ShowsList) ∧
        (entry.ShowsList → ∀ c requested, new.permits c requested = entry.permits c requested) := by
  intro ns
  have tree : ns.Tree := tree_of_visits turns
  refine ⟨modesShow_iff turns, fun session ctx path mode entry after known own found same => ?_⟩
  obtain ⟨changed, new, done, stored, style⟩ := setMode_of_found tree known own found mode
  have valid := (listsSound_of_visits turns _ entry (stored_of_found tree found).1).valid
  exact ⟨changed, new, done, stored, style.reported valid same⟩

/-- Root makes a file in the directory that is shared with alice's group. -/
def loosened : List Visit :=
  shared ++ [⟨{ security := some SecurityContext.root }, .create "/d/f" 0o777⟩]

/-- One of these visits strays, and setting the mode that the file reports takes something away. -/
theorem loosened_mode_strays :
    let ns := initial.visits loosened
    let session : CatalogSession := { security := some SecurityContext.root }
    (∃ earlier v, earlier ++ [v] <+: loosened ∧ v.Strays (initial.visits earlier)) ∧
    ∃ entry new after, BuiltIn.handler (some handler) (.entry "/d/f") ⟨session, ns⟩ = .ok entry ⟨session, ns⟩ ∧
      BuiltIn.handler (some handler) (.setMode "/d/f" entry.stat.mode) ⟨session, ns⟩ = .ok () after ∧
      after.store.entries.get? entry.stat.ino = some new ∧
      ¬ ∀ tag, new.acl.permOf? tag = entry.acl.permOf? tag := by
  intro ns session
  obtain ⟨straight, kept⟩ := modes_show_lists_iff_none_strays loosened
  obtain ⟨entry, after, found⟩ : ∃ entry after,
      BuiltIn.handler (some handler) (.entry "/d/f") ⟨session, ns⟩ = .ok entry after :=
    Action.exists_of_isOk (by decide +kernel)
  have seen : (((BuiltIn.handler (some handler) (.entry "/d/f")).outcome ⟨session, ns⟩).1.toOption.map
      fun e => (e.stat.uid, e.acl.isEmpty, decide (e.acl.modeOf e.stat.mode = e.stat.mode))) =
        some (0, false, false) := by
    decide +kernel
  rw [Action.outcome_of_ok found] at seen
  obtain ⟨owner, facts⟩ := Prod.mk.inj (Option.some.inj seen)
  obtain ⟨listed, differs⟩ := Prod.mk.inj facts
  have hidden : ¬ entry.ShowsList := fun shows_ => of_decide_eq_false differs (shows_ listed)
  obtain ⟨there, rfl⟩ := stored_of_found (tree_of_visits loosened) found
  obtain ⟨left, new, done, stored, -, same, -⟩ :=
    kept session SecurityContext.root "/d/f" entry.stat.mode entry _ rfl owner.symm found rfl
  have strays : ∃ earlier v, earlier ++ [v] <+: loosened ∧ v.Strays (initial.visits earlier) := by
    refine Classical.byContradiction fun none_ => hidden ?_
    have shown := straight.2 fun earlier v before strays => none_ ⟨earlier, v, before, strays⟩
    exact shown loosened (List.prefix_refl _) _ _ there
  exact ⟨strays, entry, new, left, found, done, stored, fun unchanged => hidden (same.1 unchanged)⟩

end Namespace
end Stowage
