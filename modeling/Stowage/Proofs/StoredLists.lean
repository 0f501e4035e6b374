import Stowage.Proofs.CatalogRuns
import Stowage.Proofs.InheritedLists

/-! The lists that catalogs store. Every list that an entry gets is valid, whether it is set, inherited or
follows a change of the mode, and only directories have default entries. They go from each directory to the
directories that are made in it as they are, and to nothing else. -/
namespace Stowage

/-- A type says nothing but whether it is that of a directory. -/
theorem Mode.directory_of_type (type mode : Mode) :
    (type ||| mode.perm) &&& Mode.directory = type &&& Mode.directory := by
  have part : Mode.directory = Mode.typeMask &&& Mode.directory := by decide
  rw [part, ← UInt32.and_assoc, Mode.type_or (Mode.type_perm mode), UInt32.and_assoc]

namespace BuiltIn

open Acl Namespace

section Templates

variable {ctx : SecurityContext} {umask type mode : Mode} {parent : Entry} (name : String)

/-- The group of a new entry. -/
def groupOf (ctx : SecurityContext) (parent : Entry) : UInt32 :=
  if parent.stat.mode.hasSetGroupId then parent.stat.gid else ctx.gid

/-- List and mode word that the directory of a new entry gives to it, but for the set-group-id bit. -/
def given (ctx : SecurityContext) (umask : Mode) (parent : Entry) (type mode : Mode) : Acl × Mode :=
  if parent.acl.hasDefaults then
    parent.acl.inherit ctx.uid (groupOf ctx parent) mode (type ||| mode.perm)
  else (∅, type ||| (mode &&& ~~~umask).perm)

theorem given_of_defaults (some_ : parent.acl.hasDefaults = true) : given ctx umask parent type mode =
    parent.acl.inherit ctx.uid (groupOf ctx parent) mode (type ||| mode.perm) :=
  if_pos some_

theorem template_eq : (template ctx umask parent name type mode).acl = (given ctx umask parent type mode).1 ∧
    ((template ctx umask parent name type mode).stat.mode = (given ctx umask parent type mode).2 ∨
      (template ctx umask parent name type mode).stat.mode =
        (given ctx umask parent type mode).2 ||| Mode.setGroupId) := by
  refine ⟨rfl, ?_⟩
  unfold template
  dsimp only
  split
  · exact .inr rfl
  · exact .inl rfl

/-- A new entry shows to everyone what its directory gives to it. -/
theorem bitsAt_template {shift : Mode} (fits : shift.toNat ≤ 6) :
    (template ctx umask parent name type mode).stat.mode.bitsAt shift =
      (given ctx umask parent type mode).2.bitsAt shift := by
  rcases (template_eq name).2 with same | same
  · rw [same]
  · rw [same, (Mode.bitsAt_setGroupId _ fits).1]

theorem wellFormed_of_defaults {acl : Acl} (valid : acl.validate = .ok ())
    (some_ : acl.hasDefaults = true) : WellFormed acl.entries := by
  rcases validate_eq_ok_iff.1 valid with empty | wf
  · obtain ⟨e, member, -⟩ := hasDefaults_iff.1 some_
    rw [empty] at member
    cases member
  · exact wf

/-- A new entry gets a valid list. -/
theorem validate_given (valid : parent.acl.validate = .ok ()) :
    (given ctx umask parent type mode).1.validate = .ok () := by
  unfold given
  split
  · rename_i some_
    have wf := wellFormed_of_defaults valid some_
    rcases inherit_cases ctx.uid (groupOf ctx parent) mode (type ||| mode.perm) wf some_ with
      ⟨new, -⟩ | ⟨empty, -⟩
    · exact validate_eq_ok_iff.2 (.inr new)
    · exact validate_eq_ok_iff.2 (.inl empty)
  · rfl

/-- A new directory gets the default entries of its own, as they are. -/
theorem defaults_given (valid : parent.acl.validate = .ok ()) :
    (given ctx umask parent Mode.directory mode).1.defaults = parent.acl.defaults := by
  unfold given
  split
  · rename_i some_
    refine defaults_inherit_of_directory (wellFormed_of_defaults valid some_) some_ ?_
    rw [Mode.directory_of_type, UInt32.and_self]
  · rename_i none_
    refine (List.filter_eq_nil_iff.2 fun e member default => ?_).symm
    exact none_ (hasDefaults_iff.2 ⟨e, member, default⟩)

/-- A new file gets no default entries. -/
theorem hasDefaults_given (valid : parent.acl.validate = .ok ()) :
    (given ctx umask parent Mode.regular mode).1.hasDefaults = false := by
  unfold given
  split
  · rename_i some_
    refine hasDefaults_inherit_of_file (wellFormed_of_defaults valid some_) some_ ?_
    rw [Mode.directory_of_type]
    decide
  · rfl

/-- A new entry is of the type that it is made as, whatever it inherits. -/
theorem type_given (valid : parent.acl.validate = .ok ()) :
    (given ctx umask parent type mode).2 &&& Mode.typeMask = type &&& Mode.typeMask := by
  unfold given
  split
  · rename_i some_
    have wf := wellFormed_offered (wellFormed_of_defaults valid some_) some_
    refine Eq.trans (Mode.eq_of_bits fun i low => ?_) (Mode.type_or (Mode.type_perm mode))
    rw [Mode.bit_and, Mode.bit_and]
    rcases Nat.lt_or_ge i 9 with inside | beyond
    · have clear : ∀ i, i < 9 → Mode.typeMask.bit i = false := by decide
      rw [clear i inside, Bool.and_false, Bool.and_false]
    · rw [bit_inherit wf beyond low]
  · exact Mode.type_or (Mode.type_perm _)

theorem isDirectory_template (valid : parent.acl.validate = .ok ()) :
    (template ctx umask parent name Mode.directory mode).stat.isDirectory = true := by
  have type : (given ctx umask parent Mode.directory mode).2 &&& Mode.typeMask = Mode.directory :=
    (type_given valid).trans (by decide)
  unfold Stat.isDirectory Mode.isDirectory
  rcases (template_eq name).2 with same | same
  · rw [same, type, beq_self_eq_true]
  · rw [same, Mode.type_or (by decide), type, beq_self_eq_true]

end Templates

end BuiltIn

/-- The list of an entry is valid, and if it has default entries, then it is that of a directory. -/
structure Entry.Listed (entry : Entry) : Prop where
  valid : entry.acl.validate = .ok ()
  directory (some_ : entry.acl.hasDefaults = true) : entry.stat.isDirectory = true

namespace Acl

theorem hasDefaults_withMode (acl : Acl) (mode : Mode) : (acl.withMode mode).hasDefaults = acl.hasDefaults := by
  unfold hasDefaults
  rw [entries_withMode, List.any_map]
  congr 1
  funext e
  exact (under_same _ _ e).2.1

theorem validate_withMode {acl : Acl} (valid : acl.validate = .ok ()) (some_ : acl.isEmpty = false)
    (mode : Mode) : (acl.withMode mode).validate = .ok () :=
  validate_eq_ok_iff.2 (.inr (wellFormed_withMode mode (wellFormed_of_filled valid some_)))

end Acl

namespace BuiltIn

open Acl Namespace

/-- A restyled entry has a valid list, and default entries only as a directory. -/
theorem Restyled.listed {ctx : SecurityContext} {old new : Entry} {r : CatalogRequest}
    (style : Restyled ctx old r new) (listed : old.Listed) : new.Listed := by
  refine ⟨?_, fun some_ => style.kept.2.2.trans ?_⟩
  · cases style with
    | mode =>
      dsimp only
      split
      · rfl
      · rename_i some_
        exact validate_withMode listed.valid (Bool.eq_false_iff.2 some_) _
    | owner => exact listed.valid
    | list path acl valid => exact valid
  · cases style with
    | mode =>
      dsimp only at some_
      split at some_
      · cases some_
      · rw [hasDefaults_withMode] at some_
        exact listed.directory some_
    | owner => exact listed.directory some_
    | list path acl _ fits => exact fits some_

/-- What is made is a file or a directory. -/
theorem type_of_made {r : CatalogRequest} {path : String} {type mode : Mode}
    (asked : r.made? = some (path, type, mode)) : type = Mode.regular ∨ type = Mode.directory := by
  cases r with
  | create => cases asked; exact .inl rfl
  | makeDir => cases asked; exact .inr rfl
  | _ => cases asked

/-- A new entry has a valid list, and default entries only as a directory. -/
theorem listed_template {ctx : SecurityContext} {umask type mode : Mode} {parent : Entry} {name : String}
    (valid : parent.acl.validate = .ok ()) (proper : type = Mode.regular ∨ type = Mode.directory) :
    (template ctx umask parent name type mode).Listed := by
  refine ⟨(template_eq name).1 ▸ validate_given valid, fun some_ => ?_⟩
  rcases proper with rfl | rfl
  · rw [(template_eq name).1, hasDefaults_given valid] at some_
    cases some_
  · exact isDirectory_template name valid

end BuiltIn

namespace Namespace

open BuiltIn

variable {ns : Namespace} {names last : List String} {entry : Entry} {ino : Nat}

/-- Every entry has a valid list, and default entries only as a directory. -/
def ListsSound (ns : Namespace) : Prop :=
  ∀ ino entry, ns.entries.get? ino = some entry → entry.Listed

theorem listsSound_initial : initial.ListsSound := by
  intro ino entry there
  obtain ⟨-, rfl⟩ := Prod.mk.inj (List.mem_singleton.1 (Table.mem_of_get? there))
  exact ⟨rfl, nofun⟩

/-- A visit, whatever it asks for, leaves valid lists. -/
theorem ListsSound.visited (sound : ns.ListsSound) (tree : ns.Tree) (v : Visit) :
    (ns.visited v).ListsSound := by
  intro ino entry there
  cases origin_of_visited tree there with
  | kept old held size same =>
    obtain ⟨valid, directory⟩ := sound ino old held
    rw [same]
    exact ⟨valid, directory⟩
  | restyled ctx known old held style => exact style.listed (sound ino old held)
  | made path name type mode asked ctx known parent front whole reaches fresh same =>
    have valid := (sound _ parent (tree.reached_stored reaches)).valid
    have listed : (template ctx v.session.umask parent name type mode).Listed :=
      listed_template valid (type_of_made asked)
    rw [same]
    exact ⟨listed.valid, listed.directory⟩

theorem listsSound_of_visits (turns : List Visit) : (initial.visits turns).ListsSound := by
  induction turns using List.reverseRecOn with
  | nil => exact listsSound_initial
  | append_singleton earlier v ih =>
    rw [visits_append]
    exact ih.visited (tree_of_visits earlier) v

/-- The default entries of what stands at a path. -/
def defaultsAt (ns : Namespace) (names : List String) : Option (List AclEntry) :=
  (ns.at? names).map (·.acl.defaults)

section Makings

variable {session : CatalogSession} {path : String} {mode : Mode} {after : Browsing Namespace}

/-- A directory that is made has the default entries of the one that it is made in. -/
theorem ListsSound.defaults_of_makeDir (sound : ns.ListsSound) (tree : ns.Tree)
    (done : BuiltIn.handler (some handler) (.makeDir path mode) ⟨session, ns⟩ = .ok () after) :
    ∃ parent created, ns.at? (session.names path).dropLast = some parent ∧
      after.store.at? (session.names path) = some created ∧
      ns.entries.get? created.stat.ino = none ∧ created.acl.defaults = parent.acl.defaults := by
  obtain ⟨ctx, parent, created, makes⟩ := makes_of_ok tree rfl done
  have valid := (sound _ parent (entry_eq_ok_iff.1 (tree.keyed.stored makes.above))).valid
  obtain ⟨name, drawn⟩ := makes.drawn
  refine ⟨parent, created, makes.above, makes.stands, makes.fresh, ?_⟩
  rw [drawn]
  exact defaults_given valid

/-- A file that is made has no default entries. -/
theorem ListsSound.hasDefaults_of_create (sound : ns.ListsSound) (tree : ns.Tree)
    (done : BuiltIn.handler (some handler) (.create path mode) ⟨session, ns⟩ = .ok () after) :
    ∃ created, after.store.at? (session.names path) = some created ∧
      ns.entries.get? created.stat.ino = none ∧ created.acl.hasDefaults = false := by
  obtain ⟨ctx, parent, created, makes⟩ := makes_of_ok tree rfl done
  have valid := (sound _ parent (entry_eq_ok_iff.1 (tree.keyed.stored makes.above))).valid
  obtain ⟨name, drawn⟩ := makes.drawn
  refine ⟨created, makes.stands, makes.fresh, ?_⟩
  rw [drawn]
  exact hasDefaults_given valid

end Makings

/-- During the visits, a chain of directories is made, each in the one before, from the directory at the
first names to that at the last; what else is visited leaves the default entries of the one that the chain
has come to. -/
inductive Nests : Namespace → List String → List Visit → List String → Prop where
  | done {ns : Namespace} {names : List String} : Nests ns names [] names
  | within {ns : Namespace} {names last : List String} {name path : String} {mode : Mode}
      {session : CatalogSession} {later : List Visit}
      (inside : session.names path = names ++ [name])
      (made : ∃ answer after,
        BuiltIn.handler (some handler) (.makeDir path mode) ⟨session, ns⟩ = .ok answer after)
      (rest : Nests (ns.visited ⟨session, .makeDir path mode⟩) (names ++ [name]) later last) :
      Nests ns names (⟨session, .makeDir path mode⟩ :: later) last
  | aside {ns : Namespace} {names last : List String} {v : Visit} {later : List Visit}
      (same : (ns.visited v).defaultsAt names = ns.defaultsAt names)
      (rest : Nests (ns.visited v) names later last) : Nests ns names (v :: later) last

/-- The default entries arrive at the end of the chain as they were at its beginning. -/
theorem Nests.defaultsAt_eq {turns : List Visit} (nests : Nests ns names turns last)
    (sound : ns.ListsSound) (tree : ns.Tree) :
    (ns.visits turns).defaultsAt last = ns.defaultsAt names := by
  induction nests with
  | done => rfl
  | @within ns names last name path mode session later inside made _ ih =>
    obtain ⟨_, after, made⟩ := made
    have here : ns.visited ⟨session, .makeDir path mode⟩ = after.store := left_of_ok made
    obtain ⟨parent, created, above, stands, -, handed⟩ := sound.defaults_of_makeDir tree made
    rw [inside, List.dropLast_concat] at above
    rw [inside] at stands
    refine (ih (sound.visited tree _) (tree.visited _)).trans ?_
    rw [here, defaultsAt, defaultsAt, stands, above]
    exact congrArg some handed
  | aside same _ ih => exact (ih (sound.visited tree _) (tree.visited _)).trans same

/-- Whatever catalogs did to the namespace, each for any identity: the list of every entry is valid, and only
directories have default entries. A directory that is made then has exactly the default entries of the one
that it is made in, so along a chain of directories they arrive as they are; a file has none. -/
theorem lists_valid_and_defaults_handed_on (turns : List Visit) :
    let ns := initial.visits turns
    (∀ ino entry, ns.entries.get? ino = some entry → entry.acl.validate = .ok () ∧
      (entry.acl.hasDefaults = true → entry.stat.isDirectory = true)) ∧
    (∀ session path mode after,
      BuiltIn.handler (some handler) (.makeDir path mode) ⟨session, ns⟩ = .ok () after →
      ∃ parent created, ns.at? (session.names path).dropLast = some parent ∧
        after.store.at? (session.names path) = some created ∧
        ns.entries.get? created.stat.ino = none ∧ created.acl.defaults = parent.acl.defaults) ∧
    (∀ session path mode after,
      BuiltIn.handler (some handler) (.create path mode) ⟨session, ns⟩ = .ok () after →
      ∃ created, after.store.at? (session.names path) = some created ∧
        ns.entries.get? created.stat.ino = none ∧ created.acl.hasDefaults = false) ∧
    ∀ names more last, Nests ns names more last →
      (ns.visits more).defaultsAt last = ns.defaultsAt names := by
  intro ns
  have tree : ns.Tree := tree_of_visits turns
  have sound : ns.ListsSound := listsSound_of_visits turns
  exact ⟨fun ino entry there => ⟨(sound ino entry there).valid, (sound ino entry there).directory⟩,
    fun _ _ _ _ => sound.defaults_of_makeDir tree, fun _ _ _ _ => sound.hasDefaults_of_create tree,
    fun _ _ _ nests => nests.defaultsAt_eq sound tree⟩

/-- A directory of root's that hands on what alice's group may do. -/
def shared : List Visit :=
  [⟨{ security := some SecurityContext.root }, .makeDir "/d" 0o777⟩,
    ⟨{ security := some SecurityContext.root }, .setAcl "/d" (.ofEntries
      [⟨.userObj, false, 7, 0⟩, ⟨.groupObj, false, 7, 0⟩, ⟨.other, false, 7, 0⟩, ⟨.userObj, true, 7, 0⟩,
        ⟨.groupObj, true, 5, 0⟩, ⟨.group, true, 7, 200⟩, ⟨.mask, true, 7, 0⟩, ⟨.other, true, 0, 0⟩])⟩]

/-- Alice makes a directory in it, root makes it its own, and makes another one in it. -/
def nested : List Visit :=
  [⟨{ security := some ReplicaRights.alice }, .makeDir "/d/e" 0o700⟩,
    ⟨{ security := some SecurityContext.root }, .setOwner "/d/e" 0 0⟩,
    ⟨{ security := some SecurityContext.root, workingDir := "/d/e" }, .makeDir "f" 0o750⟩]

/-- Five default entries arrive in the directory of the second. -/
theorem defaults_handed_on_to_nested :
    ((initial.visits shared).defaultsAt ["d"]).map List.length = some 5 ∧
      ((initial.visits shared).visits nested).defaultsAt ["d", "e", "f"] =
        (initial.visits shared).defaultsAt ["d"] := by
  have chain : Nests (initial.visits shared) ["d"] nested ["d", "e", "f"] :=
    .within (by decide +kernel) (Action.exists_of_isOk (by decide +kernel))
      (.aside (by decide +kernel)
        (.within (by decide +kernel) (Action.exists_of_isOk (by decide +kernel)) .done))
  obtain ⟨-, -, -, arrives⟩ := lists_valid_and_defaults_handed_on shared
  exact ⟨by decide +kernel, arrives ["d"] nested ["d", "e", "f"] chain⟩

end Namespace
end Stowage
