import Stowage.Proofs.Changes
import Stowage.Proofs.Placing

/-! What finding a location to write to does to the namespace. A file that is there stays as it is, and a
file that is missing is made: one regular file without content, at the path and owned by the caller. A
search that fails changes no table. A row that bears the number of the new file is the one thing that
the namespace does not rule out. -/
namespace Stowage

namespace Acl

/-- A default entry bounds permissions, and leaves the type. -/
theorem type_boundedBy {create : Mode} (plain : create &&& Mode.typeMask = 0) (mode : Mode)
    (e : AclEntry) : boundedBy create mode e &&& Mode.typeMask = mode &&& Mode.typeMask := by
  have kept : ∀ shift, ~~~((7 : UInt32) <<< shift) &&& Mode.typeMask = Mode.typeMask →
      bounded mode create shift e.perm &&& Mode.typeMask = mode &&& Mode.typeMask := by
    intro shift apart
    unfold bounded
    rw [Mode.type_or (Mode.plain_and plain _), UInt32.and_assoc, apart]
  unfold boundedBy
  split
  · exact kept 6 (by decide)
  · exact kept 3 (by decide)
  · exact kept 0 (by decide)
  · rfl

/-- What a new entry inherits leaves its type. -/
theorem type_inherit {create : Mode} (plain : create &&& Mode.typeMask = 0) (acl : Acl)
    (uid gid : UInt32) (mode : Mode) :
    (acl.inherit uid gid create mode).2 &&& Mode.typeMask = mode &&& Mode.typeMask := by
  have folded : ∀ (defaults : List AclEntry) (mode : Mode),
      defaults.foldl (boundedBy create) mode &&& Mode.typeMask = mode &&& Mode.typeMask := by
    intro defaults
    induction defaults with
    | nil => exact fun _ => rfl
    | cons e rest ih =>
      intro mode
      rw [List.foldl_cons, ih, type_boundedBy plain]
  exact folded _ mode

end Acl

namespace BuiltIn

/-- A file that is made with permissions alone is a regular file, of the one who makes it. -/
theorem template_file {mode : Mode} (plain : mode &&& Mode.typeMask = 0) (ctx : SecurityContext)
    (umask : Mode) (parent : Entry) (name : String) :
    (template ctx umask parent name Mode.regular mode).stat.isRegular = true ∧
      (template ctx umask parent name Mode.regular mode).stat.uid = ctx.uid ∧
      (template ctx umask parent name Mode.regular mode).parent = parent.stat.ino ∧
      (template ctx umask parent name Mode.regular mode).name = name := by
  have other : Mode.regular ≠ Mode.directory := by decide
  have perms : ∀ bits : Mode, (Mode.regular ||| bits.perm) &&& Mode.typeMask = Mode.regular := by
    intro bits
    rw [Mode.type_or (Mode.type_perm bits)]
    decide
  have type : ∀ fileMode : Mode, fileMode &&& Mode.typeMask = Mode.regular →
      Stat.isRegular { mode := fileMode } = true := by
    intro fileMode same
    unfold Stat.isRegular Mode.isRegular
    simp [same]
  refine ⟨?_, rfl, rfl, rfl⟩
  unfold template
  simp only [other, and_false, if_false]
  split
  · exact type _ ((Acl.type_inherit plain _ _ _ _).trans (perms mode))
  · exact type _ (perms _)

end BuiltIn

namespace Namespace

variable {ns next : Namespace} {template created entry : Entry} {names : List String}

/-- What was there under a name stays there when an entry is made. -/
theorem child_of_create (numbered : ns.Numbered) (made : ns.create template = .ok (created, next))
    {parent : Nat} {name : String} (found : ns.child parent name = .ok entry) :
    next.child parent name = .ok entry := by
  obtain ⟨free, -, rfl⟩ := create_eq_ok made
  obtain ⟨number, named, stored⟩ := Error.bind_eq_ok_iff.1 found
  have below : number < ns.nextIno := numbered _ _ (entry_eq_ok_iff.1 stored)
  refine Error.bind_eq_ok_iff.2 ⟨number, ?_, ?_⟩
  · have other : (⟨parent, name⟩ : NameKey) ≠ ⟨template.parent, template.name⟩ := by
      intro same
      rw [same, free] at named
      cases named
    rw [Table.get?_insert, if_neg other]
    exact named
  · have other : number ≠ ns.nextIno := by omega
    rw [entry_eq_ok_iff, Table.get?_insert, if_neg other]
    exact entry_eq_ok_iff.1 stored

/-- What stood at a path stands there when an entry is made. -/
theorem at?_of_create (numbered : ns.Numbered) (made : ns.create template = .ok (created, next))
    (there : ns.at? names = some entry) : next.at? names = some entry :=
  at?_mono (child_of_create numbered made) there

/-- An entry that is made stands in its directory. -/
theorem child_created (made : ns.create template = .ok (created, next)) :
    next.child template.parent template.name = .ok created := by
  obtain ⟨-, -, rfl⟩ := create_eq_ok made
  refine Error.bind_eq_ok_iff.2 ⟨ns.nextIno, ?_, ?_⟩
  · rw [Table.get?_insert, if_pos rfl]
    rfl
  · rw [entry_eq_ok_iff, Table.get?_insert, if_pos rfl]

/-- The namespaces differ by one new file of that owner, which stands at the names. -/
structure NewFile (ns next : Namespace) (names : List String) (uid : UInt32) (created : Entry) :
    Prop where
  regular : created.stat.isRegular = true
  empty : created.stat.size = 0
  owner : created.stat.uid = uid
  number : created.stat.ino = ns.nextIno
  fresh : ns.entries.get? ns.nextIno = none
  free : ns.names.get? ⟨created.parent, created.name⟩ = none
  added : next = { ns with
    entries := ns.entries.insert ns.nextIno created
    names := ns.names.insert ⟨created.parent, created.name⟩ ns.nextIno
    nextIno := ns.nextIno + 1 }
  stands : next.at? names = some created

/-- A new file shows the rows that bear its number, wherever they come from. -/
theorem NewFile.rowsAt_eq_nil_iff {uid : UInt32} (new : NewFile ns next names uid created) :
    next.rowsAt names = [] ↔ ∀ row ∈ ns.replicas.values, row.file ≠ ns.nextIno := by
  have rows : next.replicas = ns.replicas := by rw [new.added]
  unfold rowsAt
  rw [new.stands]
  simp only [rows, new.number, List.filter_eq_nil_iff, decide_eq_true_eq, ne_eq]

/-- What is made from the template of a file is a new file at the path of its directory and name. -/
theorem newFile_of_create {ctx : SecurityContext} {umask mode : Mode} {parent : Entry} {name : String}
    (numbered : ns.Numbered) (plain : mode &&& Mode.typeMask = 0)
    (there : ns.at? names.dropLast = some parent) (whole : names.dropLast ++ [name] = names)
    (made : ns.create (BuiltIn.template ctx umask parent name Mode.regular mode) =
      .ok (created, next)) : NewFile ns next names ctx.uid created := by
  obtain ⟨regular, owner, directory, named⟩ :=
    BuiltIn.template_file plain ctx umask parent name
  have stands : next.at? (names.dropLast ++ [name]) = some created := by
    have below := child_created made
    rw [directory, named] at below
    exact at?_of_child (at?_of_create numbered made there) below
  obtain ⟨free, same, added⟩ := create_eq_ok made
  refine ⟨?_, ?_, ?_, ?_, ?_, ?_, ?_, whole ▸ stands⟩
  · rw [same]
    exact regular
  · rw [same]
  · rw [same]
    exact owner
  · rw [same]
  · cases held : ns.entries.get? ns.nextIno with
    | none => rfl
    | some entry =>
      have below := numbered _ _ held
      omega
  · rw [same]
    exact free
  · rw [added, same]

end Namespace

namespace OnSite

variable {s t : OnSite} {outer inner : List Decorator} {id : FactoryId} {session : CatalogSession}

/-- The namespaces that catalogs are wired to are those of memory factories that there are. -/
def Backed (s : OnSite) : Prop :=
  ∀ {outer inner : List Decorator} {id : FactoryId} {session : CatalogSession},
    s.Wired outer inner id session → ∃ tables, s.site.manager.factory? id = some (.memory tables)

/-- The catalog makes the entry of a file in the directory that its path tells. -/
theorem Wired.create_eq_ok (wired : s.Wired outer inner id session) {path : String} {mode : Mode}
    (made : StackM.catalog (.create path mode) s = .ok () t) :
    ∃ ctx parent name created next, session.security = some ctx ∧
      (s.site.namespace_ id).Reaches ctx (session.names path).dropLast parent ∧
      (session.names path).dropLast ++ [name] = session.names path ∧
      (s.site.namespace_ id).create
          (BuiltIn.template ctx session.umask parent name Mode.regular mode) =
        .ok (created, next) ∧ t = s.putNamespace id next := by
  obtain ⟨chain, after, same, run, rfl⟩ := StackM.catalog_eq_ok made
  obtain rfl := Option.some.inj (same.symm.trans wired)
  rw [Site.catalogHandler_passed rfl] at run
  obtain ⟨ctx, parent, name, created, known, reaches, whole, -, asked⟩ :=
    BuiltIn.createEntry_eq_ok (Site.shows_memory inner id) run
  obtain ⟨next, done, rfl⟩ := (BuiltIn.ask_memory_eq_ok_iff (fun _ => rfl)).1 asked
  have stored := Action.update_eq_ok (f := (Namespace.create · _)) done
  exact ⟨ctx, parent, name, created, next, known, reaches, whole, stored, wired.browsed_eq _⟩

/-- What was found on the way is stored in the same tables. -/
theorem Drifts.putNamespace {u : OnSite} (drifts : s.Drifts u) (id : FactoryId) (ns : Namespace) :
    (s.putNamespace id ns).SameTables (u.putNamespace id ns) := by
  obtain ⟨-, turn, site⟩ := drifts
  intro n
  unfold OnSite.putNamespace
  rw [site]
  rfl

end OnSite

namespace Resolution

open OnSite StackM

variable {s t : OnSite} {path : String} {location : Location}

/-- A file that could not be made has changed no table; its location is given back. -/
theorem sameTables_of_uncreated (path : String) (pool : Pool) (location : Location) :
    Action.FailsWithin SameTables (createFor path pool location) := by
  intro s e t failed
  unfold createFor at failed
  cases run : catalog (.create path newFileMode) s with
  | ok answer u =>
    rw [Action.bind_of_ok (Action.attempt_of_ok run)] at failed
    cases failed
  | error fault u =>
    obtain rfl := failsClean_catalog _ _ _ _ run
    rw [Action.bind_of_ok (Action.attempt_of_error run)] at failed
    have released := keeps_release sameTables_driver sameTables_askDriver pool location
    have kept := released.attempt.bind fun _ => (Action.reads_throw (α := Unit) fault).keeps
    exact kept.of_error failed

/-- A search that fails changes no table. -/
theorem sameTables_of_unlocated (path : String) :
    Action.FailsWithin SameTables (whereToWrite path) := by
  refine (reads_absolute path).keeps.bind_failsWithin fun target =>
    (reads_pools_list .any).keeps.bind_failsWithin fun pools => Action.FailsWithin.guarded ?_
  refine (keeps_writeCandidates sameTables_driver pools).bind_failsWithin fun candidates =>
    (reads_entryExists target).keeps.bind_failsWithin fun there => ?_
  refine (keeps_placeWrite sameTables_driver sameTables_select _ _ _ _).bind_failsWithin
    fun placed => ?_
  obtain ⟨pool, location⟩ := placed
  dsimp only
  split
  · exact (sameTables_of_uncreated target pool location).bind_pure _
  · exact (Action.reads_pure _).keeps.failsWithin

/-- A search that succeeds leaves a file that was there as it was, and makes one that was not. -/
theorem newFile_of_located (reachable : ∀ id, (s.site.namespace_ id).Reachable) (backed : s.Backed)
    (located : whereToWrite path s = .ok location t) :
    ∃ outer inner id session ctx, s.Wired outer inner id session ∧ session.security = some ctx ∧
      ((∃ entry, (s.site.namespace_ id).at? (session.names path) = some entry) ∧ s.SameTables t ∨
        (s.site.namespace_ id).at? (session.names path) = none ∧
        ∃ created, (s.site.namespace_ id).NewFile (t.site.namespace_ id) (session.names path) ctx.uid
            created ∧
          (s.putNamespace id (t.site.namespace_ id)).SameTables t) := by
  obtain ⟨target, _, u, there, pool, _, v, seen, -, prepared, asked, -, -, further, made, -⟩ :=
    whereToWrite_eq_ok located
  obtain ⟨-, found⟩ := entryExists_eq_ok asked
  have looked : (∃ entry, StackM.catalog (.entry target) u = .ok entry u) ∨
      ∃ e, StackM.catalog (.entry target) u = .error e u ∧ e.kind = .fileNotFound := by
    rcases found with ⟨-, entry, looked, -⟩ | ⟨-, missed⟩
    · exact .inl ⟨entry, looked⟩
    · exact .inr missed
  obtain ⟨outer, session, _, inner, id, wired, rfl⟩ := browses_of_entry looked
  have wired_s : s.Wired outer inner id session := prepared.catalog.symm.trans wired
  have wired_v : v.Wired outer inner id session := further.catalog.trans wired_s
  have same : u.site.namespace_ id = s.site.namespace_ id := prepared.toDrifts.sameTables.namespace_ id
  have views : u.BrowsesThrough outer session (s.site.namespace_ id) := ⟨inner, id, wired, same⟩
  rw [absolute_apply wired_s.browses] at seen
  cases seen
  rcases found with ⟨rfl, entry, looked, -⟩ | ⟨rfl, e, missed, kind⟩
  · obtain ⟨ctx, known, reaches⟩ := reaches_of_entry views looked
    rw [session.names_absolute] at reaches
    rcases made with ⟨-, rfl⟩ | ⟨there, -⟩
    · exact ⟨outer, inner, id, session, ctx, wired_s, known,
        .inl ⟨⟨entry, Namespace.at?_of_reaches reaches⟩, further.toDrifts.sameTables⟩⟩
    · cases there
  · have absent := at?_of_missed views missed kind
    rw [session.names_absolute] at absent
    rcases made with ⟨there, -⟩ | ⟨-, created⟩
    · cases there
    · obtain ⟨ctx, parent, name, entry, next, known, reaches, whole, made, rfl⟩ :=
        wired_v.create_eq_ok (create_of_createFor created)
      rw [session.names_absolute] at reaches whole
      rw [further.toDrifts.sameTables.namespace_ id] at reaches made
      have new := Namespace.newFile_of_create (reachable id).numbered (by decide)
        (Namespace.at?_of_reaches reaches) whole made
      obtain ⟨tables, factory⟩ := backed wired_s
      have stored : (v.putNamespace id next).site.namespace_ id = next := by
        have moved := further.toDrifts.putNamespace id next
        rw [moved.namespace_ id]
        exact congrArg MemoryTables.namespace_ (Manager.memory_setMemory_of_held factory)
      refine ⟨outer, inner, id, session, ctx, wired_s, known, .inr ⟨absent, entry, ?_, ?_⟩⟩
      · rw [stored]
        exact new
      · rw [stored]
        exact further.toDrifts.putNamespace id next

/-- Finding a location to write to is all or nothing for the tables, the times of entries aside. A search that
fails changes none. One that succeeds changes none if the file was there; otherwise it adds one new regular
file of the caller's at the path, and the file has no replicas exactly if no row bore its number before. -/
theorem tables_of_whereToWrite (reachable : ∀ id, (s.site.namespace_ id).Reachable)
    (backed : s.Backed) (path : String) :
    (∀ e t, whereToWrite path s = .error e t → s.SameTables t) ∧
      ∀ location t, whereToWrite path s = .ok location t →
        ∃ outer inner id session ctx, s.Wired outer inner id session ∧ session.security = some ctx ∧
          ((∃ entry, (s.site.namespace_ id).at? (session.names path) = some entry) ∧
              s.SameTables t ∨
            (s.site.namespace_ id).at? (session.names path) = none ∧
            (∃ created, (s.site.namespace_ id).NewFile (t.site.namespace_ id) (session.names path)
              ctx.uid created) ∧
            (s.putNamespace id (t.site.namespace_ id)).SameTables t ∧
            ((t.site.namespace_ id).rowsAt (session.names path) = [] ↔
              ∀ row ∈ (s.site.namespace_ id).replicas.values,
                row.file ≠ (s.site.namespace_ id).nextIno)) := by
  refine ⟨sameTables_of_unlocated path s, fun location t located => ?_⟩
  obtain ⟨outer, inner, id, session, ctx, wired, known, outcome⟩ :=
    newFile_of_located reachable backed located
  refine ⟨outer, inner, id, session, ctx, wired, known, ?_⟩
  rcases outcome with there | ⟨absent, created, new, same⟩
  · exact .inl there
  · exact .inr ⟨absent, ⟨created, new⟩, same, new.rowsAt_eq_nil_iff⟩

/-- A stack of root's over a namespace, and a pool for its files. -/
def lodged (ns : Namespace) : OnSite :=
  desk .root ns (Table.ofList [("disk", diskPool "disk" "srv/a" 1000)]) .initial

theorem backed_lodged (ns : Namespace) : (lodged ns).Backed := by
  intro outer inner id session wired
  cases wired
  exact ⟨_, rfl⟩

/-- A file is made for a location in a namespace that had the root alone, and has no replicas. -/
theorem new_file_without_rows :
    ∃ location t created, whereToWrite "/g" (lodged .initial) = .ok location t ∧
      Namespace.initial.NewFile (t.site.namespace_ 1) ["g"] 0 created ∧
      (t.site.namespace_ 1).rowsAt ["g"] = [] := by
  obtain ⟨location, t, located⟩ : ∃ location t, whereToWrite "/g" (lodged .initial) = .ok location t :=
    Action.exists_of_isOk (by decide +kernel)
  have reachable : ∀ id, ((lodged .initial).site.namespace_ id).Reachable :=
    reachable_desk _ _ _ .initial
  have names : CatalogSession.names { security := some .root } "/g" = ["g"] := by decide +kernel
  have absent : (Namespace.initial.at? ["g"]).isNone = true := by decide +kernel
  obtain ⟨-, succeeds⟩ := tables_of_whereToWrite reachable (backed_lodged .initial) "/g"
  obtain ⟨outer, inner, id, session, ctx, wired, known, outcome⟩ := succeeds location t located
  cases wired
  cases known
  rw [names] at outcome
  rcases outcome with ⟨⟨entry, there⟩, -⟩ | ⟨-, ⟨created, new⟩, -, rows⟩
  · have stands : Namespace.initial.at? ["g"] = some entry := there
    rw [Option.isNone_iff_eq_none.1 absent] at stands
    cases stands
  · exact ⟨location, t, created, located, new, rows.2 nofun⟩

/-- A file with a replica, whose row was given the number that the next file is to have. -/
def strays : Namespace :=
  Namespace.initial.run [
    .create { parent := 1, name := "f", stat := { mode := Mode.regular ||| 0o644 } },
    .addReplica { file := 2, pool := "disk", server := "localhost", rfn := "localhost:srv/a/f" },
    .updateReplica { id := 1, file := 3, pool := "disk", server := "localhost",
                     rfn := "localhost:srv/a/f" }]

/-- The file that is made for a location has a replica as soon as it is there, which is that row. -/
theorem new_file_with_row :
    (∀ id, ((lodged strays).site.namespace_ id).Reachable) ∧ strays.at? ["g"] = none ∧
      ∃ location t, whereToWrite "/g" (lodged strays) = .ok location t ∧
        (t.site.namespace_ 1).rowsAt ["g"] ≠ [] := by
  have absent : (strays.at? ["g"]).isNone = true := by decide +kernel
  have stray : (match whereToWrite "/g" (lodged strays) with
      | .ok _ t => !((t.site.namespace_ 1).rowsAt ["g"]).isEmpty
      | .error .. => false) = true := by
    decide +kernel
  refine ⟨reachable_desk _ _ _ (Namespace.Reachable.initial.run (by decide +kernel)),
    Option.isNone_iff_eq_none.1 absent, ?_⟩
  split at stray
  · rename_i location t located
    exact ⟨location, t, located, by simpa using stray⟩
  · cases stray

end Resolution
end Stowage
