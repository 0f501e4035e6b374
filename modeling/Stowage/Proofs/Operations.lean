import Stowage.Proofs.Cancellation

/-! What the operations of the resolution keep. Each of them is a sequence of requests to the catalog, to
pools and to drivers, and what every request keeps the operation keeps, however it ends. The chains of
the stack are kept by all of them, and so are the tables by those that make no change to a table. -/
namespace Stowage

namespace Action

variable {σ α β : Type} {R : σ → σ → Prop}

theorem Keeps.failsWithin {act : Action σ α} (keeps : Keeps R act) : FailsWithin R act :=
  fun _ _ _ failed => keeps.of_error failed

variable [Frame R]

theorem FailsClean.failsWithin {act : Action σ α} (clean : FailsClean act) : FailsWithin R act := by
  intro s e t failed
  rw [clean s e t failed]
  exact Frame.refl s

/-- A sequence fails within what its first part keeps, and its second part fails within. -/
theorem Keeps.bind_failsWithin {act : Action σ α} {next : α → Action σ β} (first : Keeps R act)
    (second : ∀ a, FailsWithin R (next a)) : FailsWithin R (act >>= next) := by
  intro s e t failed
  rcases bind_eq_error_iff.1 failed with early | ⟨a, u, done, late⟩
  · exact first.of_error early
  · exact Frame.trans (first.of_ok done) (second a u e t late)

theorem FailsWithin.guarded {p : Prop} [Decidable p] {e : Error} {after : β → Action σ α}
    {next : Action σ α} (fails : FailsWithin R next) :
    FailsWithin R (if p then (throw e >>= after) else next) := by
  by_cases refused : p
  · rw [if_pos refused]
    have reads : Reads (throw e >>= after) := fun s => ⟨.error e, rfl⟩
    exact reads.keeps.failsWithin
  · rw [if_neg refused]
    exact fails

end Action

namespace BuiltIn

section Requests

variable {ν : Type} {below : Below ν} {R : Browsing ν → Browsing ν → Prop} [Action.Frame R]

/-! The changing requests of the built-in catalog look first, and then make one request to the
namespace. -/

theorem keeps_createEntry (reads : BelowReads below) (path : String) (type mode : Mode)
    (asks : ∀ template, Action.Keeps R (ask below (.create template))) :
    Action.Keeps R (createEntry below path type mode) := by
  refine (Action.reads_query _).keeps.bind fun path => reads_context.keeps.bind fun ctx =>
    (reads_parentOf reads path).keeps.bind fun held => ?_
  obtain ⟨parent, name⟩ := held
  refine (reads_require _ _ _).keeps.bind fun _ =>
    (reads_ask reads rfl).attempt.keeps.bind fun found => ?_
  have makes : Action.Keeps R (do
      let umask ← Action.query fun b => .ok b.session.umask
      let _ ← ask below (.create (template ctx umask parent name type mode))) :=
    (Action.reads_query _).keeps.bind fun umask =>
      (asks _).bind fun _ => (Action.reads_pure _).keeps
  cases found with
  | ok entry => exact (Action.reads_throw _).keeps.bind fun _ => makes
  | error e => exact makes.guarded

theorem keeps_unlink (reads : BelowReads below) (path : String)
    (asks : ∀ ino, Action.Keeps R (ask below (.unlink ino))) :
    Action.Keeps R (unlink below path) := by
  refine (Action.reads_query _).keeps.bind fun path =>
    (reads_removable reads path).keeps.bind fun entry => ?_
  exact (asks entry.stat.ino).guarded

theorem keeps_setSize (reads : BelowReads below) (path : String) (size : Nat)
    (asks : ∀ ino, Action.Keeps R (ask below (.setSize ino size))) :
    Action.Keeps R (setSize below path size) := by
  refine (Action.reads_query _).keeps.bind fun path =>
    (reads_lookup reads path).keeps.bind fun entry => Action.Keeps.guarded ?_
  refine reads_context.keeps.bind fun ctx => ?_
  have sizes := asks entry.stat.ino
  split
  · exact (reads_require _ _ _).keeps.bind fun _ => sizes
  · exact sizes

theorem keeps_addReplica (reads : BelowReads below) (record : Replica)
    (asks : Action.Keeps R (ask below (.addReplica record))) :
    Action.Keeps R (handler below (.addReplica record)) :=
  (reads_requireReplica reads record).keeps.bind fun _ => asks

theorem keeps_setOwner (reads : BelowReads below) (path : String) (uid gid : UInt32)
    (asks : ∀ r, Action.Keeps R (ask below r)) : Action.Keeps R (setOwner below path uid gid) := by
  refine (Action.reads_query _).keeps.bind fun path =>
    (reads_lookup reads path).keeps.bind fun entry => reads_context.keeps.bind fun ctx => ?_
  split
  · exact .guarded (.guarded (.guarded (asks _)))
  · exact asks _

/-- Every request of the built-in catalog keeps what requests to the namespace keep, other working directories
and other creation masks. -/
theorem keeps_handler (reads : BelowReads below) (asks : ∀ r, Action.Keeps R (ask below r))
    (moves : ∀ path, Action.Keeps R (modify fun b =>
      { b with session := { b.session with workingDir := path } }))
    (masks : ∀ mask, Action.Keeps R (setUmask mask)) (r : CatalogRequest) :
    Action.Keeps R (handler below r) := by
  cases r with
  | workingDir | entry | stat | access | replicas | readDir => exact (reads_handler reads _ rfl).keeps
  | changeDir path =>
    refine (Action.reads_query _).keeps.bind fun path =>
      (reads_lookup reads path).keeps.bind fun entry => .guarded ?_
    exact (reads_require _ _ _).keeps.bind fun _ => moves path
  | umask mask => exact masks mask
  | setMode path mode =>
    refine (Action.reads_query _).keeps.bind fun path =>
      (reads_lookup reads path).keeps.bind fun entry => ?_
    exact (reads_requireOwner _ _).keeps.bind fun _ => reads_context.keeps.bind fun ctx => asks _
  | setOwner path uid gid => exact keeps_setOwner reads path uid gid asks
  | setSize path size => exact keeps_setSize reads path size fun _ => asks _
  | setAcl path acl =>
    refine (Action.reads_query _).keeps.bind fun path =>
      (reads_lookup reads path).keeps.bind fun entry => ?_
    have validates : Action.Reads (Action.ofExcept acl.validate : Action (Browsing ν) Unit) :=
      fun _ => ⟨_, rfl⟩
    exact (reads_requireOwner _ _).keeps.bind fun _ => validates.keeps.bind fun _ => .guarded (asks _)
  | addReplica record | deleteReplica record | updateReplica record =>
    exact (reads_requireReplica reads record).keeps.bind fun _ => asks _
  | create path mode | makeDir path mode => exact keeps_createEntry reads path _ mode fun _ => asks _
  | unlink path => exact keeps_unlink reads path fun _ => asks _
  | removeDir path =>
    refine (Action.reads_query _).keeps.bind fun path => .guarded ?_
    exact (reads_removable reads path).keeps.bind fun entry => .guarded (asks _)

end Requests

variable {ν : Type}

/-- The session is as it was. -/
def SameSession (b c : Browsing ν) : Prop :=
  c.session = b.session

instance : Action.Frame (SameSession (ν := ν)) where
  refl _ := rfl
  trans first second := Eq.trans second first

/-- A request to the namespace is nothing to the session. -/
theorem sameSession_ask (below : Below ν) (r : InodeRequest) :
    Action.Keeps SameSession (ask below r) := by
  intro b
  cases below with
  | none => exact Action.Frame.refl b
  | some inode =>
    have after : ((ask (some inode) r).outcome b).2 =
        { b with store := ((inode r).outcome b.store).2 } :=
      congrArg Prod.snd (Action.outcome_zoom _ _ (inode r) b)
    rw [after]
    rfl

end BuiltIn

namespace OnSite

/-- The stack has the chains that it had, with the sessions that they had. -/
structure SameChains (s t : OnSite) : Prop where
  catalog : t.stack.catalog = s.stack.catalog
  pools : t.stack.pools = s.stack.pools

instance : Action.Frame SameChains where
  refl _ := ⟨rfl, rfl⟩
  trans first second :=
    ⟨second.catalog.trans first.catalog, second.pools.trans first.pools⟩

/-- The tables of all memory factories are as they were. -/
def SameTables (s t : OnSite) : Prop :=
  ∀ id, t.site.manager.memory id = s.site.manager.memory id

instance : Action.Frame SameTables where
  refl _ _ := rfl
  trans first second id := (second id).trans (first id)

theorem SameTables.namespace_ {s t : OnSite} (same : SameTables s t) (id : FactoryId) :
    t.site.namespace_ id = s.site.namespace_ id :=
  congrArg MemoryTables.namespace_ (same id)

theorem Drifts.sameChains {s t : OnSite} (drifts : Drifts s t) : SameChains s t := by
  obtain ⟨⟨drivers, board, stack⟩, -⟩ := drifts
  constructor <;> rw [stack]

theorem Drifts.sameTables {s t : OnSite} (drifts : Drifts s t) : SameTables s t :=
  drifts.memory

theorem SameView.sameTables {s t : OnSite} (same : SameView s t) : SameTables s t := by
  intro id
  rw [same.manager]

end OnSite

namespace StackM

open OnSite

theorem sameChains_driver (type : String) : Action.Keeps SameChains (driver type) :=
  fun s => (keeps_driver type s).sameChains

theorem sameChains_askDriver (node : DriverNode) (r : DriverRequest) :
    Action.Keeps SameChains (askDriver node r) := by
  intro s
  rw [state_askDriver]
  exact ⟨rfl, rfl⟩

/-- What is done on the site is nothing to the stack. -/
theorem sameChains_onSite {α : Type} (act : Action Site α) :
    Action.Keeps SameChains (onSite act) := by
  intro s
  have after : ((onSite act).outcome s).2 = { s with site := (act.outcome s.site).2 } :=
    congrArg Prod.snd (Action.outcome_zoom _ _ act s)
  rw [after]
  exact ⟨rfl, rfl⟩

theorem sameChains_pools (r : PoolsRequest) : Action.Keeps SameChains (pools r) :=
  (Action.reads_query _).keeps.bind fun _ => sameChains_onSite _

theorem sameChains_io (r : IoRequest) : Action.Keeps SameChains (io r) :=
  (Action.reads_query _).keeps.bind fun _ => sameChains_onSite _

/-- What a catalog leaves, its chain leaves. -/
theorem state_catalog {s : OnSite} {chain : Chain CatalogNode}
    (wired : s.stack.catalog = some chain) (r : CatalogRequest) :
    ((catalog r).outcome s).2 = browsed s chain
      ((Site.catalogHandler s.stack.excluded chain r).outcome ⟨chain.base.session, s.site⟩).2 :=
  congrArg Prod.snd (outcome_catalog wired r)

/-- A frame that keeps what a chain of catalogs leaves keeps what the catalog leaves. -/
theorem keeps_catalog_of_wired {R : OnSite → OnSite → Prop} [Action.Frame R] {r : CatalogRequest}
    (kept : ∀ {s : OnSite} {chain : Chain CatalogNode}, s.stack.catalog = some chain →
      R s (browsed s chain
        ((Site.catalogHandler s.stack.excluded chain r).outcome ⟨chain.base.session, s.site⟩).2)) :
    Action.Keeps R (catalog r) := by
  intro s
  cases wired : s.stack.catalog with
  | none =>
    rw [Action.outcome_of_error (catalog_of_unwired wired r)]
    exact Action.Frame.refl s
  | some chain =>
    rw [state_catalog wired]
    exact kept wired

/-- A catalog keeps its session in a request that the built-in one keeps it in. -/
theorem sameChains_catalog {r : CatalogRequest} (passed : r.passed = true)
    (sessions : ∀ below, Action.Keeps BuiltIn.SameSession
      (BuiltIn.handler (Option.map Site.inodeHandler below) r)) :
    Action.Keeps SameChains (catalog r) := by
  apply keeps_catalog_of_wired
  rintro s ⟨outer, node⟩ wired
  have kept : ((Site.catalogHandler s.stack.excluded ⟨outer, node⟩ r).outcome
      ⟨node.session, s.site⟩).2.session = node.session := by
    rw [Site.catalogHandler_passed passed]
    cases node with
    | plain node => rfl
    | builtIn below session => exact sessions below ⟨session, s.site⟩
  unfold browsed
  rw [kept, CatalogNode.withSession_session, ← wired]
  exact ⟨rfl, rfl⟩

theorem sameChains_create (path : String) (mode : Mode) :
    Action.Keeps SameChains (catalog (.create path mode)) :=
  sameChains_catalog rfl fun below =>
    BuiltIn.keeps_createEntry (Site.belowReads below) path _ _ fun _ => BuiltIn.sameSession_ask _ _

theorem sameChains_unlink (path : String) : Action.Keeps SameChains (catalog (.unlink path)) :=
  sameChains_catalog rfl fun below =>
    BuiltIn.keeps_unlink (Site.belowReads below) path fun _ => BuiltIn.sameSession_ask _ _

theorem sameChains_setSize (path : String) (size : Nat) :
    Action.Keeps SameChains (catalog (.setSize path size)) :=
  sameChains_catalog rfl fun below =>
    BuiltIn.keeps_setSize (Site.belowReads below) path size fun _ => BuiltIn.sameSession_ask _ _

theorem sameChains_addReplica (record : Replica) :
    Action.Keeps SameChains (catalog (.addReplica record)) :=
  sameChains_catalog rfl fun below =>
    BuiltIn.keeps_addReplica (Site.belowReads below) record (BuiltIn.sameSession_ask _ _)

theorem sameTables_driver (type : String) : Action.Keeps SameTables (driver type) :=
  fun s => (keeps_driver type s).sameTables

theorem sameTables_askDriver (node : DriverNode) (r : DriverRequest) :
    Action.Keeps SameTables (askDriver node r) :=
  fun s => (sameView_askDriver node r s).sameTables

end StackM

namespace Resolution

open OnSite StackM

theorem sameChains_select (free : List Nat) : Action.Keeps SameChains (select free) :=
  fun s => (keeps_select free s).sameChains

theorem sameTables_select (free : List Nat) : Action.Keeps SameTables (select free) :=
  fun s => (keeps_select free s).sameTables

theorem reads_entryExists (path : String) : Action.Reads (entryExists path) := by
  have found : Action.Reads (orNone .fileNotFound (catalog (.entry path))) := by
    have reads : Action.Reads (catalog (.entry path)) := reads_catalog rfl
    apply reads.attempt.bind
    intro result
    cases result with
    | ok entry => exact Action.reads_pure _
    | error e =>
      dsimp only
      split
      · exact Action.reads_pure _
      · exact Action.reads_throw _
  apply found.bind
  intro entry
  cases entry with
  | none => exact Action.reads_pure _
  | some entry =>
    dsimp only
    split
    · exact Action.reads_throw _
    · exact Action.reads_pure _

section Keeping

variable {R : OnSite → OnSite → Prop} [Action.Frame R]

theorem keeps_release (drivers : ∀ type, Action.Keeps R (driver type))
    (asks : ∀ node r, Action.Keeps R (askDriver node r)) (pool : Pool) (location : Location) :
    Action.Keeps R (do
      let driver ← driver pool.type
      askDriver driver (.cancelWrite pool location)) :=
  (drivers pool.type).bind fun node => asks node _

theorem keeps_createFor (drivers : ∀ type, Action.Keeps R (driver type))
    (asks : ∀ node r, Action.Keeps R (askDriver node r)) {path : String}
    (creates : Action.Keeps R (catalog (.create path newFileMode))) (pool : Pool)
    (location : Location) : Action.Keeps R (createFor path pool location) := by
  refine creates.attempt.bind fun result => ?_
  cases result with
  | ok _ => exact (Action.reads_pure _).keeps
  | error e =>
    exact (keeps_release drivers asks pool location).attempt.bind fun _ =>
      (Action.reads_throw _).keeps

theorem keeps_whereToWrite (drivers : ∀ type, Action.Keeps R (driver type))
    (turns : ∀ free, Action.Keeps R (select free))
    (asks : ∀ node r, Action.Keeps R (askDriver node r))
    (creates : ∀ path, Action.Keeps R (catalog (.create path newFileMode))) (path : String) :
    Action.Keeps R (whereToWrite path) := by
  refine (reads_absolute path).keeps.bind fun target =>
    (reads_pools_list .any).keeps.bind fun pools => Action.Keeps.guarded ?_
  refine (keeps_writeCandidates drivers pools).bind fun candidates =>
    (reads_entryExists target).keeps.bind fun there => ?_
  refine (keeps_placeWrite drivers turns _ _ _ _).bind fun placed => ?_
  obtain ⟨pool, location⟩ := placed
  dsimp only
  split
  · exact (keeps_createFor drivers asks (creates target) pool location).bind fun _ =>
      (Action.reads_pure _).keeps
  · exact (Action.reads_pure _).keeps

theorem keeps_doneWriting {location : Location} {size : Nat}
    (drivers : ∀ type, Action.Keeps R (driver type))
    (adds : ∀ chunk pool entry, location.first = .ok chunk →
      Action.Keeps R (catalog (.addReplica (writtenReplica chunk pool entry))))
    (sizes : ∀ name, Action.Keeps R (catalog (.setSize name size)))
    (updates : ∀ pool, Action.Keeps R (pools (.update pool))) :
    Action.Keeps R (doneWriting location size) := by
  refine Action.Keeps.bind_result fun chunk first => Action.Keeps.bind_result fun poolName _ =>
    Action.Keeps.bind_result fun name _ => Action.Keeps.guarded ?_
  refine (reads_pools_get poolName).keeps.bind fun pool => ?_
  have looks : Action.Reads (catalog (.entry name)) := reads_catalog rfl
  refine looks.keeps.bind fun entry => (adds chunk pool entry first).bind fun _ =>
    (sizes name).bind fun _ => (drivers pool.type).bind fun node => ?_
  have counts : Action.Reads (askDriver node (.writeDone pool (writtenReplica chunk pool entry) size)) :=
    reads_askDriver node rfl
  exact counts.keeps.bind fun updated => updates updated

theorem keeps_dropEntry {name : String} (unlinks : Action.Keeps R (catalog (.unlink name))) :
    Action.Keeps R (dropEntry name) := by
  unfold dropEntry
  split
  · have looks : Action.Reads (catalog (.replicas name)) := reads_catalog rfl
    refine looks.keeps.bind fun rows => ?_
    split
    · exact unlinks
    · exact (Action.reads_pure _).keeps
  · exact (Action.reads_pure _).keeps

theorem keeps_cancelWrite (drivers : ∀ type, Action.Keeps R (driver type))
    (asks : ∀ node r, Action.Keeps R (askDriver node r))
    (unlinks : ∀ name, Action.Keeps R (catalog (.unlink name))) (location : Location) :
    Action.Keeps R (cancelWrite location) := by
  refine Action.Keeps.bind_result fun chunk _ => Action.Keeps.bind_result fun poolName _ =>
    Action.Keeps.bind_result fun name _ => ?_
  refine (reads_pools_get poolName).keeps.bind fun pool => (drivers pool.type).bind fun node => ?_
  exact (asks node _).bind fun _ => keeps_dropEntry (unlinks name)

theorem keeps_removeReplica (drivers : ∀ type, Action.Keeps R (driver type))
    (asks : ∀ node r, Action.Keeps R (askDriver node r))
    (deletes : ∀ row, Action.Keeps R (catalog (.deleteReplica row))) (path : String) (row : Replica) :
    Action.Keeps R (removeReplica path row) :=
  (reads_absolute path).keeps.bind fun _ => (reads_pools_get row.pool).keeps.bind fun pool =>
    (drivers pool.type).bind fun node => (asks node _).bind fun _ => deletes row

end Keeping

end Resolution
end Stowage
