import Stowage.Proofs.Operations

/-! What changing requests change. A catalog that is wired to a namespace in memory passes a request on to
it, and what the namespace becomes is stored among the tables of its factory; a pool is stored among
the pools of its factory, if there is one of its name. Where a request is refused, nothing changes. -/
namespace Stowage

namespace Manager

/-- Of the tables that are stored one after another the last ones stay. -/
theorem setMemory_setMemory (m : Manager) (id : FactoryId) (tables later : MemoryTables) :
    (m.setMemory id tables).setMemory id later = m.setMemory id later := by
  have stored : ∀ factories : List (FactoryId × Factory),
      putTables id later (putTables id tables factories) = putTables id later factories := by
    intro factories
    induction factories with
    | nil => rfl
    | cons pair rest ih =>
      obtain ⟨n, factory⟩ := pair
      by_cases here : n = id
      · cases factory <;> simp [putTables, here]
      · simp [putTables, here, ih]
  unfold setMemory
  rw [stored]

end Manager

namespace Site

variable {site : Site} {id n : FactoryId} {ns next : Namespace}

theorem namespace_putNamespace_of_ne_initial (other : site.namespace_ id ≠ .initial) :
    (site.putNamespace id ns).namespace_ id = ns := by
  rcases namespace_putNamespace id ns site with stored | ⟨empty, -⟩
  · exact stored
  · exact absurd empty other

end Site

namespace Namespace

variable {ns next : Namespace} {ctx : SecurityContext} {record : Replica} {entry : Entry}

/-- A file takes a replica under a physical name that it has no replica under. -/
theorem addReplica_eq_ok_iff (unnumbered : record.id = 0) :
    ns.addReplica record = .ok next ↔
      ∃ file, ns.entry record.file = .ok file ∧ file.stat.isDirectory = false ∧
        (∀ row ∈ ns.replicas.values, row.file = record.file → row.rfn ≠ record.rfn) ∧
        { ns with
          replicas := ns.replicas.insert ns.nextReplica { record with id := ns.nextReplica }
          nextReplica := max ns.nextReplica (ns.nextReplica + 1) } = next := by
  unfold addReplica
  simp only [Error.bind_eq_ok_iff, Error.guarded_eq_ok_iff, unnumbered]
  simp [pure, Except.pure]

/-- A way stays open, if entries and names are the same. -/
theorem Reaches.congr {path : List String} (entries : next.entries = ns.entries)
    (names : next.names = ns.names) (reaches : ns.Reaches ctx path entry) :
    next.Reaches ctx path entry := by
  refine reaches.mono fun {parent name below} found => ?_
  unfold child Namespace.entry at found ⊢
  rwa [entries, names]

/-- A namespace without files but the root has no file to reach. -/
theorem isDirectory_of_initial {path : List String}
    (reaches : Namespace.initial.Reaches ctx path entry) : entry.stat.isDirectory = true := by
  have stored := entriesKeyed_initial.stored (at?_of_reaches reaches)
  have listed := Table.mem_of_get? (entry_eq_ok_iff.1 stored)
  obtain ⟨-, rfl⟩ := Prod.mk.inj (List.mem_singleton.1 listed)
  decide

end Namespace

namespace BuiltIn

variable {ν : Type} {inode : Contract.inode.Handler ν} {look : ν → Namespace}

/-- A new size is set for whoever may write the file. -/
theorem setSize_of_writable (shows_ : Shows inode look) {path : String} {size : Nat}
    {b after : Browsing ν} {ctx : SecurityContext} {entry : Entry}
    (known : b.session.security = some ctx)
    (reaches : (look b.store).Reaches ctx (b.session.names path) entry)
    (file : entry.stat.isDirectory = false) (writable : entry.permits ctx Mode.write = true)
    (asked : ask (some inode) (.setSize entry.stat.ino size) b = .ok () after) :
    setSize (some inode) path size b = .ok () after := by
  have found := (lookup_eq_ok_iff shows_).2 ⟨⟨ctx, known, reaches⟩, rfl⟩
  refine (Action.bind_of_ok rfl).trans ((Action.bind_of_ok found).trans ?_)
  refine Action.guarded_eq_ok_iff.2 ⟨by simp [file], ?_⟩
  refine (Action.bind_of_ok (context_eq_ok_iff.2 ⟨known, rfl⟩)).trans ?_
  by_cases owner : ctx.uid = entry.stat.uid
  · simpa [owner] using asked
  · have required : require entry Mode.write (Path.absolute b.session.workingDir path) b = .ok () b :=
      require_eq_ok_iff.2 ⟨⟨ctx, known, writable⟩, rfl⟩
    simp only [ne_eq, owner, not_false_eq_true, if_true]
    exact (Action.bind_of_ok required).trans asked

end BuiltIn

namespace OnSite

/-- The site with another namespace among the tables of a memory factory. -/
def putNamespace (id : FactoryId) (ns : Namespace) (s : OnSite) : OnSite :=
  { s with site := s.site.putNamespace id ns }

/-- The site with other pools among the tables of a memory factory. -/
def putPools (id : FactoryId) (pools : PoolTable) (s : OnSite) : OnSite :=
  { s with site := s.site.putPools id pools }

/-- Behind these decorators, the catalog of the stack is the built-in one with this session over the
namespace of this memory factory. -/
def Wired (s : OnSite) (outer inner : List Decorator) (id : FactoryId) (session : CatalogSession) :
    Prop :=
  s.stack.catalog = some ⟨outer, .builtIn (some ⟨inner, .memory id⟩) session⟩

variable {s t : OnSite} {outer inner : List Decorator} {id : FactoryId} {session : CatalogSession}

theorem Wired.browses (wired : s.Wired outer inner id session) :
    s.BrowsesThrough outer session (s.site.namespace_ id) :=
  ⟨inner, id, wired, rfl⟩

theorem putNamespace_putNamespace (s : OnSite) (id : FactoryId) (ns next : Namespace) :
    (s.putNamespace id ns).putNamespace id next = s.putNamespace id next := by
  unfold putNamespace Site.putNamespace
  dsimp only
  rw [Manager.setMemory_setMemory]
  rcases s.site.manager.memory_setMemory id { s.site.manager.memory id with namespace_ := ns } with
    stored | ⟨none_, still⟩
  · rw [stored]
  · rw [still, none_]

theorem driverFor_putNamespace (s : OnSite) (id : FactoryId) (ns : Namespace) (type : String) :
    (s.putNamespace id ns).driverFor type = s.driverFor type := by
  unfold putNamespace driverFor StackM.makeDriver Site.putNamespace
  dsimp only
  rw [Manager.createDriver_setMemory]

theorem pool_putNamespace (s : OnSite) (id : FactoryId) (ns : Namespace) (name : String) :
    (s.putNamespace id ns).pool name = s.pool name := by
  unfold putNamespace OnSite.pool
  dsimp only
  simp only [Site.pools_putNamespace]

/-- What the built-in catalog leaves of the site, the stack leaves. -/
theorem Wired.browsed_eq (wired : s.Wired outer inner id session) (site : Site) :
    StackM.browsed s ⟨outer, .builtIn (some ⟨inner, .memory id⟩) session⟩ ⟨session, site⟩ =
      { s with site } := by
  unfold Wired at wired
  unfold StackM.browsed CatalogNode.withSession
  dsimp only
  rw [← wired]

/-- A request that the decorators pass on is answered by the built-in catalog. -/
theorem Wired.catalog_of_builtIn (wired : s.Wired outer inner id session) {r : CatalogRequest}
    (passed : r.passed = true) {answer : r.Answer} {site : Site}
    (run : BuiltIn.handler (some (Site.inodeHandler ⟨inner, .memory id⟩)) r ⟨session, s.site⟩ =
      .ok answer ⟨session, site⟩) : StackM.catalog r s = .ok answer { s with site } := by
  have node : Site.catalogNodeHandler (.builtIn (some ⟨inner, .memory id⟩) session) r
      ⟨session, s.site⟩ = .ok answer ⟨session, site⟩ := run
  rw [StackM.catalog_apply wired, Site.catalogHandler_passed passed]
  dsimp only [CatalogNode.session]
  rw [node, ← wired.browsed_eq site]

end OnSite

namespace BuiltIn

variable {inner : List Decorator} {id : FactoryId} {b after : Browsing Site}

/-- A request to the namespace in memory changes that namespace. -/
theorem ask_memory_eq_ok_iff {r : InodeRequest}
    (passed : ∀ h : Contract.inode.Handler Site, Contract.inode.forward h r = h r)
    {answer : r.Answer} :
    ask (some (Site.inodeHandler ⟨inner, .memory id⟩)) r b = .ok answer after ↔
      ∃ next, Namespace.handler r (b.store.namespace_ id) = .ok answer next ∧
        { b with store := b.store.putNamespace id next } = after := by
  rw [ask_eq_ok_iff, Site.inodeHandler_memory passed]
  unfold Action.zoom
  cases Namespace.handler r (b.store.namespace_ id) with
  | error e next => simp
  | ok other next =>
    constructor
    · rintro ⟨store, same, rfl⟩
      cases same
      exact ⟨next, rfl, rfl⟩
    · rintro ⟨next, same, rfl⟩
      cases same
      exact ⟨_, rfl, rfl⟩

end BuiltIn

namespace OnSite

variable {s t : OnSite} {outer inner : List Decorator} {id : FactoryId} {session : CatalogSession}

/-- The catalog takes a replica for whoever may write its file, if the namespace takes it. -/
theorem Wired.addReplica_eq_ok_iff (wired : s.Wired outer inner id session) {record : Replica} :
    StackM.catalog (.addReplica record) s = .ok () t ↔
      ∃ ctx file next, session.security = some ctx ∧
        (s.site.namespace_ id).entry record.file = .ok file ∧
        file.permits ctx Mode.write = true ∧
        (s.site.namespace_ id).addReplica record = .ok next ∧ s.putNamespace id next = t := by
  have shows_ := Site.shows_memory inner id
  constructor
  · intro done
    obtain ⟨chain, after, same, run, rfl⟩ := StackM.catalog_eq_ok done
    obtain rfl := Option.some.inj (same.symm.trans wired)
    rw [Site.catalogHandler_passed rfl] at run
    obtain ⟨_, _, required, asked⟩ := Action.bind_eq_ok_iff.1 run
    obtain ⟨⟨ctx, file, known, stored, writable⟩, rfl⟩ :=
      (BuiltIn.requireReplica_eq_ok_iff shows_).1 required
    obtain ⟨next, added, rfl⟩ := (BuiltIn.ask_memory_eq_ok_iff (fun _ => rfl)).1 asked
    exact ⟨ctx, file, next, known, stored, writable, Namespace.change_eq_ok_iff.1 added,
      (wired.browsed_eq _).symm⟩
  · rintro ⟨ctx, file, next, known, stored, writable, added, rfl⟩
    apply wired.catalog_of_builtIn rfl
    refine Action.bind_eq_ok_iff.2 ⟨(), _, (BuiltIn.requireReplica_eq_ok_iff shows_).2
      ⟨⟨ctx, file, known, stored, writable⟩, rfl⟩, ?_⟩
    exact (BuiltIn.ask_memory_eq_ok_iff (fun _ => rfl)).2
      ⟨next, Namespace.change_eq_ok_iff.2 added, rfl⟩

/-- The catalog takes the entry at a path from the namespace. -/
theorem Wired.unlink_eq_ok (wired : s.Wired outer inner id session) {path : String}
    (done : StackM.catalog (.unlink path) s = .ok () t) :
    ∃ entry next, (s.site.namespace_ id).at? (session.names path) = some entry ∧
      (s.site.namespace_ id).unlink entry.stat.ino = .ok next ∧ t = s.putNamespace id next := by
  obtain ⟨chain, after, same, run, rfl⟩ := StackM.catalog_eq_ok done
  obtain rfl := Option.some.inj (same.symm.trans wired)
  rw [Site.catalogHandler_passed rfl] at run
  obtain ⟨entry, there, asked⟩ := BuiltIn.unlink_eq_ok (Site.shows_memory inner id) run
  obtain ⟨next, made, rfl⟩ := (BuiltIn.ask_memory_eq_ok_iff (fun _ => rfl)).1 asked
  exact ⟨entry, next, there, Namespace.change_eq_ok_iff.1 made, wired.browsed_eq _⟩

/-- The catalog sets the size of a file for whoever may write it. -/
theorem Wired.setSize_of_writable (wired : s.Wired outer inner id session) {name : String}
    {size : Nat} {ctx : SecurityContext} {entry : Entry} {next : Namespace}
    (known : session.security = some ctx)
    (reaches : (s.site.namespace_ id).Reaches ctx (session.names name) entry)
    (file : entry.stat.isDirectory = false) (writable : entry.permits ctx Mode.write = true)
    (sized : (s.site.namespace_ id).setSize entry.stat.ino size = .ok next) :
    StackM.catalog (.setSize name size) s = .ok () (s.putNamespace id next) := by
  apply wired.catalog_of_builtIn rfl
  have shows_ := Site.shows_memory inner id
  refine BuiltIn.setSize_of_writable shows_ known reaches file writable ?_
  exact (BuiltIn.ask_memory_eq_ok_iff (fun _ => rfl)).2
    ⟨next, Namespace.change_eq_ok_iff.2 sized, rfl⟩

end OnSite

namespace StackM

/-- A table of pools that does not take a pool has not changed. -/
theorem failsClean_update (pool : Pool) : Action.FailsClean (pools (.update pool)) := by
  apply (Action.reads_query _).bind_failsClean
  intro chain
  rw [poolsHandler_eq]
  have table : Action.FailsClean (Site.poolsHandler ⟨[], chain.base⟩ (.update pool)) := by
    cases chain.base with
    | plain node => exact (Action.reads_throw _).failsClean
    | memory id =>
      have change : Action.FailsClean (PoolTable.handler (.update pool)) :=
        Action.failsClean_update _
      exact change.zoom (Site.putPools_same id)
  exact table.zoom fun _ => rfl

end StackM

/-- What the driver makes of a pool after a write; it looks at no files for that. -/
def DriverNode.counted (node : DriverNode) (pool : Pool) (record : Replica) (size : Nat) :
    Except Error Pool :=
  match node with
  | .disk _ => DiskDriver.writeDone pool record size
  | .plain driver =>
    (driver.answer (.writeDone pool record size)).getD
      (.error (Contract.driver.unanswered (.writeDone pool record size)))

namespace StackM

theorem askDriver_writeDone (node : DriverNode) (pool : Pool) (record : Replica) (size : Nat)
    (s : OnSite) : askDriver node (.writeDone pool record size) s =
      Action.ofExcept (node.counted pool record size) s := by
  have answer : node.handler (.writeDone pool record size) s.site.host =
      Action.ofExcept (node.counted pool record size) s.site.host := by
    unfold DriverNode.counted DriverNode.handler
    cases node with
    | disk driver => rfl
    | plain driver =>
      dsimp only
      cases driver.answer (.writeDone pool record size) <;> rfl
  rw [askDriver_apply, answer]
  cases node.counted pool record size <;> rfl

/-- A pool is stored if there is one of its name. -/
theorem update_eq_ok_iff {pool : Pool} {s t : OnSite} :
    pools (.update pool) s = .ok () t ↔ ∃ decorators id,
      s.stack.pools = some ⟨decorators, .memory id⟩ ∧
        (s.site.manager.memory id).pools.contains pool.name = true ∧
        s.putPools id ((s.site.manager.memory id).pools.insert pool.name pool) = t := by
  cases wired : s.stack.pools with
  | none =>
    have missing : pools (.update pool) s = .error (.noFactory .pools) s :=
      Action.bind_of_error (need_of_none wired)
    simp [missing]
  | some chain =>
    obtain ⟨decorators, base⟩ := chain
    have runs : pools (.update pool) s = onSite (Site.poolsHandler ⟨[], base⟩ (.update pool)) s := by
      rw [← poolsHandler_eq ⟨decorators, base⟩]
      exact Action.bind_of_ok (need_of_some wired)
    rw [runs]
    cases base with
    | plain node =>
      have bare : onSite (Site.poolsHandler ⟨[], .plain node⟩ (.update pool)) s =
          .error (Contract.pools.unanswered (.update pool)) s := rfl
      simp [bare]
    | memory id =>
      have zoomed : Site.poolsHandler ⟨[], .memory id⟩ (.update pool) =
          Action.zoom (fun site => (site.manager.memory id).pools) (Site.putPools id)
            (PoolTable.handler (.update pool)) := rfl
      have updates : PoolTable.handler (.update pool) =
          Action.update fun table => do return ((), ← PoolTable.update table pool) := rfl
      rw [zoomed, updates]
      unfold onSite Action.zoom Action.update PoolTable.update
      by_cases there : (s.site.manager.memory id).pools.contains pool.name = true
      · simp only [there, if_true]
        constructor
        · intro done
          cases done
          exact ⟨decorators, id, rfl, there, rfl⟩
        · rintro ⟨_, _, same, -, rfl⟩
          cases same
          rfl
      · simp only [there]
        constructor
        · exact nofun
        · rintro ⟨_, _, same, stored, -⟩
          cases same
          exact absurd stored there

theorem update_succeeds_iff (pool : Pool) {s : OnSite} :
    (∃ t, pools (.update pool) s = .ok () t) ↔ ∃ known, s.pool pool.name = .ok known := by
  constructor
  · rintro ⟨t, done⟩
    obtain ⟨decorators, id, wired, there, -⟩ := update_eq_ok_iff.1 done
    obtain ⟨known, found⟩ := Option.isSome_iff_exists.1 there
    refine ⟨known, ?_⟩
    unfold OnSite.pool PoolTable.pool
    simp only [wired, found]
  · rintro ⟨known, found⟩
    unfold OnSite.pool PoolTable.pool at found
    split at found
    · cases found
    · rename_i chain wired
      obtain ⟨decorators, base⟩ := chain
      cases base with
      | plain node => cases found
      | memory id =>
        dsimp only at found
        split at found
        · rename_i there
          exact ⟨_, update_eq_ok_iff.2 ⟨decorators, id, wired, by simp [Table.contains, there], rfl⟩⟩
        · cases found

end StackM

end Stowage
