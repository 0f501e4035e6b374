import Stowage.Proofs.Ties
import Stowage.Proofs.Views
import Stowage.Resolution.Read
import Stowage.Resolution.Write

/-! What finding a location may change. Drivers are made when they are first asked for, and the policy
takes turns; everything else of stack and site stays. Where all drivers are for disk pools, those
that are made on the way are the ones that would have been made before. -/
namespace Stowage

/-- The request only looks at pools and files. -/
def DriverRequest.looks : DriverRequest → Bool
  | .isAvailable .. | .freeSpace _ | .totalSpace _ | .readLocation .. | .writeLocation ..
  | .writeDone .. => true
  | .cancelWrite .. | .remove .. => false

namespace Site

/-- The site with other pools among the tables of a memory factory. -/
def putPools (id : FactoryId) (pools : PoolTable) (site : Site) : Site :=
  { site with manager := site.manager.setMemory id { site.manager.memory id with pools } }

theorem putPools_same (id : FactoryId) (site : Site) :
    site.putPools id (site.manager.memory id).pools = site := by
  unfold putPools
  rw [Manager.setMemory_memory]

end Site

namespace OnSite

/-- The driver that the stack uses for a pool type: the one made before, or else a new one. -/
def driverFor (s : OnSite) (type : String) : Except Error DriverNode :=
  match s.stack.drivers.find? fun (t, _) => t = type with
  | some (_, driver) => .ok driver
  | none => do return (← StackM.makeDriver s.site.manager s.stack type).1

/-- The pool of that name, as the stack sees it. -/
def pool (s : OnSite) (name : String) : Except Error Pool :=
  match s.stack.pools with
  | none => .error (.noFactory .pools)
  | some chain =>
    match chain.base with
    | .memory id => (s.site.manager.memory id).pools.pool name
    | .plain _ => .error (Contract.pools.unanswered (.get name))

/-- What finding a location may change: drivers are made, and the policy takes turns. -/
structure Drifts (s t : OnSite) : Prop where
  stack : ∃ drivers board, t.stack = { s.stack with drivers, board }
  site : ∃ turn, t.site = { s.site with manager :=
    { s.site.manager with placement := { s.site.manager.placement with turn } } }

/-- The drivers of the stack, and those that it can make, are for disk pools. -/
structure DiskOnly (s : OnSite) : Prop where
  made : ∀ pair ∈ s.stack.drivers, pair.1 = DiskDriver.poolType ∧ ∃ disk, pair.2 = .disk disk
  makes : ∀ pair ∈ s.site.manager.registered .driver, ∃ options, pair.2 = .disk options

/-- Finding a location may drift, but to the same drivers for disk pools. -/
structure Prepares (s t : OnSite) : Prop extends Drifts s t where
  disks : s.DiskOnly → t.DiskOnly ∧ ∀ type, t.driverFor type = s.driverFor type

namespace Drifts

variable {s t u : OnSite}

theorem refl (s : OnSite) : Drifts s s :=
  ⟨⟨_, _, rfl⟩, ⟨_, rfl⟩⟩

theorem trans (first : Drifts s t) (second : Drifts t u) : Drifts s u := by
  obtain ⟨⟨drivers, board, stack⟩, ⟨turn, site⟩⟩ := first
  obtain ⟨⟨later, notes, stacked⟩, ⟨turned, sited⟩⟩ := second
  refine ⟨⟨later, notes, ?_⟩, ⟨turned, ?_⟩⟩
  · rw [stacked, stack]
  · rw [sited, site]

theorem catalog (drifts : Drifts s t) : t.stack.catalog = s.stack.catalog := by
  obtain ⟨⟨drivers, board, stack⟩, -⟩ := drifts
  rw [stack]

theorem excluded (drifts : Drifts s t) : t.stack.excluded = s.stack.excluded := by
  obtain ⟨⟨drivers, board, stack⟩, -⟩ := drifts
  rw [stack]

theorem host (drifts : Drifts s t) : t.site.host = s.site.host := by
  obtain ⟨-, ⟨turn, site⟩⟩ := drifts
  rw [site]

theorem policy (drifts : Drifts s t) :
    t.site.manager.placement.policy = s.site.manager.placement.policy := by
  obtain ⟨-, ⟨turn, site⟩⟩ := drifts
  rw [site]

theorem memory (drifts : Drifts s t) (id : FactoryId) :
    t.site.manager.memory id = s.site.manager.memory id := by
  obtain ⟨-, ⟨turn, site⟩⟩ := drifts
  rw [site]
  rfl

theorem pool (drifts : Drifts s t) (name : String) : t.pool name = s.pool name := by
  have same : ∀ id, t.site.manager.memory id = s.site.manager.memory id := drifts.memory
  obtain ⟨⟨drivers, board, stack⟩, -⟩ := drifts
  unfold OnSite.pool
  rw [stack]
  simp only [same]

theorem browsesThrough (drifts : Drifts s t) {outer : List Decorator} {session : CatalogSession}
    {ns : Namespace} :
    t.BrowsesThrough outer session ns ↔ s.BrowsesThrough outer session ns := by
  unfold BrowsesThrough Site.namespace_
  rw [drifts.catalog]
  simp only [drifts.memory]

end Drifts

theorem Prepares.refl (s : OnSite) : Prepares s s :=
  ⟨Drifts.refl s, fun disks => ⟨disks, fun _ => rfl⟩⟩

theorem Prepares.trans {s t u : OnSite} (first : Prepares s t) (second : Prepares t u) :
    Prepares s u := by
  refine ⟨first.toDrifts.trans second.toDrifts, fun disks => ?_⟩
  obtain ⟨between, before⟩ := first.disks disks
  obtain ⟨after, later⟩ := second.disks between
  exact ⟨after, fun type => (later type).trans (before type)⟩

instance : Action.Frame Prepares where
  refl := Prepares.refl
  trans := Prepares.trans

/-- The site is as it was. -/
def SameSite (s t : OnSite) : Prop :=
  t.site = s.site

instance : Action.Frame SameSite where
  refl _ := rfl
  trans first second := Eq.trans second first

/-- A disk pool of one filesystem. -/
def diskPool (name path : String) (free : UInt64) : Pool :=
  ({ name, type := DiskDriver.poolType } : Pool).withFilesystems
    [{ server := "localhost", path, free, total := free }]

/-- A stack under an identity, on a site with tables in memory and disk pools. -/
def desk (ctx : SecurityContext) (ns : Namespace) (pools : PoolTable) (files : FileTree) : OnSite where
  stack := {
    accounts := some (.single (.memory 1))
    inode := some (.single (.memory 1))
    catalog := some (.single (.builtIn (some (.single (.memory 1))) { security := some ctx }))
    pools := some (.single (.memory 1))
    io := none
    security := some ctx }
  site := {
    manager := { Manager.initial with
      factories := [(0, .builtInCatalog), (1, .memory { namespace_ := ns, pools }),
        (2, .disk { secret := some "secret" })]
      registrations := [(.catalog, 0), (.accounts, 1), (.inode, 1), (.pools, 1), (.driver, 2)]
      nextFactory := 3 }
    host := { files } }

section Desk

variable (ctx : SecurityContext) (ns : Namespace) (pools : PoolTable) (files : FileTree)

/-- The stack is the one that the manager makes, after it was told the identity. -/
theorem desk_stack :
    (Stack.create (desk ctx ns pools files).site.manager).map
        (fun stack => ((Stack.setSecurity ctx).outcome stack).2) =
      .ok (desk ctx ns pools files).stack := rfl

theorem browses_desk : (desk ctx ns pools files).BrowsesThrough [] { security := some ctx } ns :=
  ⟨[], 1, rfl, rfl⟩

theorem diskOnly_desk : (desk ctx ns pools files).DiskOnly where
  made := nofun
  makes := by
    intro pair member
    have registered : (desk ctx ns pools files).site.manager.registered .driver =
        [(2, .disk { secret := some "secret" })] := rfl
    rw [registered, List.mem_singleton] at member
    exact ⟨_, congrArg Prod.snd member⟩

theorem reachable_desk {ns : Namespace} (reachable : ns.Reachable) (id : FactoryId) :
    ((desk ctx ns pools files).site.namespace_ id).Reachable := by
  match id with
  | 1 => exact reachable
  | 0 | 2 | _ + 3 => exact .initial

end Desk

end OnSite

/-- A driver comes from a factory that is registered for its pool type, and is refused where there is none. -/
theorem Manager.createDriver_cases (m : Manager) (type : String) :
    (∃ pair ∈ m.registered .driver, pair.2.poolType? = some type ∧ m.createDriver type = pair.2.driverNode) ∨
      m.createDriver type = .error (.unknownPoolType type) := by
  unfold createDriver
  split
  · rename_i id factory found
    refine .inl ⟨(id, factory), List.mem_reverse.1 (List.mem_of_find?_eq_some found), ?_, rfl⟩
    simpa using List.find?_some found
  · exact .inr rfl

namespace StackM

open OnSite

theorem driver_outcome (type : String) (s : OnSite) :
    ((driver type).outcome s).1 = s.driverFor type := by
  unfold driver Action.update Action.outcome driverFor
  cases cached : s.stack.drivers.find? fun (t, _) => t = type with
  | some pair => simp only [cached]
  | none =>
    simp only [cached]
    cases made : makeDriver s.site.manager s.stack type with
    | ok pair => simp [bind, Except.bind, pure, Except.pure]
    | error e => simp [bind, Except.bind]

/-- A driver made for the stack is for disk pools, if all are; it leaves no note on the board. -/
theorem makeDriver_disk {s : OnSite} (disks : s.DiskOnly) {type : String} {driver : DriverNode}
    {board : Board} (made : makeDriver s.site.manager s.stack type = .ok (driver, board)) :
    type = DiskDriver.poolType ∧ (∃ disk, driver = .disk disk) ∧ board = s.stack.board := by
  obtain ⟨node, created, attached⟩ := Error.bind_eq_ok_iff.1 made
  obtain ⟨notes, noted, adopted⟩ := Error.bind_eq_ok_iff.1 attached
  rcases s.site.manager.createDriver_cases type with ⟨pair, member, named, same⟩ | missing
  · obtain ⟨options, factory⟩ := disks.makes _ member
    rw [factory] at named
    rw [same, factory] at created
    obtain ⟨settings, -, built⟩ := Error.bind_eq_ok_iff.1 created
    cases built
    cases noted
    refine ⟨(Option.some.inj named).symm, ?_⟩
    split at adopted
    · cases adopted
      exact ⟨⟨_, rfl⟩, rfl⟩
    · cases adopted
      exact ⟨⟨_, rfl⟩, rfl⟩
  · cases created.symm.trans missing

/-- A driver that was made is the one for its type from then on, and others are made as before. -/
theorem driverFor_of_kept {s : OnSite} {type : String} {node : DriverNode}
    (making : makeDriver s.site.manager s.stack type = .ok (node, s.stack.board)) (other : String) :
    ({ s with stack := { s.stack with drivers := s.stack.drivers ++ [(type, node)] } } :
      OnSite).driverFor other = s.driverFor other := by
  unfold driverFor
  rw [List.find?_append]
  cases earlier : s.stack.drivers.find? fun (t, _) => t = other with
  | some pair => rfl
  | none =>
    by_cases same : type = other
    · subst same
      rw [making]
      simp [bind, Except.bind, pure, Except.pure]
    · simp only [List.find?_cons, same, decide_false, List.find?_nil, Option.or_none]
      rfl

/-- Asking for a driver changes nothing, except that the stack takes in one that is made for it. -/
theorem driver_cases (type : String) (s : OnSite) :
    ((driver type).outcome s).2 = s ∨ ∃ node board,
      makeDriver s.site.manager s.stack type = .ok (node, board) ∧
        ((driver type).outcome s).2 =
          { s with stack := { s.stack with board, drivers := s.stack.drivers ++ [(type, node)] } } := by
  cases run : driver type s with
  | error e t =>
    rw [Action.outcome_of_error run]
    exact .inl (Action.failsClean_update _ _ _ _ run)
  | ok node t =>
    rw [Action.outcome_of_ok run]
    have done := Action.update_eq_ok run
    cases cached : s.stack.drivers.find? fun (t, _) => t = type with
    | some pair =>
      simp only [cached] at done
      cases done
      exact .inl rfl
    | none =>
      simp only [cached] at done
      obtain ⟨⟨made, board⟩, making, same⟩ := Error.bind_eq_ok_iff.1 done
      cases same
      exact .inr ⟨made, board, making, rfl⟩

/-- A frame that keeps a driver once it is made keeps it whenever it is asked for. -/
theorem keeps_driver_of_made {R : OnSite → OnSite → Prop} [Action.Frame R] {type : String}
    (kept : ∀ {s : OnSite} {node : DriverNode} {board : Board},
      makeDriver s.site.manager s.stack type = .ok (node, board) →
        R s { s with stack := { s.stack with board, drivers := s.stack.drivers ++ [(type, node)] } }) :
    Action.Keeps R (driver type) := by
  intro s
  rcases driver_cases type s with same | ⟨node, board, making, same⟩
  · rw [same]
    exact Action.Frame.refl s
  · rw [same]
    exact kept making

/-- Asking for a driver prepares the stack. -/
theorem keeps_driver (type : String) : Action.Keeps Prepares (driver type) := by
  apply keeps_driver_of_made
  intro s node board making
  refine ⟨⟨⟨_, _, rfl⟩, ⟨_, rfl⟩⟩, fun disks => ?_⟩
  obtain ⟨served, disk, rfl⟩ := makeDriver_disk disks making
  refine ⟨⟨?_, disks.makes⟩, driverFor_of_kept making⟩
  intro pair member
  rcases List.mem_append.1 member with old | new
  · exact disks.made pair old
  · obtain rfl := List.mem_singleton.1 new
    exact ⟨served, disk⟩

/-- A stack that gives a driver has changed nothing but what it keeps of drivers. -/
theorem driver_eq_ok {type : String} {node : DriverNode} {s t : OnSite}
    (done : driver type s = .ok node t) :
    s.driverFor type = .ok node ∧ t.site = s.site ∧ t.stack.catalog = s.stack.catalog := by
  have outcome := driver_outcome type s
  have changes := driver_cases type s
  rw [Action.outcome_of_ok done] at outcome changes
  refine ⟨outcome.symm, ?_⟩
  obtain rfl | ⟨made, board, -, rfl⟩ := changes
  · exact ⟨rfl, rfl⟩
  · exact ⟨rfl, rfl⟩

theorem driver_eq_error {type : String} {e : Error} {s t : OnSite}
    (failed : driver type s = .error e t) : s.driverFor type = .error e ∧ t = s := by
  have outcome := driver_outcome type s
  rw [Action.outcome_of_error failed] at outcome
  exact ⟨outcome.symm, Action.failsClean_update _ _ _ _ failed⟩

/-- A driver that is made for a stack is the stack's own. -/
theorem sameSite_driver (type : String) : Action.Keeps SameSite (driver type) :=
  keeps_driver_of_made fun _ => rfl

/-- What a driver does with files, it does with those of the site. -/
theorem askDriver_apply (node : DriverNode) (r : DriverRequest) (s : OnSite) :
    askDriver node r s = match node.handler r s.site.host with
      | .ok answer host => .ok answer { s with site := { s.site with host } }
      | .error e host => .error e { s with site := { s.site with host } } := by
  unfold askDriver onSite Site.driverHandler Site.onHost Contract.Handler.zoom Action.zoom
  cases node.handler r s.site.host <;> rfl

theorem state_askDriver (node : DriverNode) (r : DriverRequest) (s : OnSite) :
    ((askDriver node r).outcome s).2 =
      { s with site := { s.site with host := ((node.handler r).outcome s.site.host).2 } } := by
  unfold Action.outcome
  rw [askDriver_apply]
  cases node.handler r s.site.host <;> rfl

theorem reads_askDriver_of {node : DriverNode} {r : DriverRequest}
    (reads : Action.Reads (node.handler r)) : Action.Reads (askDriver node r) := by
  have machine : Action.Reads (Site.driverHandler node r) := reads.zoom fun _ => rfl
  exact machine.zoom fun _ => rfl

/-- A driver from a plugin gives answers and nothing else. -/
theorem reads_askPlain (driver : PlainDriver) (r : DriverRequest) :
    Action.Reads (askDriver (.plain driver) r) := by
  apply reads_askDriver_of
  unfold DriverNode.handler
  dsimp only
  split
  · rename_i result _
    exact fun s => ⟨result, rfl⟩
  · exact Action.reads_throw _

theorem reads_askDriver (node : DriverNode) {r : DriverRequest} (looks : r.looks = true) :
    Action.Reads (askDriver node r) := by
  cases node with
  | plain driver => exact reads_askPlain driver r
  | disk driver =>
    apply reads_askDriver_of
    cases r with
    | isAvailable | freeSpace | totalSpace | readLocation | writeLocation | writeDone =>
      exact Action.reads_query _
    | cancelWrite | remove => cases looks

theorem foldr_overPools {σ : Type} (decorators : List Decorator) (h : Contract.pools.Handler σ) :
    decorators.foldr Decorator.overPools h = h := by
  induction decorators with
  | nil => rfl
  | cons d rest ih =>
    rw [List.foldr_cons, ih]
    exact d.overPools_eq h

/-- What a chain leaves that opens files, its innermost node leaves. -/
theorem state_ioHandler (chain : Chain IoNode) (r : IoRequest) (site : Site) :
    ((Site.ioHandler chain r).outcome site).2 =
      ((Site.onHost chain.base.handler r).outcome site).2 := by
  obtain ⟨decorators, node⟩ := chain
  induction decorators with
  | nil => rfl
  | cons d rest ih =>
    cases d with
    | plain | librarian => exact ih
    | profiler slowMs =>
      obtain ⟨file, flags, attrs⟩ := r
      have handed : Site.ioHandler ⟨.profiler slowMs :: rest, node⟩ (.open_ file flags attrs) = _ :=
        Profiler.io_eq slowMs (Site.ioHandler ⟨rest, node⟩) file flags attrs
      rw [handed, Action.outcome_bind_pure]
      exact ih

/-- What a chain does over pools, its innermost node does. -/
theorem poolsHandler_eq (chain : TableChain) :
    Site.poolsHandler chain = Site.poolsHandler ⟨[], chain.base⟩ :=
  foldr_overPools chain.decorators _

theorem pools_get_apply (name : String) (s : OnSite) :
    pools (.get name) s = Action.ofExcept (s.pool name) s := by
  unfold OnSite.pool
  cases wired : s.stack.pools with
  | none => exact Action.bind_of_error (need_of_none wired)
  | some chain =>
    refine (Action.bind_of_ok (need_of_some wired)).trans ?_
    rw [poolsHandler_eq]
    obtain ⟨decorators, base⟩ := chain
    cases base with
    | plain node => rfl
    | memory id =>
      have table : Site.poolsHandler ⟨[], .memory id⟩ (.get name) =
          Action.query fun site => (site.manager.memory id).pools.pool name :=
        Action.zoom_query (Site.putPools_same id) (PoolTable.pool · name)
      dsimp only
      rw [table]
      exact congrFun (Action.zoom_query (fun _ => rfl) _) s

theorem reads_pools_list (filter : PoolAvailability) : Action.Reads (pools (.list filter)) := by
  apply (Action.reads_query _).bind
  intro chain
  rw [poolsHandler_eq]
  have table : Action.Reads (Site.poolsHandler ⟨[], chain.base⟩ (.list filter)) := by
    cases chain.base with
    | plain node => exact Action.reads_throw _
    | memory id =>
      have query : Action.Reads (PoolTable.handler (.list filter)) := Action.reads_query _
      exact query.zoom (Site.putPools_same id)
  exact table.zoom fun _ => rfl

theorem reads_pools_get (name : String) : Action.Reads (pools (.get name)) :=
  fun s => ⟨s.pool name, pools_get_apply name s⟩

end StackM

namespace Resolution

open OnSite StackM

theorem reads_absolute (path : String) : Action.Reads (absolute path) := by
  apply (Action.reads_query _).bind
  intro _
  have directory : Action.Reads (catalog .workingDir) := reads_catalog rfl
  apply directory.attempt.bind
  intro result
  cases result with
  | ok cwd => exact Action.reads_pure _
  | error e => exact Action.reads_pure _

section Keeping

variable {R : OnSite → OnSite → Prop} [Action.Frame R]

theorem keeps_orNone {α : Type} {kind : ErrorKind} {act : StackM α}
    (keeps : Action.Keeps R act) : Action.Keeps R (orNone kind act) := by
  apply keeps.attempt.bind
  intro result
  cases result with
  | ok a => exact (Action.reads_pure _).keeps
  | error e =>
    dsimp only
    split
    · exact (Action.reads_pure _).keeps
    · exact (Action.reads_throw _).keeps

/-! What asking for drivers keeps, everything that leads to candidates keeps. -/

variable (drivers : ∀ type, Action.Keeps R (driver type))
include drivers

theorem keeps_freeSpace? (pool : Pool) (forWrite : Bool) :
    Action.Keeps R (freeSpace? pool forWrite) := by
  unfold freeSpace?
  apply (keeps_orNone (drivers pool.type)).bind
  intro driver
  cases driver with
  | none => exact (Action.reads_pure _).keeps
  | some driver =>
    have space : Action.Reads (askDriver driver (.freeSpace pool)) := reads_askDriver driver rfl
    have serves : Action.Reads (askDriver driver (.isAvailable pool forWrite)) :=
      reads_askDriver driver rfl
    refine serves.keeps.bind fun available => ?_
    split
    · exact (Action.reads_pure _).keeps
    · refine space.attempt.keeps.bind fun result => ?_
      cases result with
      | ok free => exact (Action.reads_pure _).keeps
      | error e => exact (Action.reads_pure _).keeps

theorem keeps_readCandidate (row : Replica) : Action.Keeps R (readCandidate row) := by
  unfold readCandidate
  have known : Action.Keeps R (pools (.get row.pool)) := (reads_pools_get row.pool).keeps
  apply (keeps_orNone known).bind
  intro pool
  cases pool with
  | none => exact (Action.reads_pure _).keeps
  | some pool =>
    apply (keeps_freeSpace? drivers pool false).bind
    intro free
    cases free with
    | none => exact (Action.reads_pure _).keeps
    | some free => exact (Action.reads_pure _).keeps

theorem keeps_readCandidates (rows : List Replica) :
    Action.Keeps R (readCandidates rows) := by
  induction rows with
  | nil => exact (Action.reads_pure _).keeps
  | cons row rest ih =>
    unfold readCandidates
    have state : Action.Reads (get : StackM OnSite) := fun s => ⟨.ok s, rfl⟩
    refine state.keeps.bind fun s => ?_
    dsimp only
    split
    · exact ih
    · exact (keeps_readCandidate drivers row).bind fun _ =>
        ih.bind fun _ => (Action.reads_pure _).keeps

theorem keeps_writeCandidates (pools : List Pool) :
    Action.Keeps R (writeCandidates pools) := by
  induction pools with
  | nil => exact (Action.reads_pure _).keeps
  | cons pool rest ih =>
    exact (keeps_freeSpace? drivers pool true).bind fun _ =>
      ih.bind fun _ => (Action.reads_pure _).keeps

end Keeping

/-- A missing thing is no failure; any other failure is. -/
theorem orNone_eq_ok_iff {α : Type} {kind : ErrorKind} {act : StackM α} {found : Option α}
    {s t : OnSite} :
    orNone kind act s = .ok found t ↔
      (∃ a, found = some a ∧ act s = .ok a t) ∨
        (found = none ∧ ∃ e, act s = .error e t ∧ e.kind = kind) := by
  unfold orNone
  cases run : act s with
  | ok a u =>
    rw [Action.bind_of_ok (Action.attempt_of_ok run)]
    constructor
    · intro done
      cases done
      exact .inl ⟨a, rfl, rfl⟩
    · rintro (⟨_, rfl, done⟩ | ⟨-, _, failed, -⟩)
      · cases done
        rfl
      · cases failed
  | error e u =>
    rw [Action.bind_of_ok (Action.attempt_of_error run)]
    by_cases same : e.kind = kind
    · simp only [same, if_true]
      constructor
      · intro done
        cases done
        exact .inr ⟨rfl, e, rfl, same⟩
      · rintro (⟨_, -, done⟩ | ⟨rfl, _, failed, -⟩)
        · cases done
        · cases failed
          rfl
    · simp only [same, if_false]
      constructor
      · exact nofun
      · rintro (⟨_, -, done⟩ | ⟨-, _, failed, other⟩)
        · cases done
        · cases failed
          exact absurd other same

theorem orNone_eq_error_iff {α : Type} {kind : ErrorKind} {act : StackM α} {e : Error}
    {s t : OnSite} :
    orNone kind act s = .error e t ↔ act s = .error e t ∧ e.kind ≠ kind := by
  unfold orNone
  cases run : act s with
  | ok a u =>
    rw [Action.bind_of_ok (Action.attempt_of_ok run)]
    constructor
    · exact nofun
    · rintro ⟨failed, -⟩
      cases failed
  | error fault u =>
    rw [Action.bind_of_ok (Action.attempt_of_error run)]
    by_cases same : fault.kind = kind
    · simp only [same, if_true]
      constructor
      · exact nofun
      · rintro ⟨failed, other⟩
        cases failed
        exact absurd same other
    · simp only [same, if_false]
      constructor
      · intro failed
        cases failed
        exact ⟨rfl, same⟩
      · rintro ⟨failed, -⟩
        cases failed
        rfl

theorem select_apply (free : List Nat) (s : OnSite) :
    ∃ t, select free s = .ok (s.site.manager.placement.select free).1 t :=
  ⟨_, rfl⟩

/-- A frame that lets the policy take its turns lets it choose. -/
theorem keeps_select_of_turned {R : OnSite → OnSite → Prop} [Action.Frame R]
    (turned : ∀ (s : OnSite) (turn : UInt64), R s { s with site := { s.site with manager :=
      { s.site.manager with placement := { s.site.manager.placement with turn } } } })
    (free : List Nat) : Action.Keeps R (select free) := by
  intro s
  obtain ⟨turn, same⟩ := Placement.select_turn s.site.manager.placement free
  unfold select Action.outcome
  simp only [same]
  exact turned s turn

theorem keeps_select (free : List Nat) : Action.Keeps Prepares (select free) := by
  refine keeps_select_of_turned (fun s turn => ?_) free
  exact ⟨⟨⟨_, _, rfl⟩, ⟨turn, rfl⟩⟩, fun disks => ⟨⟨disks.made, disks.makes⟩, fun _ => rfl⟩⟩

/-- What asking for drivers and taking turns keep, placing a write keeps. -/
theorem keeps_placeWrite {R : OnSite → OnSite → Prop} [Action.Frame R]
    (drivers : ∀ type, Action.Keeps R (driver type))
    (turns : ∀ free, Action.Keeps R (select free)) (path : String) (refused : Option Error)
    (rounds : Nat) (candidates : List WriteCandidate) :
    Action.Keeps R (placeWrite path refused rounds candidates) := by
  induction rounds generalizing refused candidates with
  | zero => exact (Action.reads_throw _).keeps
  | succ rounds ih =>
    apply (turns _).bind
    intro chosen
    cases chosen with
    | none => exact (Action.reads_throw _).keeps
    | some i =>
      dsimp only
      cases candidates[i]? with
      | none => exact (Action.reads_throw _).keeps
      | some candidate =>
        apply (drivers candidate.pool.type).bind
        intro driver
        have offer : Action.Reads (askDriver driver (.writeLocation candidate.pool path)) :=
          reads_askDriver driver rfl
        refine offer.attempt.keeps.bind fun result => ?_
        cases result with
        | ok location => exact (Action.reads_pure _).keeps
        | error e => exact ih _ _

end Resolution
end Stowage
