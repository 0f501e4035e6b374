import Stowage.Proofs.Screening

/-! Where a read goes. Of the replicas that are available and not excluded, those are candidates whose
pool is known, served by a driver and readable; the policy chooses one with the most free space, and
the location that comes of it names the chosen replica. There is no location exactly for want of
candidates, unless the pools or their drivers cannot be asked. -/
namespace Stowage

namespace OnSite

/-- The replica can be read: its pool is known, served by a driver for disk pools, readable, and has
this much free space. -/
structure Usable (s : OnSite) (c : Resolution.ReadCandidate) : Prop where
  known : s.pool c.replica.pool = .ok c.pool
  served : ∃ disk, s.driverFor c.pool.type = .ok (.disk disk)
  readable : c.pool.hasUsableFilesystem false = .ok true
  space : DiskDriver.freeSpace c.pool = .ok c.free

variable {s t : OnSite}

theorem DiskOnly.disk_of_driverFor (disks : s.DiskOnly) {type : String} {node : DriverNode}
    (found : s.driverFor type = .ok node) :
    type = DiskDriver.poolType ∧ ∃ disk, node = .disk disk := by
  unfold driverFor at found
  split at found
  · rename_i kept _ cached
    have named : kept = type := by simpa using List.find?_some cached
    obtain ⟨poolType, disk⟩ := disks.made _ (List.mem_of_find?_eq_some cached)
    cases found
    exact ⟨named.symm.trans poolType, disk⟩
  · obtain ⟨⟨made, board⟩, making, same⟩ := Error.bind_eq_ok_iff.1 found
    cases same
    obtain ⟨poolType, disk, -⟩ := StackM.makeDriver_disk disks making
    exact ⟨poolType, disk⟩

/-- Where the manager has a factory but can make no driver, the type is that of disk pools. -/
theorem DiskOnly.type_of_failed (disks : s.DiskOnly) {type : String} {e : Error}
    (failed : s.driverFor type = .error e) (kind : e.kind ≠ .unknownPoolType) :
    type = DiskDriver.poolType := by
  unfold driverFor at failed
  split at failed
  · cases failed
  · rcases s.site.manager.createDriver_cases type with ⟨pair, member, named, -⟩ | missing
    · obtain ⟨options, same⟩ := disks.makes _ member
      rw [same] at named
      exact (Option.some.inj named).symm
    · unfold StackM.makeDriver at failed
      rw [missing] at failed
      cases failed
      exact absurd rfl kind

/-- Where a driver for disk pools cannot be made, there is none for any type. -/
theorem DiskOnly.no_driver (disks : s.DiskOnly) {type : String} {e : Error}
    (failed : s.driverFor type = .error e) (kind : e.kind ≠ .unknownPoolType) (other : String)
    (node : DriverNode) : s.driverFor other ≠ .ok node := by
  intro found
  have here := disks.type_of_failed failed kind
  have there := (disks.disk_of_driverFor found).1
  rw [there, ← here, failed] at found
  cases found

/-- A table of pools that cannot be asked for one name cannot be asked for another. -/
theorem pool_lost {name : String} {e : Error} (failed : s.pool name = .error e)
    (kind : e.kind ≠ .noSuchPool) (other : String) (pool : Pool) : s.pool other ≠ .ok pool := by
  unfold OnSite.pool at failed ⊢
  cases wired : s.stack.pools with
  | none => exact nofun
  | some chain =>
    rw [wired] at failed
    obtain ⟨decorators, base⟩ := chain
    cases base with
    | plain node => exact nofun
    | memory id =>
      dsimp only at failed
      unfold PoolTable.pool at failed
      split at failed
      · cases failed
      · cases failed
        exact absurd rfl kind

theorem Usable.of_prepares (disks : s.DiskOnly) (prepares : s.Prepares t)
    {c : Resolution.ReadCandidate} : t.Usable c ↔ s.Usable c := by
  have drivers := (prepares.disks disks).2
  constructor
  · rintro ⟨known, served, readable, space⟩
    exact ⟨prepares.pool _ ▸ known, drivers _ ▸ served, readable, space⟩
  · rintro ⟨known, served, readable, space⟩
    exact ⟨(prepares.pool _).trans known, (drivers c.pool.type).symm ▸ served, readable, space⟩

end OnSite

namespace Resolution

variable {s t : OnSite}

/-- A driver that only looks at the machine answers from what it sees there. -/
theorem askDriver_query {node : DriverNode} {r : DriverRequest} {f : Host → Except Error r.Answer}
    (answers : node.handler r = Action.query f) (s : OnSite) :
    StackM.askDriver node r s = Action.ofExcept (f s.site.host) s := by
  rw [StackM.askDriver_apply, answers]
  unfold Action.query
  cases f s.site.host <;> rfl

theorem askDriver_readLocation (disk : DiskDriver) (pool : Pool) (row : Replica) (s : OnSite) :
    StackM.askDriver (.disk disk) (.readLocation pool row) s =
      Action.ofExcept (disk.readLocation s.site.host.now pool row) s :=
  askDriver_query (r := .readLocation pool row)
    (f := fun host => disk.readLocation host.now pool row) rfl s

/-- The free space of a pool is told exactly of a pool that its driver serves. -/
theorem freeSpace?_eq_ok (disks : s.DiskOnly) {pool : Pool} {forWrite : Bool} {found : Option Nat}
    (done : freeSpace? pool forWrite s = .ok found t) (free : Nat) :
    found = some free ↔ (∃ disk, s.driverFor pool.type = .ok (.disk disk)) ∧
      pool.hasUsableFilesystem forWrite = .ok true ∧ DiskDriver.freeSpace pool = .ok free := by
  rw [(told_of_freeSpace? done).2 free]
  constructor
  · rintro ⟨node, served, available, space⟩
    obtain ⟨-, disk, rfl⟩ := disks.disk_of_driverFor served
    exact ⟨⟨disk, served⟩, by simpa using available, by simpa using space⟩
  · rintro ⟨⟨disk, served⟩, available, space⟩
    exact ⟨.disk disk, served, by simpa using available, by simpa using space⟩

/-- The free space of a pool cannot be asked for only if no driver can be made or the driver cannot
read the filesystems of the pool. -/
theorem freeSpace?_eq_error (disks : s.DiskOnly) {pool : Pool} {forWrite : Bool} {e : Error}
    (failed : freeSpace? pool forWrite s = .error e t) :
    (∃ fault, s.driverFor pool.type = .error fault ∧ fault.kind ≠ .unknownPoolType) ∨
      (∃ disk, s.driverFor pool.type = .ok (.disk disk)) ∧
        ∃ fault, pool.hasUsableFilesystem forWrite = .error fault := by
  rcases stops_of_freeSpace? failed with ⟨lost, kind⟩ | ⟨served, lost⟩
  · exact .inl ⟨_, lost, kind⟩
  · obtain ⟨-, disk, rfl⟩ := disks.disk_of_driverFor served
    exact .inr ⟨⟨disk, served⟩, _, by simpa using lost⟩

/-- What is asked of a pool that a driver serves is told only if its filesystems can be read. -/
theorem readable_of_freeSpace? {pool : Pool} {forWrite : Bool} {found : Option Nat}
    (done : freeSpace? pool forWrite s = .ok found t) {disk : DiskDriver}
    (served : s.driverFor pool.type = .ok (.disk disk)) : ∃ all, pool.filesystems = .ok all := by
  cases usable : pool.hasUsableFilesystem forWrite with
  | ok serves =>
    obtain ⟨all, read, -⟩ := Error.bind_eq_ok_iff.1 usable
    exact ⟨all, read⟩
  | error e => exact absurd (.silent served (by simpa using usable)) (told_of_freeSpace? done).1

/-- A replica is a candidate exactly if it can be read. -/
theorem readCandidate_eq_ok (disks : s.DiskOnly) {row : Replica} {found : Option ReadCandidate}
    (done : readCandidate row s = .ok found t) (c : ReadCandidate) :
    found = some c ↔ c.replica = row ∧ s.Usable c := by
  unfold readCandidate at done
  obtain ⟨pool, u, got, asked⟩ := Action.bind_eq_ok_iff.1 done
  rcases orNone_eq_ok_iff.1 got with ⟨pool, rfl, known⟩ | ⟨rfl, e, unknown, -⟩
  · rw [StackM.pools_get_apply] at known
    obtain ⟨known, rfl⟩ := Action.eq_ok_of_ofExcept known
    obtain ⟨free, v, told, given⟩ := Action.bind_eq_ok_iff.1 asked
    have amounts := freeSpace?_eq_ok disks told
    cases free with
    | none =>
      cases given
      constructor
      · exact nofun
      · rintro ⟨rfl, usable⟩
        obtain rfl := Except.ok.inj (known.symm.trans usable.known)
        have told := (amounts c.free).2 ⟨usable.served, usable.readable, usable.space⟩
        cases told
    | some amount =>
      cases given
      obtain ⟨served, readable, space⟩ := (amounts amount).1 rfl
      constructor
      · intro same
        cases same
        exact ⟨rfl, known, served, readable, space⟩
      · rintro ⟨rfl, usable⟩
        obtain rfl := Except.ok.inj (known.symm.trans usable.known)
        obtain rfl := Except.ok.inj (space.symm.trans usable.space)
        rfl
  · cases asked
    rw [StackM.pools_get_apply] at unknown
    have lost := (Action.eq_error_of_ofExcept unknown).1
    constructor
    · exact nofun
    · rintro ⟨rfl, usable⟩
      rw [usable.known] at lost
      cases lost

/-- The pool of the replica has a driver, which cannot read the filesystems of the pool. -/
def Blocks (s : OnSite) (row : Replica) : Prop :=
  ∃ pool disk fault, s.pool row.pool = .ok pool ∧ s.driverFor pool.type = .ok (.disk disk) ∧
    pool.filesystems = .error fault

/-- Where it cannot be told of one replica whether it can be read, none can be, or the filesystems of
its pool are not in order. -/
theorem readCandidate_eq_error (disks : s.DiskOnly) {row : Replica} {e : Error}
    (failed : readCandidate row s = .error e t) : (∀ c, ¬ s.Usable c) ∨ Blocks s row := by
  unfold readCandidate at failed
  rcases Action.bind_eq_error_iff.1 failed with unknown | ⟨pool, u, got, asked⟩
  · obtain ⟨unknown, kind⟩ := orNone_eq_error_iff.1 unknown
    rw [StackM.pools_get_apply] at unknown
    have lost := (Action.eq_error_of_ofExcept unknown).1
    exact .inl fun c usable => OnSite.pool_lost lost kind _ _ usable.known
  · rcases orNone_eq_ok_iff.1 got with ⟨pool, rfl, known⟩ | ⟨rfl, -⟩
    · rw [StackM.pools_get_apply] at known
      obtain ⟨known, rfl⟩ := Action.eq_ok_of_ofExcept known
      rcases Action.bind_eq_error_iff.1 asked with untold | ⟨free, v, -, given⟩
      · rcases freeSpace?_eq_error disks untold with ⟨fault, lost, kind⟩ |
          ⟨⟨disk, served⟩, fault, unreadable⟩
        · refine .inl fun c usable => ?_
          obtain ⟨disk, served⟩ := usable.served
          exact disks.no_driver lost kind _ _ served
        · unfold Pool.hasUsableFilesystem at unreadable
          cases read : pool.filesystems with
          | ok all =>
            rw [read] at unreadable
            cases unreadable
          | error fault => exact .inr ⟨pool, disk, fault, known, served, read⟩
      · cases free with
        | none => cases given
        | some free => cases given
    · cases asked

/-- A replica of which it is told whether it can be read is not in the way of others. -/
theorem not_blocks_of_ok (disks : s.DiskOnly) {row : Replica} {found : Option ReadCandidate}
    (done : readCandidate row s = .ok found t) : ¬ Blocks s row := by
  rintro ⟨pool, disk, fault, known, served, unread⟩
  unfold readCandidate at done
  obtain ⟨given, u, got, asked⟩ := Action.bind_eq_ok_iff.1 done
  rcases orNone_eq_ok_iff.1 got with ⟨other, rfl, found⟩ | ⟨rfl, e, unknown, -⟩
  · rw [StackM.pools_get_apply] at found
    obtain ⟨found, rfl⟩ := Action.eq_ok_of_ofExcept found
    obtain rfl := Except.ok.inj (known.symm.trans found)
    obtain ⟨free, v, told, -⟩ := Action.bind_eq_ok_iff.1 asked
    obtain ⟨all, read⟩ := readable_of_freeSpace? told served
    rw [unread] at read
    cases read
  · rw [StackM.pools_get_apply] at unknown
    have lost := (Action.eq_error_of_ofExcept unknown).1
    rw [known] at lost
    cases lost

/-- The replica is available and not excluded from the operation. -/
def Offered (s : OnSite) (row : Replica) : Prop :=
  row.status = .available ∧ s.stack.excluded.contains row.id = false

/-- The candidates are the offered replicas that can be read, in the order of the replicas. -/
structure Candidates (s : OnSite) (rows : List Replica) (all : List ReadCandidate) : Prop where
  mem_iff : ∀ c, c ∈ all ↔ c.replica ∈ rows ∧ Offered s c.replica ∧ s.Usable c
  ordered : (all.map (·.replica)).Sublist rows

theorem offered_of_prepares (prepares : s.Prepares t) (row : Replica) :
    Offered t row ↔ Offered s row := by
  unfold Offered
  rw [prepares.excluded]

theorem Candidates.of_prepares (disks : s.DiskOnly) (prepares : s.Prepares t)
    {rows : List Replica} {all : List ReadCandidate} (candidates : Candidates t rows all) :
    Candidates s rows all := by
  refine ⟨fun c => ?_, candidates.ordered⟩
  rw [candidates.mem_iff, offered_of_prepares prepares, OnSite.Usable.of_prepares disks prepares]

theorem readCandidates_passed {row : Replica} (rest : List Replica) (passed : ¬ Offered s row) :
    readCandidates (row :: rest) s = readCandidates rest s := by
  have skipped : s.stack.excluded.contains row.id = true ∨ row.status ≠ .available := by
    by_cases available : row.status = .available
    · left
      cases excluded : s.stack.excluded.contains row.id with
      | true => rfl
      | false => exact absurd ⟨available, excluded⟩ passed
    · exact .inr available
  change (if _ then readCandidates rest else _) s = _
  rw [if_pos skipped]

theorem readCandidates_offered {row : Replica} (rest : List Replica) (offered : Offered s row) :
    readCandidates (row :: rest) s = (do
      let candidate ← readCandidate row
      return candidate.toList ++ (← readCandidates rest)) s := by
  have kept : ¬ (s.stack.excluded.contains row.id = true ∨ row.status ≠ .available) := by
    rintro (excluded | unavailable)
    · rw [offered.2] at excluded
      cases excluded
    · exact unavailable offered.1
  change (if _ then readCandidates rest else _) s = _
  rw [if_neg kept]

theorem candidates_of_ok (disks : s.DiskOnly) {rows : List Replica} {all : List ReadCandidate}
    (done : readCandidates rows s = .ok all t) : Candidates s rows all := by
  induction rows generalizing s all with
  | nil =>
    cases done
    exact ⟨fun c => by simp, List.Sublist.slnil⟩
  | cons row rest ih =>
    by_cases offered : Offered s row
    · rw [readCandidates_offered rest offered] at done
      obtain ⟨found, u, tried, asked⟩ := Action.bind_eq_ok_iff.1 done
      obtain ⟨others, v, gathered, given⟩ := Action.bind_eq_ok_iff.1 asked
      cases given
      have prepares := (keeps_readCandidate StackM.keeps_driver row).of_ok tried
      have later := (ih (prepares.disks disks).1 gathered).of_prepares disks prepares
      have here := readCandidate_eq_ok disks tried
      constructor
      · intro c
        rw [List.mem_append, Option.mem_toList, later.mem_iff, here, List.mem_cons]
        constructor
        · rintro (⟨rfl, usable⟩ | ⟨member, rest⟩)
          · exact ⟨.inl rfl, offered, usable⟩
          · exact ⟨.inr member, rest⟩
        · rintro ⟨rfl | member, rest⟩
          · exact .inl ⟨rfl, rest.2⟩
          · exact .inr ⟨member, rest⟩
      · cases found with
        | none => exact later.ordered.cons row
        | some c =>
          obtain ⟨same, -⟩ := (here c).1 rfl
          rw [Option.toList_some, List.singleton_append, List.map_cons, same]
          exact later.ordered.cons_cons row
    · rw [readCandidates_passed rest offered] at done
      have later := ih disks done
      refine ⟨fun c => ?_, later.ordered.cons row⟩
      rw [later.mem_iff, List.mem_cons]
      constructor
      · exact fun ⟨member, rest⟩ => ⟨.inr member, rest⟩
      · rintro ⟨rfl | member, rest⟩
        · exact absurd rest.1 offered
        · exact ⟨member, rest⟩

/-- The filesystems of the pools that hold the replicas can be read. -/
def TablesRead (s : OnSite) (rows : List Replica) : Prop :=
  ∀ row ∈ rows, ∀ pool, s.pool row.pool = .ok pool → ∃ all, pool.filesystems = .ok all

theorem not_blocks_of_tablesRead {rows : List Replica} (tables : TablesRead s rows) {row : Replica}
    (member : row ∈ rows) : ¬ Blocks s row := by
  rintro ⟨pool, disk, fault, known, -, unread⟩
  obtain ⟨all, read⟩ := tables row member pool known
  rw [unread] at read
  cases read

theorem blocks_of_prepares (disks : s.DiskOnly) (prepares : s.Prepares t) {row : Replica} :
    Blocks t row ↔ Blocks s row := by
  unfold Blocks
  simp only [prepares.pool, (prepares.disks disks).2]

/-- Candidates cannot be gathered only because one of the replicas that are offered cannot be tried. What was
tried before kept what any driver keeps. -/
theorem readCandidates_fails {R : OnSite → OnSite → Prop} [Action.Frame R]
    (keeps : ∀ type, Action.Keeps R (StackM.driver type)) {rows : List Replica} {e : Error}
    (failed : readCandidates rows s = .error e t) :
    ∃ row ∈ rows, ∃ u, R s u ∧ Offered u row ∧ readCandidate row u = .error e t := by
  induction rows generalizing s with
  | nil => cases failed
  | cons row rest ih =>
    by_cases offered : Offered s row
    · rw [readCandidates_offered rest offered] at failed
      rcases Action.bind_eq_error_iff.1 failed with untold | ⟨found, u, tried, asked⟩
      · exact ⟨row, List.mem_cons_self, s, Action.Frame.refl s, offered, untold⟩
      · have kept := (keeps_readCandidate keeps row).of_ok tried
        rcases Action.bind_eq_error_iff.1 asked with ungathered | ⟨_, _, -, given⟩
        · obtain ⟨other, later, v, more, open_, lost⟩ := ih ungathered
          exact ⟨other, List.mem_cons_of_mem _ later, v, Action.Frame.trans kept more, open_, lost⟩
        · cases given
    · rw [readCandidates_passed rest offered] at failed
      obtain ⟨other, later, rest⟩ := ih failed
      exact ⟨other, List.mem_cons_of_mem _ later, rest⟩

/-- Candidates cannot be gathered only where nothing can be read at all, or where an offered replica
is in the way. -/
theorem readCandidates_eq_error (disks : s.DiskOnly) {rows : List Replica} {e : Error}
    (failed : readCandidates rows s = .error e t) :
    (∀ c, ¬ s.Usable c) ∨ ∃ row ∈ rows, Offered s row ∧ Blocks s row := by
  obtain ⟨row, member, u, prepares, offered, lost⟩ := readCandidates_fails StackM.keeps_driver failed
  rcases readCandidate_eq_error (prepares.disks disks).1 lost with unusable | blocks
  · exact .inl fun c usable => unusable c ((OnSite.Usable.of_prepares disks prepares).2 usable)
  · exact .inr ⟨row, member, (offered_of_prepares prepares row).1 offered,
      (blocks_of_prepares disks prepares).1 blocks⟩

/-- Where the candidates can be gathered, no offered replica is in the way. -/
theorem not_blocks_of_gathered (disks : s.DiskOnly) {rows : List Replica} {all : List ReadCandidate}
    (done : readCandidates rows s = .ok all t) {row : Replica} (member : row ∈ rows)
    (offered : Offered s row) : ¬ Blocks s row := by
  induction rows generalizing s t all with
  | nil => cases member
  | cons first rest ih =>
    by_cases leads : Offered s first
    · rw [readCandidates_offered rest leads] at done
      obtain ⟨found, u, tried, asked⟩ := Action.bind_eq_ok_iff.1 done
      obtain ⟨others, v, gathered, -⟩ := Action.bind_eq_ok_iff.1 asked
      rcases List.mem_cons.1 member with rfl | later
      · exact not_blocks_of_ok disks tried
      · have prepares := (keeps_readCandidate StackM.keeps_driver first).of_ok tried
        rw [← blocks_of_prepares disks prepares]
        exact ih (prepares.disks disks).1 gathered later ((offered_of_prepares prepares row).2 offered)
    · rw [readCandidates_passed rest leads] at done
      rcases List.mem_cons.1 member with rfl | later
      · exact absurd offered leads
      · exact ih disks done later offered

/-- Gathering candidates makes drivers and leaves the site alone. -/
theorem site_of_gathered {rows : List Replica} {all : List ReadCandidate}
    (done : readCandidates rows s = .ok all t) : t.site = s.site :=
  (keeps_readCandidates StackM.sameSite_driver rows).of_ok done

/-- The candidate that the policy chooses among those that the replicas make. -/
def Chosen (s : OnSite) (rows : List Replica) (c : ReadCandidate) : Prop :=
  ∃ all i, Candidates s rows all ∧
    (s.site.manager.placement.select (all.map (·.free))).1 = some i ∧ all[i]? = some c

/-- The driver of the candidate's pool makes this location for it. -/
def Located (s : OnSite) (c : ReadCandidate) (location : Location) : Prop :=
  ∃ disk, s.driverFor c.pool.type = .ok (.disk disk) ∧
    disk.readLocation s.site.host.now c.pool c.replica = .ok location

theorem Chosen.spec {rows : List Replica} {c : ReadCandidate} (chosen : Chosen s rows c) :
    c.replica ∈ rows ∧ Offered s c.replica ∧ s.Usable c := by
  obtain ⟨all, i, candidates, -, index⟩ := chosen
  exact (candidates.mem_iff c).1 (List.mem_of_getElem? index)

/-- What follows once the catalog has shown some replicas. -/
def readAmong (path : String) (rows : List Replica) : StackM Location := do
  let candidates ← readCandidates rows
  let chosen ← select (candidates.map (·.free))
  let some candidate := chosen.bind (candidates[·]?)
    | throw (.noReplicaAvailable ("no replica of " ++ path ++ " is available"))
  let driver ← StackM.driver candidate.pool.type
  let location ← StackM.askDriver driver (.readLocation candidate.pool candidate.replica)
  return tagRead location path candidate

section Shown

variable {path target : String} {rows : List Replica} {location : Location}

theorem whereToRead_of_some (seen : absolute path s = .ok target s)
    (shown : StackM.catalog (.replicas target) s = .ok rows s) (some_ : rows ≠ []) :
    whereToRead path s = readAmong target rows s := by
  have filled : ¬ rows.isEmpty = true := by simpa using some_
  refine (Action.bind_of_ok seen).trans ((Action.bind_of_ok shown).trans ?_)
  dsimp only
  rw [if_neg filled]
  rfl

/-- Where no replica is shown, it counts whether some have been excluded. -/
theorem whereToRead_of_none (seen : absolute path s = .ok target s)
    (shown : StackM.catalog (.replicas target) s = .ok [] s) :
    whereToRead path s = .error (if s.stack.excluded.isEmpty then
      .noSuchReplica (target ++ " has no replicas")
      else .noReplicaAvailable ("every replica of " ++ target ++ " has been excluded")) s := by
  refine (Action.bind_of_ok seen).trans ((Action.bind_of_ok shown).trans ?_)
  cases empty : s.stack.excluded.isEmpty with
  | true =>
    change (if s.stack.excluded.isEmpty = true then (_ : StackM Location) else _) s = _
    rw [if_pos empty]
    rfl
  | false =>
    change (if s.stack.excluded.isEmpty = true then (_ : StackM Location) else _) s = _
    rw [if_neg (by simp [empty])]
    rfl

theorem shown_of_ok (done : whereToRead path s = .ok location t) :
    ∃ target rows, absolute path s = .ok target s ∧
      StackM.catalog (.replicas target) s = .ok rows s := by
  obtain ⟨target, u, seen, listed⟩ := Action.bind_eq_ok_iff.1 done
  obtain rfl := (reads_absolute path).of_ok seen
  obtain ⟨rows, v, shown, -⟩ := Action.bind_eq_ok_iff.1 listed
  have reads : Action.Reads (StackM.catalog (.replicas target)) := StackM.reads_catalog rfl
  obtain rfl := reads.of_ok shown
  exact ⟨target, rows, seen, shown⟩

end Shown

/-- What a chunk to read from tells: where the replica is, and what it was resolved from. -/
structure Describes (chunk : Chunk) (c : ReadCandidate) (path : String) : Prop where
  host : chunk.host = c.replica.server
  file : chunk.path = c.replica.physicalPath
  pool : chunk.attrs.get? Chunk.poolKey = some (.str c.pool.name)
  replica : chunk.attrs.get? Chunk.replicaKey = some (.int c.replica.id)
  name : chunk.attrs.get? Chunk.nameKey = some (.str path)

/-- A location for a replica is one chunk under its physical name, with a token to read it. -/
theorem readLocation_eq_ok {disk : DiskDriver} {now : Int} {pool : Pool} {row : Replica}
    {location : Location} (made : disk.readLocation now pool row = .ok location) :
    ∃ token, disk.token now row.physicalPath false = .ok token ∧
      location = ⟨[({ host := row.server, path := row.physicalPath } : Chunk).tag Chunk.tokenKey
        (.str token)]⟩ := by
  unfold DiskDriver.readLocation at made
  obtain ⟨all, -, checked⟩ := Error.bind_eq_ok_iff.1 made
  have built : (do
      let token ← disk.token now row.physicalPath false
      return (⟨[{ host := row.server, path := row.physicalPath : Chunk }.tag Chunk.tokenKey
        (.str token)]⟩ : Location)) = Except.ok location →
      ∃ token, disk.token now row.physicalPath false = .ok token ∧
        location = ⟨[({ host := row.server, path := row.physicalPath } : Chunk).tag Chunk.tokenKey
          (.str token)]⟩ := by
    intro done
    obtain ⟨token, issued, same⟩ := Error.bind_eq_ok_iff.1 done
    cases same
    exact ⟨token, issued, rfl⟩
  cases hosted : DiskDriver.hosting? all row with
  | none =>
    rw [hosted] at checked
    exact built checked
  | some fs =>
    rw [hosted] at checked
    exact built (Error.guarded_eq_ok_iff.1 checked).2

theorem chunks_of_readLocation {disk : DiskDriver} {now : Int} {pool : Pool} {row : Replica}
    {location : Location} (made : disk.readLocation now pool row = .ok location) :
    ∃ chunk, location.chunks = [chunk] ∧ chunk.host = row.server ∧
      chunk.path = row.physicalPath := by
  obtain ⟨token, -, rfl⟩ := readLocation_eq_ok made
  exact ⟨_, rfl, rfl, rfl⟩

/-- A tagged location is one chunk that describes the candidate it was resolved from. -/
theorem Located.chunks {c : ReadCandidate} {location : Location} (located : Located s c location)
    (path : String) :
    ∃ chunk, (tagRead location path c).chunks = [chunk] ∧ Describes chunk c path := by
  obtain ⟨disk, -, made⟩ := located
  obtain ⟨chunk, same, host, file⟩ := chunks_of_readLocation made
  refine ⟨((chunk.tag Chunk.poolKey (.str c.pool.name)).tag Chunk.replicaKey
    (.int c.replica.id)).tag Chunk.nameKey (.str path), ?_, host, file, ?_, ?_, ?_⟩
  · unfold tagRead Location.tag
    rw [same]
    rfl
  · unfold Chunk.tag
    rw [Table.get?_insert, if_neg (by decide), Table.get?_insert, if_neg (by decide),
      Table.get?_insert, if_pos rfl]
  · unfold Chunk.tag
    rw [Table.get?_insert, if_neg (by decide), Table.get?_insert, if_pos rfl]
  · unfold Chunk.tag
    rw [Table.get?_insert, if_pos rfl]

/-- A tagged location names the replica that it was resolved from. -/
theorem Located.replicaId? {c : ReadCandidate} {location : Location}
    (located : Located s c location) (path : String) (word : IsWord c.replica.id) :
    (tagRead location path c).replicaId? = some c.replica.id := by
  obtain ⟨chunk, same, describes⟩ := located.chunks path
  unfold Location.replicaId?
  simp only [same, List.head?_cons, Option.bind_eq_bind, Option.bind_some, describes.replica]
  unfold Json.i64?
  exact if_pos word

/-- A location to read from is that of the candidate which the policy chose. -/
theorem readAmong_eq_ok (disks : s.DiskOnly) {path : String} {rows : List Replica}
    {location : Location} (done : readAmong path rows s = .ok location t) :
    (∀ row ∈ rows, Offered s row → ¬ Blocks s row) ∧
      ∃ c given, Chosen s rows c ∧ Located s c given ∧ location = tagRead given path c := by
  unfold readAmong at done
  obtain ⟨all, u, gathered, chosen⟩ := Action.bind_eq_ok_iff.1 done
  obtain ⟨choice, v, selected, resolved⟩ := Action.bind_eq_ok_iff.1 chosen
  have candidates := candidates_of_ok disks gathered
  have prepares := (keeps_readCandidates StackM.keeps_driver rows).of_ok gathered
  obtain ⟨turned, choice_⟩ := select_apply (all.map (·.free)) u
  rw [choice_] at selected
  cases selected
  refine ⟨fun row member offered => not_blocks_of_gathered disks gathered member offered, ?_⟩
  cases index : (u.site.manager.placement.select (all.map (·.free))).1 with
  | none =>
    rw [index] at resolved
    cases resolved
  | some i =>
    cases found : all[i]? with
    | none =>
      simp only [index, Option.bind_some, found] at resolved
      cases resolved
    | some c =>
      simp only [index, Option.bind_some, found] at resolved
      obtain ⟨node, w, served, asked⟩ := Action.bind_eq_ok_iff.1 resolved
      obtain ⟨given, x, told, tagged⟩ := Action.bind_eq_ok_iff.1 asked
      cases tagged
      rw [site_of_gathered gathered] at index
      have drifted := prepares.trans ((keeps_select _).of_ok choice_)
      obtain ⟨made, site, -⟩ := StackM.driver_eq_ok served
      obtain ⟨-, disk, rfl⟩ := (drifted.disks disks).1.disk_of_driverFor made
      rw [askDriver_readLocation, site, drifted.host] at told
      exact ⟨c, given, ⟨all, i, candidates, index, found⟩,
        ⟨disk, ((drifted.disks disks).2 _).symm.trans made, (Action.eq_ok_of_ofExcept told).1⟩, rfl⟩

section Keeping

variable {R : OnSite → OnSite → Prop} [Action.Frame R]
  (drivers : ∀ type, Action.Keeps R (StackM.driver type))
  (turns : ∀ free, Action.Keeps R (select free))
include drivers turns

theorem keeps_readAmong (path : String) (rows : List Replica) :
    Action.Keeps R (readAmong path rows) := by
  refine (keeps_readCandidates drivers rows).bind fun all => (turns _).bind fun chosen => ?_
  cases chosen.bind (all[·]?) with
  | none => exact (Action.reads_throw _).keeps
  | some c =>
    apply (drivers c.pool.type).bind
    intro node
    have ask : Action.Reads (StackM.askDriver node (.readLocation c.pool c.replica)) :=
      StackM.reads_askDriver node rfl
    exact ask.keeps.bind fun location => (Action.reads_pure _).keeps

/-- What asking for drivers and taking turns keep, finding a location to read from keeps. -/
theorem keeps_whereToRead (path : String) : Action.Keeps R (whereToRead path) := by
  intro s
  cases seen : absolute path s with
  | error e t =>
    obtain rfl := (reads_absolute path).of_error seen
    have failed : whereToRead path t = .error e t := Action.bind_of_error seen
    rw [Action.outcome_of_error failed]
    exact Action.Frame.refl _
  | ok target u =>
    obtain rfl := (reads_absolute path).of_ok seen
    have reads : Action.Reads (StackM.catalog (.replicas target)) := StackM.reads_catalog rfl
    cases shown : StackM.catalog (.replicas target) u with
    | error e t =>
      obtain rfl := reads.of_error shown
      have failed : whereToRead path t = .error e t :=
        (Action.bind_of_ok seen).trans (Action.bind_of_error shown)
      rw [Action.outcome_of_error failed]
      exact Action.Frame.refl _
    | ok rows t =>
      obtain rfl := reads.of_ok shown
      cases rows with
      | nil =>
        rw [Action.outcome_of_error (whereToRead_of_none seen shown)]
        exact Action.Frame.refl _
      | cons row rest =>
        have kept := keeps_readAmong drivers turns target (row :: rest) t
        unfold Action.outcome at kept ⊢
        rw [whereToRead_of_some seen shown (List.cons_ne_nil row rest)]
        exact kept

theorem keeps_readRounds {α τ : Type} (excludes : ∀ id, Action.Keeps R (exclude id)) (path : String)
    (attempt : Location → τ → Except Error α × τ) (rounds : Nat) (t : τ) :
    Action.Keeps R (readRounds path attempt rounds t) := by
  induction rounds generalizing t with
  | zero => exact (Action.reads_pure _).keeps
  | succ rounds ih =>
    refine (keeps_whereToRead drivers turns path).attempt.bind fun found => ?_
    cases found with
    | error e => exact (Action.reads_pure _).keeps
    | ok location =>
      rcases tried : attempt location t with ⟨e | a, next⟩
      · simp only [tried]
        cases location.replicaId? with
        | none => exact (Action.reads_pure _).keeps
        | some id => exact (excludes id).bind fun _ => ih next
      · simp only [tried]
        exact (Action.reads_pure _).keeps

theorem keeps_readWithRetries {α τ : Type}
    (begins : Action.Keeps R (StackM.onStack (modify Stack.beginOperation)))
    (excludes : ∀ id, Action.Keeps R (exclude id)) (path : String)
    (attempt : Location → τ → Except Error α × τ) (t : τ) :
    Action.Keeps R (readWithRetries path attempt t) := by
  refine begins.bind fun _ => Action.Keeps.bind ?_ fun rounds =>
    keeps_readRounds drivers turns excludes path attempt _ t
  have shown : Action.Reads (do StackM.catalog (.replicas (← absolute path))) :=
    (reads_absolute path).bind fun _ => StackM.reads_catalog rfl
  refine shown.attempt.keeps.bind fun result => ?_
  cases result <;> exact (Action.reads_pure _).keeps

end Keeping

/-- Finding a location to read from prepares the stack and changes nothing else. -/
theorem prepares_whereToRead (path : String) : Action.Keeps OnSite.Prepares (whereToRead path) :=
  keeps_whereToRead StackM.keeps_driver keeps_select path

/-- The driver of a replica that can be read has a location for it. -/
def Locates (s : OnSite) (rows : List Replica) : Prop :=
  ∀ c : ReadCandidate, c.replica ∈ rows → c.replica.status = .available → s.Usable c →
    ∀ disk, s.driverFor c.pool.type = .ok (.disk disk) →
      ∃ location, disk.readLocation s.site.host.now c.pool c.replica = .ok location

/-- There is no location where nothing can be read at all, where an offered replica is in the way of
the others, where the driver has none for the chosen candidate, and for want of candidates. -/
theorem readAmong_eq_error (disks : s.DiskOnly) {path : String} {rows : List Replica} {e : Error}
    (failed : readAmong path rows s = .error e t) :
    (∀ c, ¬ s.Usable c) ∨ (∃ row ∈ rows, Offered s row ∧ Blocks s row) ∨
      (∃ c, Chosen s rows c ∧ ∀ location, ¬ Located s c location) ∨
      (∀ c : ReadCandidate, c.replica ∈ rows → Offered s c.replica → ¬ s.Usable c) ∧
        e.kind = .noReplicaAvailable := by
  unfold readAmong at failed
  rcases Action.bind_eq_error_iff.1 failed with ungathered | ⟨all, u, gathered, chosen⟩
  · rcases readCandidates_eq_error disks ungathered with unusable | blocked
    · exact .inl unusable
    · exact .inr (.inl blocked)
  have candidates := candidates_of_ok disks gathered
  have prepares := (keeps_readCandidates StackM.keeps_driver rows).of_ok gathered
  obtain ⟨turned, choice_⟩ := select_apply (all.map (·.free)) u
  have resolved := (Action.bind_of_ok choice_).symm.trans chosen
  have drifted := prepares.trans ((keeps_select _).of_ok choice_)
  refine .inr (.inr ?_)
  cases index : (u.site.manager.placement.select (all.map (·.free))).1 with
  | none =>
    have empty : all = [] := by
      by_cases some_ : all.map (·.free) = []
      · exact List.map_eq_nil_iff.1 some_
      · exact absurd index (Placement.select_ne_none _ some_)
    subst empty
    rw [index] at resolved
    cases resolved
    refine .inr ⟨fun c member offered usable => ?_, rfl⟩
    have inside := (candidates.mem_iff c).2 ⟨member, offered, usable⟩
    cases inside
  | some i =>
    have best := Placement.mem_tied.1 (Placement.mem_tied_of_select index)
    rw [List.getElem?_map] at best
    obtain ⟨c, found, -⟩ := Option.map_eq_some_iff.1 best
    simp only [index, Option.bind_some, found] at resolved
    rw [site_of_gathered gathered] at index
    refine .inl ⟨c, ⟨all, i, candidates, index, found⟩, ?_⟩
    -- If the driver had a location, nothing would be left to fail.
    rintro location ⟨disk, served, located⟩
    have still : turned.driverFor c.pool.type = .ok (.disk disk) :=
      ((drifted.disks disks).2 _).trans served
    rcases Action.bind_eq_error_iff.1 resolved with unserved | ⟨node, w, given, asked⟩
    · have lost := (StackM.driver_eq_error unserved).1
      rw [still] at lost
      cases lost
    · obtain ⟨made, site, -⟩ := StackM.driver_eq_ok given
      obtain rfl := Except.ok.inj (made.symm.trans still)
      rcases Action.bind_eq_error_iff.1 asked with refused | ⟨_, x, -, tagged⟩
      · rw [askDriver_readLocation, site, drifted.host, located] at refused
        cases refused
      · cases tagged

end Resolution
end Stowage
