import Stowage.Proofs.Charging
import Stowage.Proofs.ReadChoice
import Stowage.Proofs.CancelledData
import Stowage.Proofs.Reports

/-! Accounts of space. Whatever stacks do on pools that options set up, a filesystem has free at the end
what it had at the start, less the sizes of the writes that were placed on it and reported with success, or
nothing. A report that fails charges nothing, no other move does, and no other field of a pool changes. The
accounts of a run follow from those of one move. -/
namespace Stowage

/-- Each pool is as it was, but for what was taken off its filesystems. -/
structure PoolTable.Accounts (spent : String → List Filesystem → Filesystem → Nat)
    (before after : PoolTable) : Prop where
  ordered : after.Ordered
  charged : ∀ name, Option.Rel (Pool.Charged (spent name)) (before.get? name) (after.get? name)

namespace PoolTable

variable {t before after : PoolTable} {spent : String → List Filesystem → Filesystem → Nat}
  {pool updated : Pool} {name : String} {chunk : Chunk} {entry : Entry} {size : Nat}

theorem SetUp.accounts (up : t.SetUp) : t.Accounts (fun _ _ _ => 0) t := by
  refine ⟨up.ordered, fun name => ?_⟩
  cases known : t.get? name with
  | none => exact .none
  | some pool =>
    obtain ⟨filesystems, laid⟩ := up.laid known
    exact .some laid.charged

theorem Accounts.found (accounts : before.Accounts spent after) (known : after.get? name = some pool) :
    ∃ first, before.get? name = some first ∧ first.Charged (spent name) pool := by
  have related := accounts.charged name
  rw [known] at related
  cases found : before.get? name with
  | none =>
    rw [found] at related
    cases related
  | some first =>
    rw [found] at related
    cases related with
    | some charged => exact ⟨first, rfl, charged⟩

/-- A pool that is charged and stored is accounted for. -/
theorem Accounts.counted (accounts : before.Accounts spent after) (up : before.SetUp)
    (known : after.get? name = some pool)
    (counted : DiskDriver.writeDone pool (Resolution.writtenReplica chunk pool entry) size =
      .ok updated) :
    before.Accounts (fun other filesystems fs => spent other filesystems fs +
      if name = other ∧ chunk.within filesystems = some fs then size else 0)
      (after.insert updated.name updated) := by
  obtain ⟨first, found, charged⟩ := accounts.found known
  obtain ⟨filesystems, laid⟩ := up.laid found
  have more := charged.counted laid counted
  have same : updated.name = name := more.name.trans (up.named found)
  refine ⟨Table.ordered_insert accounts.ordered _ _, fun other => ?_⟩
  rw [Table.get?_insert, same]
  by_cases here : other = name
  · subst here
    rw [if_pos rfl, found]
    simpa using Option.Rel.some more
  · have elsewhere : ¬ name = other := fun equal => here equal.symm
    rw [if_neg here]
    simpa [elsewhere] using accounts.charged other

end PoolTable

namespace OnSite

/-- The pools of all memory factories are as they were. -/
def SamePools (s t : OnSite) : Prop :=
  ∀ id, (t.site.manager.memory id).pools = (s.site.manager.memory id).pools

instance : Action.Frame SamePools where
  refl _ _ := rfl
  trans first second id := (second id).trans (first id)

variable {s t : OnSite} {P : Effect → Prop}

theorem SameTables.samePools (same : s.SameTables t) : s.SamePools t :=
  fun id => congrArg MemoryTables.pools (same id)

theorem Does.samePools (does : Does P s t) (still : ∀ id r, ¬ P (.pools id r)) : s.SamePools t :=
  does.site.pools_eq still

/-- A stack finds pools in the table that it looks at. -/
theorem get?_of_pool {decorators : List Decorator} {id : FactoryId} {name : String} {pool : Pool}
    (wired : s.stack.pools = some ⟨decorators, .memory id⟩) (known : s.pool name = .ok pool) :
    (s.site.manager.memory id).pools.get? name = some pool := by
  unfold OnSite.pool at known
  rw [wired] at known
  exact PoolTable.pool_eq_ok_iff.1 known

end OnSite

/-- The catalog works on names alone. -/
def Effect.Enrolling : Effect → Prop
  | .names .. => True
  | _ => False

namespace Resolution

open OnSite StackM

variable {s t : OnSite} {location : Location} {size : Nat} {pool : Pool} {path : String}

theorem does_enrol (name : String) (record : Replica) (size : Nat) :
    Action.Keeps (Does Effect.Enrolling) (enrol name record size) :=
  (does_catalog rfl fun below => BuiltIn.leads_addReplica below record fun _ => trivial).bind fun _ =>
    does_catalog rfl fun below => BuiltIn.leads_setSize below name size fun _ _ => trivial

theorem sameChains_enrol (name : String) (record : Replica) (size : Nat) :
    Action.Keeps SameChains (enrol name record size) :=
  (sameChains_addReplica record).bind fun _ => sameChains_setSize name size

/-- A report that fails charges nothing. -/
theorem samePools_of_unreported (location : Location) (size : Nat) :
    Action.FailsWithin SamePools (doneWriting location size) := by
  rw [doneWriting_eq]
  refine (reads_lookUp location).keeps.bind_failsWithin fun ⟨chunk, pool, name, entry⟩ => ?_
  have enrols : Action.Keeps SamePools (enrol name (writtenReplica chunk pool entry) size) :=
    fun s => (does_enrol name _ size s).samePools fun _ _ => not_false
  exact enrols.bind_failsWithin fun _ s e t failed =>
    (sameTables_of_unaccounted pool _ size s e t failed).samePools

/-- A report that succeeds has the pool of the location charged and stored, in the table that the stack
looks at. -/
theorem doneWriting_eq_ok (disks : s.DiskOnly) (done : doneWriting location size s = .ok () t) :
    ∃ chunk pool name entry updated decorators id, Tells s location chunk pool name ∧
      DiskDriver.writeDone pool (writtenReplica chunk pool entry) size = .ok updated ∧
      s.stack.pools = some ⟨decorators, .memory id⟩ ∧
      (t.site.manager.memory id).pools =
        (s.site.manager.memory id).pools.insert updated.name updated := by
  rw [doneWriting_eq] at done
  obtain ⟨⟨chunk, pool, name, entry⟩, _, looked, rest⟩ := Action.bind_eq_ok_iff.1 done
  obtain ⟨tells, -, rfl⟩ := lookUp_eq_ok_iff.1 looked
  obtain ⟨_, u, enrolled, accounted⟩ := Action.bind_eq_ok_iff.1 rest
  obtain ⟨node, v, driven, more⟩ := Action.bind_eq_ok_iff.1 accounted
  obtain ⟨updated, _, asked, stored⟩ := Action.bind_eq_ok_iff.1 more
  have does := (does_enrol _ _ _).of_ok enrolled
  obtain ⟨-, disk, rfl⟩ := (does.disks disks).disk_of_driverFor (driver_eq_ok driven).1
  rw [askDriver_writeDone] at asked
  obtain ⟨counted, rfl⟩ := Action.eq_ok_of_ofExcept asked
  obtain ⟨decorators, id, wired, there, rfl⟩ := update_eq_ok_iff.1 stored
  have chains := Action.Frame.trans ((sameChains_enrol _ _ _).of_ok enrolled)
    ((sameChains_driver pool.type).of_ok driven)
  have before : SamePools _ _ := Action.Frame.trans (does.samePools fun _ _ => not_false)
    ((sameTables_driver pool.type).of_ok driven).samePools
  refine ⟨chunk, pool, name, entry, updated, decorators, id, tells, counted,
    chains.pools.symm.trans wired, ?_⟩
  rw [← before id]
  exact Site.pools_putPools there

/-- The listing of all pools is the table that the stack looks at. -/
theorem pools_list_any_eq_ok {listed : List Pool}
    (listing : StackM.pools (.list .any) s = .ok listed t) :
    ∃ decorators id, s.stack.pools = some ⟨decorators, .memory id⟩ ∧
      listed = (s.site.manager.memory id).pools.values := by
  cases wired : s.stack.pools with
  | none =>
    have missing : StackM.pools (.list .any) s = .error (.noFactory .pools) s :=
      Action.bind_of_error (need_of_none wired)
    rw [missing] at listing
    cases listing
  | some chain =>
    obtain ⟨decorators, base⟩ := chain
    have runs : StackM.pools (.list .any) s =
        onSite (Site.poolsHandler ⟨[], base⟩ (.list .any)) s := by
      rw [← poolsHandler_eq ⟨decorators, base⟩]
      exact Action.bind_of_ok (need_of_some wired)
    rw [runs] at listing
    cases base with
    | plain node => cases listing
    | memory id =>
      have table : Site.poolsHandler ⟨[], .memory id⟩ (.list .any) =
          Action.query fun site => (site.manager.memory id).pools.list .any :=
        Action.zoom_query (Site.putPools_same id) (PoolTable.list · .any)
      have asked : onSite (Site.poolsHandler ⟨[], .memory id⟩ (.list .any)) =
          Action.query fun s => (s.site.manager.memory id).pools.list .any := by
        rw [table]
        exact Action.zoom_query (fun _ => rfl) _
      rw [asked] at listing
      obtain ⟨all, -⟩ := Action.eq_ok_of_ofExcept listing
      refine ⟨decorators, id, rfl, ?_⟩
      simp only [PoolTable.list_any] at all
      exact (Except.ok.inj all).symm

/-- A location that a driver for disk pools offers is on the filesystem of the pool that was chosen, with a
token of the driver to write it. -/
theorem Offers.granted (disks : s.DiskOnly) (offers : Offers s pool path location) :
    ∃ filesystems fs disk token, pool.filesystems = .ok filesystems ∧
      Filesystem.choose filesystems = some fs ∧
      s.driverFor pool.type = .ok (.disk disk) ∧
      disk.token s.site.host.now (DiskDriver.physicalName fs.path path) true = .ok token ∧
      location = ⟨[(({ host := fs.server, path := DiskDriver.physicalName fs.path path } : Chunk).tag
        Chunk.tokenKey (.str token)).tag Chunk.filesystemKey (.str fs.path)]⟩ := by
  obtain ⟨u, v, node, prepares, driven, asked⟩ := offers
  obtain ⟨ready, drivers⟩ := prepares.disks disks
  obtain ⟨made, site, -⟩ := driver_eq_ok driven
  obtain ⟨-, disk, rfl⟩ := ready.disk_of_driverFor made
  rw [askDriver_query (r := .writeLocation pool path)
    (f := fun host => disk.writeLocation host.now pool path) rfl, site, prepares.host] at asked
  obtain ⟨placed, -⟩ := Action.eq_ok_of_ofExcept asked
  obtain ⟨filesystems, fs, token, readable, chosen, issued, same⟩ := DiskDriver.writeLocation_eq_ok placed
  exact ⟨filesystems, fs, disk, token, readable, chosen, (drivers pool.type).symm.trans made, issued, same⟩

theorem Offers.chosen (disks : s.DiskOnly) (offers : Offers s pool path location) :
    ∃ filesystems fs token, pool.filesystems = .ok filesystems ∧
      Filesystem.choose filesystems = some fs ∧
      location = ⟨[(({ host := fs.server, path := DiskDriver.physicalName fs.path path } : Chunk).tag
        Chunk.tokenKey (.str token)).tag Chunk.filesystemKey (.str fs.path)]⟩ := by
  obtain ⟨filesystems, fs, -, token, readable, chosen, -, -, same⟩ := offers.granted disks
  exact ⟨filesystems, fs, token, readable, chosen, same⟩

end Resolution

/-- The location is for a file on one of the filesystems of a pool, and that one accepts writes. -/
structure PoolTable.Places (t : PoolTable) (location : Location) (name : String)
    (filesystems : List Filesystem) (fs : Filesystem) : Prop where
  known : ∃ pool, t.get? name = some pool ∧ pool.filesystems = .ok filesystems
  member : fs ∈ filesystems
  accepts : fs.accepts true = true
  file : ∃ chunk path, location.chunks = [chunk] ∧ chunk.host = fs.server ∧
    chunk.path = DiskDriver.physicalName fs.path path
  on : location.isOn name filesystems fs = true

/-- The pools that the stacks look at are those of one memory factory. -/
def Office.Pooled (o : Office) (id : FactoryId) : Prop :=
  ∀ i decorators n, (o.at_ i).stack.pools = some ⟨decorators, .memory n⟩ → n = id

/-- What the deed takes off a filesystem of a pool: the size of a write that is reported with success. -/
def Deed.spent (deed : Deed) (name : String) (filesystems : List Filesystem) (fs : Filesystem) : Nat :=
  match deed.move, deed.outcome with
  | .done location size, .ok _ => if location.isOn name filesystems fs then size else 0
  | _, _ => 0

namespace Office

variable {o : Office} {id : FactoryId} {before : PoolTable}
  {spent : String → List Filesystem → Filesystem → Nat}

/-- A report that succeeds takes its size off the filesystem that its location was placed on. -/
theorem accounts_of_reported (pooled : o.Pooled id) (up : before.SetUp) {i : Nat}
    (disks : (o.at_ i).DiskOnly)
    (accounts : before.Accounts spent (o.site.manager.memory id).pools) {location : Location}
    {size : Nat} {t : OnSite} (done : Resolution.doneWriting location size (o.at_ i) = .ok () t) :
    before.Accounts (fun name filesystems fs =>
        spent name filesystems fs + if location.isOn name filesystems fs then size else 0)
      (t.site.manager.memory id).pools := by
  obtain ⟨chunk, pool, name, entry, updated, decorators, n, tells, counted, wired, stored⟩ :=
    Resolution.doneWriting_eq_ok disks done
  obtain rfl := pooled i decorators n wired
  obtain ⟨word, pooling, word_, known⟩ := tells.pooled
  have named := Attributes.text?_eq_some pooling word_
  have charged := accounts.counted up (OnSite.get?_of_pool wired known) counted
  have taken : ∀ other filesystems fs, (if location.isOn other filesystems fs then size else 0) =
      if word = other ∧ chunk.within filesystems = some fs then size else 0 := by
    intro other filesystems fs
    simp [Location.isOn_of_first tells.first, named]
  rw [stored]
  simp only [taken]
  exact charged

/-- What one move takes off is what is accounted for. -/
theorem accounts_after (pooled : o.Pooled id) (up : before.SetUp) (i : Nat)
    (disks : (o.at_ i).DiskOnly)
    (accounts : before.Accounts spent (o.site.manager.memory id).pools) (m : Move) :
    before.Accounts (fun name filesystems fs =>
        spent name filesystems fs + Deed.spent ⟨i, m, o.outcome i m⟩ name filesystems fs)
      ((o.after i m).site.manager.memory id).pools := by
  -- Where nothing is taken off, the pools are the same.
  have same : ∀ s : OnSite, (o.at_ i).SamePools s →
      before.Accounts (fun name filesystems fs => spent name filesystems fs + 0)
        (s.site.manager.memory id).pools := by
    intro s kept
    rw [kept id]
    exact accounts
  have does := m.does (o.at_ i)
  cases m with
  | read | write | cancel | access => exact same _ (does.samePools fun _ _ => not_false)
  | done location size =>
    rw [outcome_done, site_done]
    cases run : Resolution.doneWriting location size (o.at_ i) with
    | error e t =>
      rw [Action.outcome_of_error run]
      exact same t (Resolution.samePools_of_unreported _ _ _ _ _ run)
    | ok _ t =>
      rw [Action.outcome_of_ok run]
      exact accounts_of_reported pooled up disks accounts run

end Office

namespace Runs

/-- What the deeds take off a filesystem of a pool together. -/
def spent : List Deed → String → List Filesystem → Filesystem → Nat
  | [], _, _, _ => 0
  | deed :: earlier, name, filesystems, fs =>
    spent earlier name filesystems fs + deed.spent name filesystems fs

variable {start office : Office} {deeds : List Deed} {id : FactoryId} {tables : MemoryTables}

theorem pooled (run : Runs start deeds office) (pooled : start.Pooled id) : office.Pooled id :=
  fun i decorators n wired => pooled i decorators n ((run.sameChains i).pools.symm.trans wired)

/-- Move by move, the pools are those of the start, less what the deeds took off. -/
theorem accounts (run : Runs start deeds office) (disks : ∀ i, (start.at_ i).DiskOnly)
    (pooled : start.Pooled id) (up : (start.site.manager.memory id).pools.SetUp) :
    (start.site.manager.memory id).pools.Accounts (spent deeds)
      (office.site.manager.memory id).pools := by
  induction run with
  | start => exact up.accounts
  | transfer _ _ ih => exact ih
  | @move deeds o ran i m ih =>
    exact Office.accounts_after (ran.pooled pooled) up i (ran.diskOnly disks i) ih m

/-- A location that a stack was given is on a filesystem of the pools that there were at the start. -/
theorem places (run : Runs start deeds office) (disks : ∀ i, (start.at_ i).DiskOnly)
    (pooled : start.Pooled id) (up : (start.site.manager.memory id).pools.SetUp) {path : String}
    {location : Location} (issued : Issued deeds path location) :
    ∃ name filesystems fs,
      (start.site.manager.memory id).pools.Places location name filesystems fs := by
  obtain ⟨i, wrote⟩ := issued
  obtain ⟨_, o, t, ran, located⟩ := run.located_by wrote
  obtain ⟨target, listed, u, there, pool, offered, v, -, listing, -, -, member, offers, -, -, rfl⟩ :=
    Resolution.whereToWrite_eq_ok located
  obtain ⟨filesystems, fs, token, readable, chosen, rfl⟩ := offers.chosen (ran.diskOnly disks i)
  obtain ⟨decorators, n, wired, rfl⟩ := Resolution.pools_list_any_eq_ok listing
  obtain rfl := ran.pooled pooled i decorators n wired
  have accounts := ran.accounts disks pooled up
  obtain ⟨⟨name, pool⟩, entry, rfl⟩ := List.mem_map.1 member
  have known := (Table.get?_eq_some_iff accounts.ordered).2 entry
  obtain ⟨first, found, charged⟩ := accounts.found known
  obtain ⟨_, laid⟩ := up.laid found
  obtain ⟨before, same, now⟩ := charged.filesystems
  obtain rfl := Except.ok.inj (same.symm.trans laid.readable)
  obtain rfl := Except.ok.inj (now.symm.trans readable)
  obtain ⟨listed, accepts⟩ := Filesystem.mem_of_choose chosen
  obtain ⟨origin, held, rfl⟩ := List.mem_map.1 listed
  have named : (⟨name, pool⟩ : String × Pool).2.name = name := charged.name.trans (up.named found)
  refine ⟨name, before, origin, ⟨first, found, laid.readable⟩, held, accepts,
    ⟨_, target, rfl, rfl, rfl⟩, ?_⟩
  rw [← named]
  exact Location.isOn_of_recorded laid.apart held (laid.rooted _ held) rfl _ target

/-- No update is lost. At the end of a run every pool that options set up has the filesystems that it had,
less the sizes of the writes that were placed on them and reported with success, and it is otherwise as it
was. Every location that was issued is on the filesystem that the pool's driver chose for it. -/
theorem accounts_of_configured (run : Runs start deeds office)
    (disks : ∀ i, (start.at_ i).DiskOnly) (pooled : start.Pooled id)
    (configured : tables.Configured)
    (start_pools : (start.site.manager.memory id).pools = tables.pools) :
    tables.pools.Accounts (spent deeds) (office.site.manager.memory id).pools ∧
      ∀ path location, Issued deeds path location →
        ∃ name filesystems fs, tables.pools.Places location name filesystems fs := by
  have up := configured.setUp
  rw [← start_pools] at up ⊢
  exact ⟨run.accounts disks pooled up, fun _ _ issued => run.places disks pooled up issued⟩

/-- The one filesystem of the two stacks. -/
def shelved : Filesystem :=
  { server := "localhost", path := "srv/a", free := 1000, total := 1000 }

/-- The tables that options set up for the two stacks. -/
def shelving : MemoryTables :=
  { pools := Table.ofList [("disk", OnSite.diskPool "disk" "srv/a" 1000)] }

theorem configured_shelving : shelving.Configured := by
  let bare : MemoryTables :=
    { pools := Table.ofList [("disk", { name := "disk", type := DiskDriver.poolType })] }
  have typed : ({} : MemoryTables).configure "MemoryPool" "disk:filesystem" = .ok bare := rfl
  have stocked : bare.configure "MemoryFilesystem" "disk:localhost:srv/a:1:1000" = .ok shelving := rfl
  exact (MemoryTables.Configured.initial.option _ _ typed).option _ _ stocked

/-- The second stack reports a write of the file, too, and more of it. -/
def repeated : List Deed :=
  ⟨1, .done (given reported 1 "/f") 8, contended.outcome 1 (.done (given reported 1 "/f") 8)⟩ ::
    rivalry

/-- Of two reports of one file the first is charged, and the second fails. -/
theorem first_report_accounted :
    Runs pair repeated (contended.after 1 (.done (given reported 1 "/f") 8)) ∧
      (∀ i, (pair.at_ i).DiskOnly) ∧ pair.Pooled 1 ∧ shelving.Configured ∧
      (pair.site.manager.memory 1).pools = shelving.pools ∧
      (contended.outcome 1 (.done (given reported 1 "/f") 8)).toBool = false ∧
      ∃ pool, ((contended.after 1 (.done (given reported 1 "/f") 8)).site.manager.memory 1).pools.get?
          "disk" = some pool ∧
        pool.filesystems = .ok [{ shelved with free := 996 }] := by
  have run : Runs pair repeated (contended.after 1 (.done (given reported 1 "/f") 8)) :=
    ((((Runs.start.move 0 _).transfer _).move 0 _).move 1 _).move 1 _
  have disks : ∀ i, (pair.at_ i).DiskOnly := fun _ => OnSite.diskOnly_desk _ _ _ _
  have pooled : pair.Pooled 1 := by
    intro i decorators n wired
    have chain : (pair.at_ i).stack.pools = some (.single (.memory 1)) := rfl
    cases chain.symm.trans wired
    rfl
  have refused : (contended.outcome 1 (.done (given reported 1 "/f") 8)).toBool = false := by
    decide +kernel
  refine ⟨run, disks, pooled, configured_shelving, rfl, refused, ?_⟩
  obtain ⟨accounts, -⟩ := accounts_of_configured run disks pooled configured_shelving rfl
  have four : spent repeated "disk" [shelved] shelved = 4 := by decide +kernel
  have there : shelving.pools.get? "disk" = some (OnSite.diskPool "disk" "srv/a" 1000) := rfl
  have known : (OnSite.diskPool "disk" "srv/a" 1000).filesystems = .ok [shelved] :=
    Pool.filesystems_withFilesystems _ _
  have related := accounts.charged "disk"
  rw [there] at related
  generalize ((contended.after 1 (.done (given reported 1 "/f") 8)).site.manager.memory 1).pools.get?
    "disk" = found at related ⊢
  cases related with
  | @some _ pool charged =>
    obtain ⟨filesystems, before, after⟩ := charged.filesystems
    obtain rfl := Except.ok.inj (before.symm.trans known)
    rw [List.map_singleton, four] at after
    exact ⟨pool, rfl, after⟩

end Runs

end Stowage
