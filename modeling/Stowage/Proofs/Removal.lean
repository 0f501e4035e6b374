import Stowage.Proofs.CleanFailures
import Stowage.Proofs.FileNames
import Stowage.Proofs.NormalForms
import Stowage.Proofs.WriteAuthority

/-! What a failed removal leaves behind. The data of a replica is removed first and its record then, and
only the record is guarded: the catalog can still refuse when the file is gone. A failed removal never
changes the catalog, and it leaves the files alone exactly if the driver did not find the data. -/
namespace Stowage

namespace Removal

open Resolution

/-- The driver finds the data of the replica and removes it: the pool is known, it is a disk pool, and
the file system takes the name away. -/
def TakesData (s : OnSite) (record : Replica) : Prop :=
  s.stack.catalog.isSome ∧ ∃ pool disk files, s.pool record.pool = .ok pool ∧
    s.driverFor pool.type = .ok (.disk disk) ∧
    s.site.host.files.removeFile record.physicalPath = .ok files

variable {s t : OnSite} {path : String} {record : Replica}

/-- A stack that cannot make a path absolute has no catalog. -/
theorem absolute_eq_error {e : Error} (failed : absolute path s = .error e t) :
    s.stack.catalog.isSome = false := by
  refine Bool.eq_false_iff.2 fun there => ?_
  cases failed.symm.trans (absolute_eq_ok_iff.2 ⟨there, rfl, rfl⟩)

/-- What the driver of a disk pool does with the data of a replica. -/
theorem askDriver_remove (disk : DiskDriver) (pool : Pool) :
    StackM.askDriver (.disk disk) (.remove pool path record) s =
      match s.site.host.removeFile record.physicalPath with
      | .ok host => .ok () { s with site := { s.site with host } }
      | .error e => .error e s := by
  rw [StackM.askDriver_apply]
  unfold DriverNode.handler DiskDriver.handler Action.update
  cases removed : s.site.host.removeFile record.physicalPath with
  | ok host => simp [removed, bind, Except.bind, pure, Except.pure]
  | error e => simp [removed, bind, Except.bind]

/-- The driver finds a file under the name of the replica and takes the name away. -/
def TakesFile (node : DriverNode) (s : OnSite) (record : Replica) (files : FileTree) : Prop :=
  (∃ disk, node = .disk disk) ∧ s.site.host.files.removeFile record.physicalPath = .ok files

/-- A driver that is done with the data of a replica has taken the file, or has changed nothing. -/
theorem remove_eq_ok {node : DriverNode} {pool : Pool}
    (done : StackM.askDriver node (.remove pool path record) s = .ok () t) :
    t.stack = s.stack ∧ t.site.manager = s.site.manager ∧
      (TakesFile node s record t.site.host.files ∨
        t.site.host = s.site.host ∧ ∀ files, ¬ TakesFile node s record files) := by
  cases node with
  | plain driver =>
    obtain rfl := (StackM.reads_askPlain driver _).of_ok done
    exact ⟨rfl, rfl, .inr ⟨rfl, fun files ⟨⟨_, other⟩, _⟩ => nomatch other⟩⟩
  | disk disk =>
    rw [askDriver_remove] at done
    rcases s.site.host.removeFile_cases record.physicalPath with ⟨files, taken, removed⟩ |
      ⟨absent, passed⟩ | ⟨_, _, -, -, refused⟩
    · rw [removed] at done
      cases done
      exact ⟨rfl, rfl, .inl ⟨⟨disk, rfl⟩, taken⟩⟩
    · rw [passed] at done
      cases done
      refine ⟨rfl, rfl, .inr ⟨rfl, ?_⟩⟩
      rintro files ⟨-, taken⟩
      rw [absent] at taken
      cases taken
    · rw [refused] at done
      cases done

/-- A driver that fails has not taken the file. -/
theorem remove_eq_error {node : DriverNode} {pool : Pool} {e : Error}
    (failed : StackM.askDriver node (.remove pool path record) s = .error e t) :
    t = s ∧ ∀ files, ¬ TakesFile node s record files := by
  cases node with
  | plain driver =>
    exact ⟨(StackM.reads_askPlain driver _).of_error failed,
      fun files ⟨⟨_, other⟩, _⟩ => nomatch other⟩
  | disk disk =>
    rw [askDriver_remove] at failed
    rcases s.site.host.removeFile_cases record.physicalPath with ⟨_, -, removed⟩ | ⟨-, passed⟩ |
      ⟨_, _, fault, -, refused⟩
    · rw [removed] at failed
      cases failed
    · rw [passed] at failed
      cases failed
    · rw [refused] at failed
      cases failed
      refine ⟨rfl, ?_⟩
      rintro files ⟨-, taken⟩
      rw [fault] at taken
      cases taken

/-- What a failed removal leaves: the catalog as it was and, if the driver did not take the data, all
files as they were. Data that it took was there to be read, and is not any more. -/
structure Leaves (s t : OnSite) (record : Replica) : Prop where
  tables : t.site.manager = s.site.manager
  catalog : t.stack.catalog = s.stack.catalog
  taken : TakesData s record →
    (∃ bytes, s.site.host.files.read record.physicalPath = .ok bytes) ∧
      t.site.host.files.read record.physicalPath = .error .noEntry
  spared : ¬ TakesData s record → t.site.host = s.site.host

theorem leaves_same (spared : ¬ TakesData s record) : Leaves s s record :=
  ⟨rfl, rfl, fun taken => absurd taken spared, fun _ => rfl⟩

/-- Once there is a driver, a failure comes from it, and then nothing has changed, or from the catalog
behind it, and then the file may be gone. -/
theorem leaves_of_driven {node : DriverNode} {pool : Pool} {u : OnSite} {e : Error}
    (takes : TakesData s record ↔ ∃ files, TakesFile node u record files)
    (site : u.site = s.site) (catalog : u.stack.catalog = s.stack.catalog)
    (failed : (StackM.askDriver node (.remove pool path record) >>= fun _ =>
      StackM.catalog (.deleteReplica record)) u = .error e t) : Leaves s t record := by
  rcases Action.bind_eq_error_iff.1 failed with refused | ⟨_, v, removed, denied⟩
  · obtain ⟨rfl, spared⟩ := remove_eq_error refused
    have not_taken : ¬ TakesData s record := fun taken => by
      obtain ⟨files, file⟩ := takes.1 taken
      exact spared files file
    refine ⟨congrArg Site.manager site, catalog, fun taken => absurd taken not_taken, fun _ => ?_⟩
    rw [site]
  · obtain rfl := StackM.failsClean_catalog _ _ _ _ denied
    obtain ⟨stack, manager, file | ⟨host, spared⟩⟩ := remove_eq_ok removed
    · refine ⟨manager.trans (congrArg Site.manager site), ?_, fun _ => ?_, fun spared => ?_⟩
      · rw [stack, catalog]
      · rw [← site]
        exact FileTree.read_of_removeFile file.2
      · exact absurd (takes.2 ⟨_, file⟩) spared
    · refine ⟨manager.trans (congrArg Site.manager site), ?_, fun taken => ?_, fun _ => ?_⟩
      · rw [stack, catalog]
      · obtain ⟨files, file⟩ := takes.1 taken
        exact absurd file (spared files)
      · rw [host, site]

/-- A removal that fails has changed nothing, or has taken the data away before it failed. -/
theorem leaves_of_failed {e : Error} (failed : removeReplica path record s = .error e t) :
    Leaves s t record := by
  unfold removeReplica at failed
  rcases Action.bind_eq_error_iff.1 failed with unseen | ⟨target, _, seen, found⟩
  · obtain rfl := (reads_absolute path).of_error unseen
    apply leaves_same
    rintro ⟨wired, -⟩
    rw [absolute_eq_error unseen] at wired
    cases wired
  obtain rfl := ((reads_absolute path).of_ok seen).symm
  rcases Action.bind_eq_error_iff.1 found with unknown | ⟨pool, _, got, served⟩
  · rw [StackM.pools_get_apply] at unknown
    obtain ⟨lost, rfl⟩ := Action.eq_error_of_ofExcept unknown
    apply leaves_same
    rintro ⟨-, pool, disk, files, known, -⟩
    rw [lost] at known
    cases known
  rw [StackM.pools_get_apply] at got
  obtain ⟨known, same⟩ := Action.eq_ok_of_ofExcept got
  obtain rfl := same.symm
  rcases Action.bind_eq_error_iff.1 served with unserved | ⟨node, u, driven, asked⟩
  · obtain ⟨lost, rfl⟩ := StackM.driver_eq_error unserved
    apply leaves_same
    rintro ⟨-, other, disk, files, again, made, -⟩
    obtain rfl := Except.ok.inj (known.symm.trans again)
    rw [lost] at made
    cases made
  obtain ⟨made, site, catalog⟩ := StackM.driver_eq_ok driven
  -- The driver takes the file exactly if the data can be taken.
  have takes : TakesData s record ↔ ∃ files, TakesFile node u record files := by
    unfold TakesFile
    rw [site]
    constructor
    · rintro ⟨-, other, disk, files, again, named, removed⟩
      obtain rfl := Except.ok.inj (known.symm.trans again)
      obtain rfl := Except.ok.inj (made.symm.trans named)
      exact ⟨files, ⟨disk, rfl⟩, removed⟩
    · rintro ⟨files, ⟨disk, rfl⟩, removed⟩
      exact ⟨(absolute_eq_ok_iff.1 seen).1, pool, disk, files, known, made, removed⟩
  exact leaves_of_driven takes site catalog asked

/-- Tables, catalog and files are as they were; files count by their names and bytes. -/
def Unchanged (s t : OnSite) : Prop :=
  t.site.manager = s.site.manager ∧ t.stack.catalog = s.stack.catalog ∧
    ∀ name, t.site.host.files.read name = s.site.host.files.read name

/-- A failed removal leaves everything in place exactly if the driver did not take the data. -/
theorem unchanged_iff_of_failed {e : Error} (failed : removeReplica path record s = .error e t) :
    Unchanged s t ↔ ¬ TakesData s record := by
  have leaves := leaves_of_failed failed
  constructor
  · rintro ⟨-, -, same⟩ taken
    obtain ⟨⟨bytes, before⟩, after⟩ := leaves.taken taken
    rw [same, before] at after
    cases after
  · intro spared
    refine ⟨leaves.tables, leaves.catalog, fun name => ?_⟩
    rw [leaves.spared spared]

/-- The files of a machine with the data of one replica. -/
def shelf : FileTree :=
  match FileTree.initial.makeDirectory "srv" >>= (·.makeDirectory "srv/a") >>=
      (·.write "srv/a/f" "data".toUTF8.toList) with
  | .ok files => files
  | .error _ => .initial

/-- The record of that replica. -/
def shelved : Replica where
  id := 1
  file := 2
  pool := "disk"
  server := "localhost"
  rfn := "localhost:srv/a/f"

/-- The stack of an identity that may only read the file of the replica. -/
def reader : OnSite :=
  OnSite.desk ReplicaRights.alice ReplicaRights.neighbours
    (Table.ofList [("disk", OnSite.diskPool "disk" "srv/a" 1000)]) shelf

/-- The catalog refuses to remove a replica whose data is gone by then. -/
theorem data_gone_after_refusal :
    ∃ e t, removeReplica "/f" shelved reader = .error e t ∧ e.kind = .permissionDenied ∧
      ¬ Unchanged reader t := by
  have refused : (match removeReplica "/f" shelved reader with
      | .ok _ _ => false
      | .error e _ => decide (e.kind = .permissionDenied)) = true := by
    decide +kernel
  cases run : removeReplica "/f" shelved reader with
  | ok a t =>
    rw [run] at refused
    cases refused
  | error e t =>
    rw [run] at refused
    refine ⟨e, t, rfl, of_decide_eq_true refused, ?_⟩
    rw [unchanged_iff_of_failed run, Classical.not_not]
    have removable : (reader.site.host.files.removeFile shelved.physicalPath).toBool = true := by
      decide +kernel
    cases removed : reader.site.host.files.removeFile shelved.physicalPath with
    | error fault =>
      rw [removed] at removable
      cases removable
    | ok files => exact ⟨rfl, _, _, files, rfl, rfl, removed⟩

end Removal

end Stowage
