import Mathlib.Data.List.Nodup
import Stowage.Proofs.ReadFailures
import Stowage.Proofs.RoundTrips

/-! Which filesystem a read goes by. A row records the filesystem that it was written to, but the driver takes
the first one of the server whose path begins the path of the row as a text. That is the right one unless
another with such a path stands before it, or its own path ends in slashes that the name of the file leaves
out. In these cases the status of another filesystem decides about the replica, or none does. -/
namespace Stowage

namespace Path

/-- How many slashes the path of a filesystem ends in. -/
def slashes (root : String) : Nat :=
  (root.toList.reverse.takeWhile (· == '/')).length

theorem toList_root (root : String) :
    root.toList = bare root ++ List.replicate (slashes root) '/' := by
  have same : root.toList.reverse.takeWhile (· == '/') = List.replicate (slashes root) '/' := by
    refine List.eq_replicate_of_mem fun c member => ?_
    simpa using List.mem_takeWhile_imp member
  have whole := List.takeWhile_append_dropWhile (p := (· == '/')) (l := root.toList.reverse)
  rw [same] at whole
  have turned := congrArg List.reverse whole
  rw [List.reverse_append, List.reverse_reverse, List.reverse_replicate] at turned
  exact turned.symm

end Path

namespace DiskDriver

theorem toList_physicalName (root path : String) :
    (physicalName root path).toList = Path.bare root ++ '/' :: path.toList.dropWhile (· == '/') := by
  unfold physicalName Path.bare
  rw [String.toList_ofList]

/-- A root begins the names of its own files unless it ends in two slashes or more. -/
theorem root_prefix_iff (root path : String) :
    root.toList <+: (physicalName root path).toList ↔ Path.slashes root ≤ 1 := by
  rw [toList_physicalName, Path.toList_root, List.prefix_append_right_inj]
  match Path.slashes root with
  | 0 => simp
  | 1 => simp
  | n + 2 =>
    simp only [List.replicate_succ, List.cons_prefix_cons, true_and]
    refine ⟨fun begins => ?_, fun few => by omega⟩
    obtain ⟨rest, same⟩ := begins
    have first := List.head?_dropWhile_not (· == '/') path.toList
    rw [← same] at first
    simp at first

end DiskDriver

/-- Where the filesystem is: its server, and the path of its root there. -/
def Filesystem.place (fs : Filesystem) : String × String :=
  (fs.server, fs.path)

namespace DiskDriver

/-- The place is on the replica's server, and its path begins that of the replica as a text. -/
def MayHost (row : Replica) (place : String × String) : Prop :=
  place.1 = row.server ∧ place.2.toList <+: row.physicalPath.toList

instance (row : Replica) (place : String × String) : Decidable (MayHost row place) :=
  inferInstanceAs (Decidable (_ ∧ _))

/-- The driver has no location for the replica, because it is not available. -/
def Refuses (disk : DiskDriver) (now : Int) (pool : Pool) (row : Replica) : Prop :=
  ∃ e, disk.readLocation now pool row = .error e ∧ e.kind = .noReplicaAvailable

variable {disk : DiskDriver} {now : Int} {pool : Pool} {row : Replica} {all : List Filesystem}
  {order : List (String × String)} {own : String × String}

/-- The driver goes by the places alone. -/
theorem place_of_hosting (all : List Filesystem) (row : Replica) :
    (hosting? all row).map Filesystem.place = (all.map Filesystem.place).find? (MayHost row ·) := by
  rw [List.find?_map, hosting?]
  congr 2
  funext fs
  refine decide_eq_decide.2 ?_
  change _ ∧ fs.path.toList.isPrefixOf _ = true ↔ _ ∧ fs.path.toList <+: _
  rw [List.isPrefixOf_iff_prefix]
  rfl

/-- A replica is refused exactly if the filesystem that is taken to hold it is disabled. -/
theorem refuses_iff (read : pool.filesystems = .ok all) :
    disk.Refuses now pool row ↔ ∃ fs, hosting? all row = some fs ∧ fs.status = .disabled := by
  have disabled : ∀ fs : Filesystem, (!fs.status.allows false) = true ↔ fs.status = .disabled := by
    intro fs
    cases fs.status <;> decide
  unfold Refuses
  rw [readLocation_apply read]
  have closed := fun fs => Option.filter_eq_some_iff (o := hosting? all row) (a := fs)
    (p := (!·.status.allows false))
  simp only [disabled] at closed
  simp only [← closed]
  cases (hosting? all row).filter (!·.status.allows false) with
  | some fs => exact ⟨fun _ => ⟨fs, rfl⟩, fun _ => ⟨_, rfl, rfl⟩⟩
  | none =>
    refine ⟨?_, nofun⟩
    rintro ⟨e, failed, kind⟩
    cases issued : disk.token now row.physicalPath false with
    | ok token =>
      rw [issued] at failed
      cases failed
    | error fault =>
      rw [issued] at failed
      cases failed
      cases (kind_of_token issued).symm.trans kind

/-- In whichever state the filesystems at these places are, the driver refuses the replica exactly if the one
at the place of its own is disabled. -/
def Guards (row : Replica) (order : List (String × String)) (own : String × String) : Prop :=
  ∀ (disk : DiskDriver) (now : Int) (pool : Pool) all fs, pool.filesystems = .ok all →
    all.map Filesystem.place = order → fs ∈ all → fs.place = own →
      (disk.Refuses now pool row ↔ fs.status = .disabled)

/-- A place guards a replica exactly if it is the first that leads there. -/
theorem guards_iff (distinct : order.Nodup) (member : own ∈ order) :
    Guards row order own ↔ order.find? (MayHost row ·) = some own := by
  constructor
  · intro guards
    -- With this one disabled and all others active, the refusal shows which one is taken.
    let stated (place : String × String) : Filesystem :=
      { server := place.1, path := place.2, status := if place = own then .disabled else .active }
    let pool := ({} : Pool).withFilesystems (order.map stated)
    have read : pool.filesystems = .ok (order.map stated) := Pool.filesystems_withFilesystems _ _
    have places : (order.map stated).map Filesystem.place = order := by
      rw [List.map_map]
      exact List.map_id _
    have refused : DiskDriver.Refuses ⟨default, none⟩ 0 pool row :=
      (guards _ 0 pool _ (stated own) read places (List.mem_map_of_mem member) rfl).2 (if_pos rfl)
    obtain ⟨fs, hosted, disabled⟩ := (refuses_iff read).1 refused
    obtain ⟨place, -, rfl⟩ := List.mem_map.1 (List.mem_of_find?_eq_some hosted)
    have same : place = own := by
      by_contra other
      exact absurd disabled (by simp [stated, other])
    have found := place_of_hosting (order.map stated) row
    rw [places, hosted, same] at found
    exact found.symm
  · intro found disk now pool all fs read places here place
    have hosting := place_of_hosting all row
    rw [places, found] at hosting
    obtain ⟨first, hosted, same⟩ := Option.map_eq_some_iff.1 hosting
    have nodup : (all.map Filesystem.place).Nodup := places ▸ distinct
    have one : first = fs := List.inj_on_of_nodup_map nodup (List.mem_of_find?_eq_some hosted) here
      (same.trans place.symm)
    rw [refuses_iff read, hosted, one]
    simp

end DiskDriver

namespace Resolution

open OnSite StackM DiskDriver

variable {s t u v : OnSite} {location : Location} {path : String} {size : Nat}

/-- A row records the filesystem of the chunk that it was registered for. -/
theorem Registration.recorded (r : Registration u location) :
    r.record.attrs.get? Chunk.filesystemKey = r.chunk.attrs.get? Chunk.filesystemKey := by
  unfold Registration.record writtenReplica
  cases r.chunk.attrs.get? Chunk.filesystemKey with
  | none => rfl
  | some value => simp only [Table.get?_insert, if_true]

/-- What is written through a location is registered as a row that records its filesystem. Whatever becomes of
the filesystems of the pool, and in whichever order they stand, exactly the status of this one decides whether
the row is refused, if and only if it is the first whose path begins that of the row as a text. For a server
without a colon in its name that path is the one that was written, and the filesystem's own path begins it
unless it ends in two slashes or more. -/
theorem guarded_iff_first (disks : s.DiskOnly) (located : whereToWrite path s = .ok location t)
    (reachable : ∀ id, (u.site.namespace_ id).Reachable)
    (named : ∀ id, (u.site.manager.memory id).pools.Named)
    (done : doneWriting location size u = .ok () v) :
    ∃ (target : String) (listed : List Pool) (pool : Pool) (filesystems : List Filesystem) (fs : Filesystem)
        (chunk : Chunk) (row : Replica) (id : FactoryId),
      absolute path s = .ok target s ∧ pools (.list .any) s = .ok listed s ∧ pool ∈ listed ∧
      pool.filesystems = .ok filesystems ∧ Filesystem.choose filesystems = some fs ∧
      location.chunks = [chunk] ∧
      Reported chunk size row (Path.split target) (u.site.namespace_ id) (v.site.namespace_ id) ∧
      row.pool = pool.name ∧ row.server = fs.server ∧
      row.attrs.get? Chunk.filesystemKey = some (.str fs.path) ∧
      (∀ order : List (String × String), order.Perm (filesystems.map Filesystem.place) → order.Nodup →
        (Guards row order fs.place ↔ order.find? (MayHost row ·) = some fs.place)) ∧
      (':' ∉ fs.server.toList → row.physicalPath = physicalName fs.path target ∧
        (MayHost row fs.place ↔ Path.slashes fs.path ≤ 1)) := by
  obtain ⟨target, listed, _, -, pool, offered, _, seen, listing, -, -, among, offers, -, -, rfl⟩ :=
    whereToWrite_eq_ok located
  obtain ⟨filesystems, fs, token, read, chosen, rfl⟩ := offers.chosen disks
  obtain ⟨r, same, reported⟩ := Registration.of_done seen reachable named rfl (Chunk.text?_tag _ _ _) done
  have member := (Filesystem.mem_of_choose chosen).1
  refine ⟨target, listed, pool, filesystems, fs, _, _, r.id, seen, listing, among, read, chosen, rfl, reported,
    ?_, reported.server, ?_, fun order perm distinct => ?_, fun clean => ?_⟩
  · have pooled := reported.pooled
    rw [Chunk.text?_tag_of_ne _ (by decide), Chunk.text?_tag] at pooled
    exact (Option.some.inj pooled).symm
  · refine r.recorded.trans ?_
    rw [same]
    unfold Chunk.tag
    rw [Table.get?_insert, if_neg (by decide), Table.get?_insert, if_neg (by decide), Table.get?_insert,
      if_pos rfl]
  · exact guards_iff distinct (perm.mem_iff.2 (List.mem_map_of_mem member))
  · have written := physicalPath_of_wrote clean reported.name
    refine ⟨written, ?_⟩
    rw [MayHost, written, ← root_prefix_iff fs.path target]
    exact and_iff_right reported.server.symm

/-- Two filesystems of one server, where the path of the first begins that of the second. -/
def adjoiningRoots (first second : FilesystemStatus) : List Filesystem :=
  [{ server := "localhost", path := "srv/a", free := 100, total := 100, status := first },
    { server := "localhost", path := "srv/ab", free := 1000, total := 1000, status := second }]

def adjoiningPool (first second : FilesystemStatus) : Pool :=
  ({ name := "disk", type := DiskDriver.poolType } : Pool).withFilesystems (adjoiningRoots first second)

theorem filesystems_adjoiningPool (first second : FilesystemStatus) :
    (adjoiningPool first second).filesystems = .ok (adjoiningRoots first second) :=
  Pool.filesystems_withFilesystems _ _

/-- What lies in the second one is taken to lie in the first. -/
theorem hosting_adjoiningRoots {row : Replica} (server : row.server = "localhost")
    (file : row.physicalPath = "srv/ab/mine") (first second : FilesystemStatus) :
    hosting? (adjoiningRoots first second) row =
      some { server := "localhost", path := "srv/a", free := 100, total := 100, status := first } := by
  have begins : startsWith row.physicalPath "srv/a" = true := by
    rw [file]
    decide
  exact List.find?_cons_of_pos (decide_eq_true ⟨server.symm, begins⟩)

def adjoining : OnSite :=
  desk .root ReplicaRights.neighbours (Table.ofList [("disk", adjoiningPool .active .active)]) .initial

theorem named_adjoining (id : FactoryId) : (adjoining.site.manager.memory id).pools.Named := by
  have none_ : PoolTable.Named ∅ := nofun
  match id with
  | 1 => exact none_.insert (adjoiningPool .active .active)
  | 0 | 2 | _ + 3 => exact none_

/-- A file that was there is written and reported. -/
theorem exists_adjoining :
    ∃ location t v, whereToWrite "/mine" adjoining = .ok location t ∧
      doneWriting location 4 adjoining = .ok () v := by
  have ran : (match whereToWrite "/mine" adjoining with
      | .ok location _ => ((doneWriting location 4).outcome adjoining).1.toBool
      | .error .. => false) = true := by
    decide +kernel
  cases located : whereToWrite "/mine" adjoining with
  | error e t =>
    rw [located] at ran
    cases ran
  | ok location t =>
    rw [located] at ran
    dsimp only at ran
    cases done : doneWriting location 4 adjoining with
    | error e v =>
      rw [Action.outcome_of_error done] at ran
      cases ran
    | ok _ v => exact ⟨location, t, v, rfl, done⟩

/-- What is written to the second filesystem is refused while the first one is out of service, and is not
refused while its own is. -/
theorem blocked_by_neighbour :
    ∃ location t v row id, whereToWrite "/mine" adjoining = .ok location t ∧
      doneWriting location 4 adjoining = .ok () v ∧
      (v.site.namespace_ id).replicas.get? row.id = some row ∧
      row.attrs.get? Chunk.filesystemKey = some (.str "srv/ab") ∧
      ¬ Guards row [("localhost", "srv/a"), ("localhost", "srv/ab")] ("localhost", "srv/ab") ∧
      (∀ disk now, Refuses disk now (adjoiningPool .disabled .active) row) ∧
      ∀ disk now, ¬ Refuses disk now (adjoiningPool .active .disabled) row := by
  have reachable : ReplicaRights.neighbours.Reachable :=
    Namespace.Reachable.initial.run (by decide +kernel)
  obtain ⟨location, t, v, located, done⟩ := exists_adjoining
  obtain ⟨target, listed, pool, filesystems, fs, chunk, row, id, seen, listing, among, read, chosen, -,
      reported, -, server, recorded, guards, written⟩ :=
    guarded_iff_first (diskOnly_desk _ _ _ _) located (reachable_desk _ _ _ reachable) named_adjoining done
  have one : pools (.list .any) adjoining = .ok [adjoiningPool .active .active] adjoining := rfl
  cases one.symm.trans listing
  obtain rfl := List.mem_singleton.1 among
  cases (filesystems_adjoiningPool _ _).symm.trans read
  cases chosen
  cases (absolute_apply (browses_desk _ _ _ _) "/mine").symm.trans seen
  have file : row.physicalPath = "srv/ab/mine" := (written (by decide)).1.trans (by decide +kernel)
  have hosted := hosting_adjoiningRoots server file
  have stored : (v.site.namespace_ id).replicas.get? row.id = some row := by
    rw [reported.added, Table.get?_insert, if_pos rfl]
  refine ⟨location, t, v, row, id, located, done, stored, recorded, fun guarded => ?_, fun disk now => ?_,
    fun disk now => ?_⟩
  · have first := (guards _ (.refl _) (by decide)).1 guarded
    rw [← place_of_hosting (adjoiningRoots .active .active), hosted] at first
    revert first
    decide
  · rw [refuses_iff (filesystems_adjoiningPool _ _), hosted]
    exact ⟨_, rfl, rfl⟩
  · rw [refuses_iff (filesystems_adjoiningPool _ _), hosted]
    rintro ⟨_, same, disabled⟩
    cases same
    cases disabled

end Resolution
end Stowage
