import Stowage.Proofs.Removal
import Stowage.Proofs.Sessions

/-! What giving up a write does to files. The driver removes the file that the location names, whoever it
belongs to: a replica that was reported under the same physical name in the meantime loses its data.
Nothing else is lost, and every row that can be hit was registered at the start or reported by one of
the stacks. -/
namespace Stowage

namespace Chunk

theorem str_tag (chunk : Chunk) (key word default : String) :
    (chunk.tag key (.str word)).attrs.str key default = .ok word := by
  unfold tag Attributes.str
  rw [Table.get?_insert, if_pos rfl]
  rfl

theorem str_tag_of_ne (chunk : Chunk) {key other : String} (ne : key ≠ other) (value : Json)
    (default : String) :
    (chunk.tag other value).attrs.str key default = chunk.attrs.str key default := by
  unfold tag Attributes.str
  rw [Table.get?_insert, if_neg ne]

end Chunk

namespace FileTree

/-- When the files of the chunks are removed in order, one of them is the file that the name leads to. -/
inductive Loses (name : String) : FileTree → List Chunk → Prop where
  | here {t : FileTree} {chunk : Chunk} (rest : List Chunk) (same : t.SameFile chunk.path name) :
      Loses name t (chunk :: rest)
  | later {t after : FileTree} {chunk : Chunk} {rest : List Chunk}
      (taken : t.removeFile chunk.path = .ok after) (loses : Loses name after rest) :
      Loses name t (chunk :: rest)
  | missing {t : FileTree} {chunk : Chunk} {rest : List Chunk}
      (absent : t.removeFile chunk.path = .error .noEntry) (loses : Loses name t rest) :
      Loses name t (chunk :: rest)

/-- The file that the name led to is gone if it was lost, and otherwise it has the bytes that it had. -/
def Settles (after : FileTree) (name : String) (bytes : List UInt8) (lost : Prop) : Prop :=
  lost ∧ after.read name = .error .noEntry ∨ ¬ lost ∧ after.read name = .ok bytes

variable {t after : FileTree} {name : String} {bytes : List UInt8} {chunk : Chunk}
  {rest : List Chunk}

theorem Settles.congr {lost lost' : Prop} (settles : after.Settles name bytes lost)
    (same : lost ↔ lost') : after.Settles name bytes lost' := by
  unfold Settles at settles ⊢
  rwa [← same]

theorem SameFile.removable {other : String} (same : t.SameFile other name) :
    ∃ after, t.removeFile other = .ok after := by
  obtain ⟨key, id, leads, -⟩ := same
  exact ⟨_, removeFile_eq_ok_iff.2 ⟨key, id, leads, rfl⟩⟩

theorem loses_of_taken (taken : t.removeFile chunk.path = .ok after)
    (other : ¬ t.SameFile chunk.path name) : Loses name after rest ↔ Loses name t (chunk :: rest) := by
  constructor
  · exact .later taken
  · intro loses
    cases loses with
    | here _ same => exact absurd same other
    | later again loses =>
      cases taken.symm.trans again
      exact loses
    | missing absent _ => cases taken.symm.trans absent

theorem loses_of_refused {fault : FileFault} (refused : t.removeFile chunk.path = .error fault) :
    fault = .noEntry ∧ Loses name t rest ↔ Loses name t (chunk :: rest) := by
  constructor
  · rintro ⟨rfl, loses⟩
    exact .missing refused loses
  · intro loses
    cases loses with
    | here _ same =>
      obtain ⟨after, taken⟩ := same.removable
      cases refused.symm.trans taken
    | later taken _ => cases refused.symm.trans taken
    | missing absent loses =>
      cases refused.symm.trans absent
      exact ⟨rfl, loses⟩

end FileTree

namespace DiskDriver

variable {name : String} {bytes : List UInt8} {host next : Host} {chunk : Chunk}

/-- The host after the files of the chunks have been removed, up to the first that cannot be. -/
def clear (host : Host) (chunks : List Chunk) : Host :=
  ((removeChunks chunks).outcome host).2

theorem clear_of_removed (removed : host.removeFile chunk.path = .ok next) (rest : List Chunk) :
    clear host (chunk :: rest) = clear next rest := by
  unfold clear
  rw [removeChunks, Action.outcome_bind_of_ok]
  unfold Action.update
  simp only [removed]
  rfl

theorem clear_of_refused {e : Error} (refused : host.removeFile chunk.path = .error e)
    (rest : List Chunk) : clear host (chunk :: rest) = host := by
  have failed : removeChunks (chunk :: rest) host = .error e host := by
    rw [removeChunks]
    apply Action.bind_of_error
    unfold Action.update
    simp only [refused]
    rfl
  exact congrArg Prod.snd (Action.outcome_of_error failed)

/-- What is missing is missing afterwards. -/
theorem read_clear_missing (chunks : List Chunk)
    (missing : host.files.read name = .error .noEntry) :
    (clear host chunks).files.read name = .error .noEntry := by
  induction chunks generalizing host with
  | nil => exact missing
  | cons chunk rest ih =>
    rcases host.removeFile_cases chunk.path with ⟨files, taken, removed⟩ | ⟨-, passed⟩ |
      ⟨_, _, -, -, refused⟩
    · rw [clear_of_removed removed]
      exact ih (FileTree.read_missing taken missing)
    · rw [clear_of_removed passed]
      exact ih missing
    · rwa [clear_of_refused refused]

/-- A file is gone afterwards exactly if it was removed under one of its names. -/
theorem settles_clear (chunks : List Chunk) (stored : host.files.read name = .ok bytes) :
    (clear host chunks).files.Settles name bytes (host.files.Loses name chunks) := by
  induction chunks generalizing host with
  | nil => exact .inr ⟨nofun, stored⟩
  | cons chunk rest ih =>
    rcases host.removeFile_cases chunk.path with ⟨files, taken, removed⟩ | ⟨absent, passed⟩ |
      ⟨fault, _, failed, present, refused⟩
    · rw [clear_of_removed removed]
      -- A file that is gone stays gone, and one that is kept is the next removal's concern.
      rcases FileTree.read_removed taken stored with ⟨same, lost⟩ | ⟨other, kept⟩
      · exact .inl ⟨.here rest same, read_clear_missing rest lost⟩
      · exact (ih kept).congr (FileTree.loses_of_taken taken other)
    · rw [clear_of_removed passed]
      exact (ih stored).congr (by simp [← FileTree.loses_of_refused absent])
    · rw [clear_of_refused refused]
      exact .inr ⟨fun loses => present ((FileTree.loses_of_refused failed).2 loses).1, stored⟩

end DiskDriver

namespace StackM

/-- A disk driver that is told of a write that is given up removes the files of its chunks. -/
theorem host_cancel (disk : DiskDriver) (pool : Pool) (location : Location) (s : OnSite) :
    ((askDriver (.disk disk) (.cancelWrite pool location)).outcome s).2.site.host =
      DiskDriver.clear s.site.host location.chunks := by
  rw [state_askDriver]
  rfl

end StackM

namespace Resolution

open OnSite

variable {s : OnSite} {location : Location} {name : String} {bytes : List UInt8}

/-- The pool is known, and it is a disk driver that serves it. -/
def OnDisk (s : OnSite) (poolName : String) : Prop :=
  ∃ pool disk, s.pool poolName = .ok pool ∧ s.driverFor pool.type = .ok (.disk disk)

theorem OnDisk.driver {poolName : String} {pool : Pool} (served : OnDisk s poolName)
    (known : s.pool poolName = .ok pool) : ∃ disk, s.driverFor pool.type = .ok (.disk disk) := by
  obtain ⟨found, disk, again, made⟩ := served
  cases known.symm.trans again
  exact ⟨disk, made⟩

/-- What becomes of a file when a location is given back to its pool. -/
theorem settles_giveBack (location : Location) (poolName : String)
    (stored : s.site.host.files.read name = .ok bytes) :
    ((giveBack poolName location).outcome s).2.site.host.files.Settles name bytes
      (OnDisk s poolName ∧ s.site.host.files.Loses name location.chunks) := by
  have untouched : ¬ OnDisk s poolName → s.site.host.files.Settles name bytes
      (OnDisk s poolName ∧ s.site.host.files.Loses name location.chunks) :=
    fun unserved => .inr ⟨fun lost => unserved lost.1, stored⟩
  cases known : s.pool poolName with
  | error e =>
    have failed : giveBack poolName location s = .error e s := by
      apply Action.bind_of_error
      rw [StackM.pools_get_apply, known]
      rfl
    rw [Action.outcome_of_error failed]
    apply untouched
    rintro ⟨pool, disk, found, -⟩
    cases known.symm.trans found
  | ok pool =>
    have got : StackM.pools (.get poolName) s = .ok pool s := by
      rw [StackM.pools_get_apply, known]
      rfl
    unfold giveBack
    rw [Action.outcome_bind_of_ok got]
    cases ran : StackM.driver pool.type s with
    | error e t =>
      obtain ⟨lost, rfl⟩ := StackM.driver_eq_error ran
      rw [Action.outcome_of_error (Action.bind_of_error ran)]
      apply untouched
      intro served
      obtain ⟨disk, made⟩ := served.driver known
      cases lost.symm.trans made
    | ok node u =>
      obtain ⟨made, site, -⟩ := StackM.driver_eq_ok ran
      rw [Action.outcome_bind_of_ok ran]
      cases node with
      | plain driver =>
        have reads := StackM.reads_askPlain driver (.cancelWrite pool location)
        rw [reads.state_eq, site]
        apply untouched
        intro served
        obtain ⟨disk, other⟩ := served.driver known
        cases made.symm.trans other
      | disk disk =>
        rw [StackM.host_cancel, site]
        have served : OnDisk s poolName := ⟨pool, disk, known, made⟩
        exact (DiskDriver.settles_clear location.chunks stored).congr (by simp [served])

/-- Dropping an entry is nothing to files. -/
theorem host_dropEntry (word : String) (s : OnSite) :
    ((dropEntry word).outcome s).2.site.host = s.site.host := by
  have does : Action.Keeps (Does fun e => ∀ host, e ≠ .machine host) (dropEntry word) :=
    does_dropEntry word fun _ _ _ => nofun
  exact (does s).site.host_eq fun host still => still host rfl

/-- The write is given back to the pool that it was issued for, and the file that the name leads to is
removed with it. -/
def Takes (s : OnSite) (location : Location) (name : String) : Prop :=
  ∃ chunk poolName, location.first = .ok chunk ∧ chunk.attrs.str Chunk.poolKey "" = .ok poolName ∧
    OnDisk s poolName ∧ s.site.host.files.Loses name location.chunks

/-- The location tells its pool and its file, if it tells anything. -/
def Tagged (location : Location) : Prop :=
  ∀ chunk, location.first = .ok chunk → ∃ poolName word,
    chunk.attrs.str Chunk.poolKey "" = .ok poolName ∧ chunk.attrs.str Chunk.nameKey "" = .ok word

theorem tagged_tag (placed : Location) (poolName word : String) :
    Tagged ((placed.tag Chunk.poolKey (.str poolName)).tag Chunk.nameKey (.str word)) := by
  intro chunk first
  obtain ⟨chunks⟩ := placed
  cases chunks with
  | nil => cases first
  | cons head rest =>
    cases first
    have other : Chunk.poolKey ≠ Chunk.nameKey := by decide
    exact ⟨poolName, word, by rw [Chunk.str_tag_of_ne _ other, Chunk.str_tag], Chunk.str_tag ..⟩

/-- A location that is issued was given its pool and its file at the end. -/
theorem tagged_of_located {path : String} {t : OnSite}
    (located : whereToWrite path s = .ok location t) : Tagged location := by
  obtain ⟨target, _, _, _, pool, offered, _, -, -, -, -, -, -, -, -, rfl⟩ :=
    whereToWrite_eq_ok located
  exact tagged_tag offered pool.name target

/-- A write that is given up loses what the driver removes, and nothing else. -/
theorem settles_cancelWrite (tagged : Tagged location)
    (stored : s.site.host.files.read name = .ok bytes) :
    ((cancelWrite location).outcome s).2.site.host.files.Settles name bytes
      (Takes s location name) := by
  cases first : location.first with
  | error e =>
    have failed : cancelWrite location s = .error e s := by
      apply Action.bind_of_error
      rw [first]
      rfl
    rw [Action.outcome_of_error failed]
    refine .inr ⟨?_, stored⟩
    rintro ⟨chunk, _, found, -⟩
    cases first.symm.trans found
  | ok chunk =>
    obtain ⟨poolName, word, pooled, named⟩ := tagged chunk first
    have given := settles_giveBack location poolName stored
    have takes : OnDisk s poolName ∧ s.site.host.files.Loses name location.chunks ↔
        Takes s location name := by
      constructor
      · rintro ⟨served, loses⟩
        exact ⟨chunk, poolName, first, pooled, served, loses⟩
      · rintro ⟨chunk', poolName', first', pooled', served, loses⟩
        cases first.symm.trans first'
        cases pooled.symm.trans pooled'
        exact ⟨served, loses⟩
    have same : ((cancelWrite location).outcome s).2.site.host =
        ((giveBack poolName location).outcome s).2.site.host := by
      unfold Action.outcome
      rw [cancelWrite_eq first pooled named]
      cases ran : giveBack poolName location s with
      | error e t => rw [Action.bind_of_error ran]
      | ok _ t =>
        rw [Action.bind_of_ok ran]
        exact host_dropEntry word t
    rw [same]
    exact given.congr takes

end Resolution

namespace Runs

variable {start office : Office} {deeds : List Deed} {path : String} {location : Location}
  {id : FactoryId} {row : Replica} {bytes : List UInt8}

/-- When a stack gives up a location that was issued, a replica that is registered loses its data if
the driver removes the file under its physical name, and only then. The replica was registered at the
start, or a stack has reported it in the meantime. -/
theorem settles_of_cancelled (run : Runs start deeds office) (issued : Issued deeds path location)
    (registered : office.site.Registers id row)
    (stored : office.site.host.files.read row.physicalPath = .ok bytes) (i : Nat) :
    (office.after i (.cancel location)).site.host.files.Settles row.physicalPath bytes
        (Resolution.Takes (office.at_ i) location row.physicalPath) ∧
      (start.site.Registers id row ∨ ∃ deed ∈ deeds, deed.Reports row) := by
  obtain ⟨s, t, located⟩ := run.located issued
  have settles := Resolution.settles_cancelWrite (s := office.at_ i)
    (Resolution.tagged_of_located located) stored
  refine ⟨?_, run.registered registered⟩
  have same : (office.after i (.cancel location)).site =
      ((Resolution.cancelWrite location).outcome (office.at_ i)).2.site := by
    exact congrArg OnSite.site (Action.state_bind_of_reads _ (fun _ => Action.reads_pure _) _)
  rw [same]
  exact settles

/-- Two stacks of root's on a site with one pool. -/
def pair : Office :=
  let one := OnSite.desk .root .initial
    (Table.ofList [("disk", OnSite.diskPool "disk" "srv/a" 1000)]) .initial
  ⟨one.site, fun _ => one.stack⟩

/-- The location that a stack is given to write a path to. -/
def given (o : Office) (i : Nat) (path : String) : Location :=
  match o.outcome i (.write path) with
  | .ok (some location) => location
  | _ => {}

theorem outcome_of_given {o : Office} {i : Nat}
    (answered : (match o.outcome i (.write path) with
      | .ok (some _) => true
      | _ => false) = true) : o.outcome i (.write path) = .ok (some (given o i path)) := by
  unfold given
  cases told : o.outcome i (.write path) with
  | error e =>
    rw [told] at answered
    cases answered
  | ok answer =>
    cases answer with
    | none =>
      rw [told] at answered
      cases answered
    | some location => rfl

/-- The file is written through the location that the one stack was given, and reported. -/
def reported : Office :=
  ((pair.after 0 (.write "/f")).onHost { files := Removal.shelf }).after 0
    (.done (given pair 0 "/f") 4)

/-- The other stack is given a location for the same file, too. -/
def contended : Office :=
  reported.after 1 (.write "/f")

/-- The deeds of the two stacks. -/
def rivalry : List Deed :=
  [⟨1, .write "/f", reported.outcome 1 (.write "/f")⟩,
    ⟨0, .done (given pair 0 "/f") 4,
      ((pair.after 0 (.write "/f")).onHost { files := Removal.shelf }).outcome 0
        (.done (given pair 0 "/f") 4)⟩,
    ⟨0, .write "/f", pair.outcome 0 (.write "/f")⟩]

/-- One stack gives its write up, and the replica that the other has reported loses its data. -/
theorem data_lost_by_cancelling :
    Runs pair rivalry contended ∧ Issued rivalry "/f" (given reported 1 "/f") ∧
      ∃ row, contended.site.Registers 1 row ∧ row.status = .available ∧
        (∃ bytes, contended.site.host.files.read row.physicalPath = .ok bytes) ∧
        (contended.after 1 (.cancel (given reported 1 "/f"))).site.host.files.read
          row.physicalPath = .error .noEntry := by
  have run : Runs pair rivalry contended :=
    (((Runs.start.move 0 _).transfer _).move 0 _).move 1 _
  have issued : Issued rivalry "/f" (given reported 1 "/f") := by
    have told : reported.outcome 1 (.write "/f") = .ok (some (given reported 1 "/f")) :=
      outcome_of_given (by decide +kernel)
    exact ⟨1, told ▸ List.mem_cons_self⟩
  refine ⟨run, issued, ?_⟩
  have rows : (contended.site.namespace_ 1).replicas.values.map
      (fun row => (row.physicalPath, row.status)) = [("srv/a/f", .available)] := by
    decide +kernel
  cases listed : (contended.site.namespace_ 1).replicas.values with
  | nil =>
    rw [listed] at rows
    cases rows
  | cons row rest =>
    rw [listed] at rows
    obtain ⟨file, available⟩ := Prod.mk.inj (List.cons.inj rows).1
    have registered : contended.site.Registers 1 row := by
      unfold Site.Registers
      rw [listed]
      exact List.mem_cons_self
    have readable : (contended.site.host.files.read "srv/a/f").toBool = true := by decide +kernel
    have lost : ((contended.after 1 (.cancel (given reported 1 "/f"))).site.host.files.read
        "srv/a/f").toBool = false := by
      decide +kernel
    rw [← file] at readable lost
    cases stored : contended.site.host.files.read row.physicalPath with
    | error fault =>
      rw [stored] at readable
      cases readable
    | ok bytes =>
      refine ⟨row, registered, available, ⟨bytes, stored⟩, ?_⟩
      obtain ⟨⟨-, gone⟩ | ⟨-, kept⟩, -⟩ := settles_of_cancelled run issued registered stored 1
      · exact gone
      · rw [kept] at lost
        cases lost

end Runs
end Stowage
