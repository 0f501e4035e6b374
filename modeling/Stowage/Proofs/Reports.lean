import Stowage.Proofs.Changes
import Stowage.Proofs.ReplicaRights

/-! What reporting a write does. The replica is registered with the catalog and the size of its file is
set, and after that the pool is charged. The two halves can fail on their own: a report that the catalog
takes leaves row and size behind, if the pool cannot be charged afterwards. -/
namespace Stowage

namespace Resolution

open OnSite StackM

/-- What a location tells of a write: the chunk that was written, the pool that it is in, and the
logical name of its file. -/
structure Tells (s : OnSite) (location : Location) (chunk : Chunk) (pool : Pool) (name : String) :
    Prop where
  first : location.first = .ok chunk
  pooled : ∃ word, chunk.attrs.str Chunk.poolKey "" = .ok word ∧ word ≠ "" ∧ s.pool word = .ok pool
  named : chunk.attrs.str Chunk.nameKey "" = .ok name
  given : name ≠ ""

/-- A write that the stack can register: its location tells chunk, pool and name, the name leads to a
file that may be written, and the file has no replica under the physical name of the chunk. -/
structure Registration (s : OnSite) (location : Location) where
  chunk : Chunk
  pool : Pool
  name : String
  outer : List Decorator
  inner : List Decorator
  id : FactoryId
  session : CatalogSession
  ctx : SecurityContext
  entry : Entry
  tells : Tells s location chunk pool name
  wired : s.Wired outer inner id session
  known : session.security = some ctx
  reaches : (s.site.namespace_ id).Reaches ctx (session.names name) entry
  file : entry.stat.isDirectory = false
  writable : entry.permits ctx Mode.write = true
  fresh : ∀ row ∈ (s.site.namespace_ id).replicas.values, row.file = entry.stat.ino →
    row.rfn ≠ chunk.host ++ ":" ++ chunk.path

/-- The write to the location can be registered. -/
def Registrable (s : OnSite) (location : Location) : Prop :=
  Nonempty (Registration s location)

namespace Registration

variable {s : OnSite} {location : Location} (r : Registration s location)

/-- The row that is registered, but for its id. -/
def record : Replica :=
  writtenReplica r.chunk r.pool r.entry

end Registration

/-- What a report looks up before it changes anything. -/
def lookUp (location : Location) : StackM (Chunk × Pool × String × Entry) := do
  let chunk ← location.first
  let word ← chunk.attrs.str Chunk.poolKey ""
  let name ← chunk.attrs.str Chunk.nameKey ""
  if word = "" ∨ name = "" then
    throw (.invalidArgument "location does not come from where_to_write")
  let pool ← StackM.pools (.get word)
  let entry ← StackM.catalog (.entry name)
  return (chunk, pool, name, entry)

/-- Registers a replica and sets the size of its file. -/
def enrol (name : String) (record : Replica) (size : Nat) : StackM Unit := do
  StackM.catalog (.addReplica record)
  StackM.catalog (.setSize name size)

/-- Has the driver of a pool account for a write. -/
def account (pool : Pool) (record : Replica) (size : Nat) : StackM Unit := do
  let driver ← StackM.driver pool.type
  let updated ← StackM.askDriver driver (.writeDone pool record size)
  StackM.pools (.update updated)

/-- A report looks up, registers the replica and then charges the pool. -/
theorem doneWriting_eq (location : Location) (size : Nat) :
    doneWriting location size = (do
      let (chunk, pool, name, entry) ← lookUp location
      enrol name (writtenReplica chunk pool entry) size
      account pool (writtenReplica chunk pool entry) size) := by
  unfold doneWriting lookUp enrol account
  simp only [bind_assoc]
  congr; funext chunk; congr; funext word; congr; funext name
  by_cases untold : word = "" ∨ name = ""
  · rw [if_pos untold, if_pos untold]
    rfl
  · rw [if_neg untold, if_neg untold]
    simp only [bind_assoc, pure_bind]

theorem reads_lookUp (location : Location) : Action.Reads (lookUp location) := by
  have result : ∀ {α : Type} (value : Except Error α),
      Action.Reads (monadLift value : StackM α) := fun value _ => ⟨value, rfl⟩
  have entries : ∀ name, Action.Reads (StackM.catalog (.entry name)) := fun _ => reads_catalog rfl
  refine (result _).bind fun chunk => (result _).bind fun word => (result _).bind fun name =>
    Action.Reads.guarded ?_
  exact (reads_pools_get word).bind fun pool => (entries name).bind fun entry => Action.reads_pure _

variable {s t u : OnSite} {location : Location} {chunk : Chunk} {pool : Pool} {name : String}
  {entry : Entry} {size : Nat}

/-- What the location tells leaves the entry to be looked up. -/
theorem lookUp_of_tells (tells : Tells s location chunk pool name) :
    lookUp location s = (do
      let entry ← StackM.catalog (.entry name)
      return (chunk, pool, name, entry) : StackM _) s := by
  obtain ⟨first, ⟨word, pooled, word_, known⟩, named, given⟩ := tells
  have got : StackM.pools (.get word) s = .ok pool s := by
    rw [pools_get_apply, known]
    rfl
  have told : ¬ (word = "" ∨ name = "") := by simp [word_, given]
  refine (Action.bind_of_ok (read_of_ok first s)).trans ?_
  refine (Action.bind_of_ok (read_of_ok pooled s)).trans ?_
  refine (Action.bind_of_ok (read_of_ok named s)).trans ?_
  rw [if_neg told]
  exact Action.bind_of_ok got

theorem lookUp_eq_ok_iff :
    lookUp location s = .ok (chunk, pool, name, entry) t ↔
      Tells s location chunk pool name ∧ StackM.catalog (.entry name) s = .ok entry s ∧ t = s := by
  have entries : ∀ name, Action.Reads (StackM.catalog (.entry name)) := fun _ => reads_catalog rfl
  constructor
  · intro done
    obtain rfl := (reads_lookUp location).of_ok done
    obtain ⟨chunk, _, opening, rest⟩ := Action.bind_eq_ok_iff.1 done
    obtain ⟨first, rfl⟩ := Action.eq_ok_of_ofExcept opening
    obtain ⟨word, _, pooling, rest⟩ := Action.bind_eq_ok_iff.1 rest
    obtain ⟨pooled, rfl⟩ := Action.eq_ok_of_ofExcept pooling
    obtain ⟨name, _, naming, rest⟩ := Action.bind_eq_ok_iff.1 rest
    obtain ⟨named, rfl⟩ := Action.eq_ok_of_ofExcept naming
    obtain ⟨told, rest⟩ := Action.guarded_eq_ok_iff.1 rest
    obtain ⟨word_, given⟩ := not_or.1 told
    obtain ⟨pool, _, getting, rest⟩ := Action.bind_eq_ok_iff.1 rest
    rw [pools_get_apply] at getting
    obtain ⟨known, rfl⟩ := Action.eq_ok_of_ofExcept getting
    obtain ⟨entry, _, found, returned⟩ := Action.bind_eq_ok_iff.1 rest
    obtain rfl := (entries name).of_ok found
    cases returned
    exact ⟨⟨first, ⟨word, pooled, word_, known⟩, named, given⟩, found, rfl⟩
  · rintro ⟨tells, found, rfl⟩
    rw [lookUp_of_tells tells]
    exact Action.bind_of_ok found

/-- A report that is not refused at once has been told everything, and the catalog has taken the replica. -/
theorem doneWriting_begins (location : Location) (size : Nat) (s : OnSite) :
    (∃ e, doneWriting location size s = .error e s) ∨
      ∃ chunk pool name entry u, Tells s location chunk pool name ∧
        StackM.catalog (.entry name) s = .ok entry s ∧
        StackM.catalog (.addReplica (writtenReplica chunk pool entry)) s = .ok () u := by
  rw [doneWriting_eq]
  cases looked : lookUp location s with
  | error e t =>
    obtain rfl := (reads_lookUp location).of_error looked
    exact .inl ⟨e, Action.bind_of_error looked⟩
  | ok written t =>
    obtain ⟨chunk, pool, name, entry⟩ := written
    obtain ⟨tells, found, rfl⟩ := lookUp_eq_ok_iff.1 looked
    cases added : StackM.catalog (.addReplica (writtenReplica chunk pool entry)) t with
    | error e u =>
      obtain rfl := failsClean_catalog _ _ _ _ added
      have refused : enrol name (writtenReplica chunk pool entry) size _ = .error e _ :=
        Action.bind_of_error added
      exact .inl ⟨e, (Action.bind_of_ok looked).trans (Action.bind_of_error refused)⟩
    | ok _ u => exact .inr ⟨chunk, pool, name, entry, u, tells, found, added⟩

/-- A report of a file that the catalog misses fails as the catalog does. -/
theorem doneWriting_of_missed {e : Error} (tells : Tells s location chunk pool name)
    (missed : StackM.catalog (.entry name) s = .error e s) (size : Nat) :
    doneWriting location size s = .error e s := by
  have looked : lookUp location s = .error e s :=
    (lookUp_of_tells tells).trans (Action.bind_of_error missed)
  rw [doneWriting_eq]
  exact Action.bind_of_error looked

/-- A replica that the catalog takes is one that could be registered. -/
theorem registrable_of_added {entry : Entry} (keyed : ∀ id, (s.site.namespace_ id).EntriesKeyed)
    (tells : Tells s location chunk pool name)
    (found : StackM.catalog (.entry name) s = .ok entry s)
    (added : StackM.catalog (.addReplica (writtenReplica chunk pool entry)) s = .ok () u) :
    Registrable s location := by
  obtain ⟨outer, session, _, inner, id, wired, rfl⟩ := browses_of_entry (.inl ⟨entry, found⟩)
  have wired : s.Wired outer inner id session := wired
  obtain ⟨ctx, known, reaches⟩ := reaches_of_entry wired.browses found
  obtain ⟨other, stored, next, same, there, writable, taken, -⟩ := wired.addReplica_eq_ok_iff.1 added
  obtain rfl := Option.some.inj (known.symm.trans same)
  have numbered := (keyed id).stored (Namespace.at?_of_reaches reaches)
  obtain rfl := Except.ok.inj (there.symm.trans numbered)
  obtain ⟨file, again, plain, fresh, -⟩ := (Namespace.addReplica_eq_ok_iff rfl).1 taken
  obtain rfl := Except.ok.inj (again.symm.trans numbered)
  exact ⟨{ chunk, pool, name, outer, inner, id, session, ctx, entry := file, tells, wired, known,
           reaches, file := plain, writable, fresh }⟩

namespace Registration

variable (r : Registration s location)

theorem stored (keyed : (s.site.namespace_ r.id).EntriesKeyed) :
    (s.site.namespace_ r.id).entry r.entry.stat.ino = .ok r.entry :=
  keyed.stored (Namespace.at?_of_reaches r.reaches)

theorem not_initial : s.site.namespace_ r.id ≠ .initial := by
  intro initial
  have reaches := r.reaches
  rw [initial] at reaches
  have directory := Namespace.isDirectory_of_initial reaches
  rw [r.file] at directory
  cases directory

/-- The namespace with the row, before the size is set. -/
def added : Namespace :=
  { s.site.namespace_ r.id with
    replicas := (s.site.namespace_ r.id).replicas.insert (s.site.namespace_ r.id).nextReplica
      { r.record with id := (s.site.namespace_ r.id).nextReplica }
    nextReplica := max (s.site.namespace_ r.id).nextReplica ((s.site.namespace_ r.id).nextReplica + 1) }

theorem addReplica_eq_ok (keyed : (s.site.namespace_ r.id).EntriesKeyed) :
    (s.site.namespace_ r.id).addReplica r.record = .ok r.added :=
  (Namespace.addReplica_eq_ok_iff rfl).2 ⟨r.entry, r.stored keyed, r.file, r.fresh, rfl⟩

/-- The namespace with the row and the size. -/
def sized (size : Nat) : Namespace :=
  r.added.store r.entry.stat.ino { r.entry with stat := { r.entry.stat with size } }

theorem setSize_eq_ok (keyed : (s.site.namespace_ r.id).EntriesKeyed) (size : Nat) :
    r.added.setSize r.entry.stat.ino size = .ok (r.sized size) := by
  have stored : r.added.entry r.entry.stat.ino = .ok r.entry := r.stored keyed
  unfold Namespace.setSize
  rw [stored]
  rfl

/-- The catalog takes what can be registered. -/
theorem enrol_eq_ok (keyed : (s.site.namespace_ r.id).EntriesKeyed) (size : Nat) :
    enrol r.name r.record size s = .ok () (s.putNamespace r.id (r.sized size)) := by
  have added : StackM.catalog (.addReplica r.record) s = .ok () (s.putNamespace r.id r.added) :=
    r.wired.addReplica_eq_ok_iff.2
      ⟨r.ctx, r.entry, r.added, r.known, r.stored keyed, r.writable, r.addReplica_eq_ok keyed, rfl⟩
  have held : (s.putNamespace r.id r.added).site.namespace_ r.id = r.added :=
    Site.namespace_putNamespace_of_ne_initial r.not_initial
  have wired : (s.putNamespace r.id r.added).Wired r.outer r.inner r.id r.session := r.wired
  have reaches : ((s.putNamespace r.id r.added).site.namespace_ r.id).Reaches r.ctx
      (r.session.names r.name) r.entry := by
    rw [held]
    exact r.reaches.congr (by rfl) (by rfl)
  have sized : ((s.putNamespace r.id r.added).site.namespace_ r.id).setSize r.entry.stat.ino size =
      .ok (r.sized size) := by
    rw [held]
    exact r.setSize_eq_ok keyed size
  have set := wired.setSize_of_writable r.known reaches r.file r.writable sized
  rw [putNamespace_putNamespace] at set
  exact (Action.bind_of_ok added).trans set

/-- What can be registered is registered, and then the pool is charged. -/
theorem doneWriting_eq (keyed : (s.site.namespace_ r.id).EntriesKeyed) (size : Nat) :
    doneWriting location size s =
      account r.pool r.record size (s.putNamespace r.id (r.sized size)) := by
  have found : StackM.catalog (.entry r.name) s = .ok r.entry s := by
    rw [entry_apply r.wired.browses r.known, Namespace.find_eq_ok_iff.2]
    · rfl
    · have same := r.session.names_absolute r.name
      exact r.reaches
  have looked := lookUp_eq_ok_iff.2 ⟨r.tells, found, rfl⟩
  rw [Resolution.doneWriting_eq]
  exact (Action.bind_of_ok looked).trans (Action.bind_of_ok (r.enrol_eq_ok keyed size))

end Registration

/-- What cannot be registered is not reported, and nothing has changed. -/
theorem doneWriting_of_unregistrable (keyed : ∀ id, (s.site.namespace_ id).EntriesKeyed)
    (lost : ¬ Registrable s location) (size : Nat) :
    ∃ e, doneWriting location size s = .error e s := by
  rcases doneWriting_begins location size s with failed | ⟨chunk, pool, name, entry, u, tells, found, added⟩
  · exact failed
  · exact absurd (registrable_of_added keyed tells found added) lost

/-- Accounting for a write that fails changes no table. -/
theorem sameTables_of_unaccounted (pool : Pool) (record : Replica) (size : Nat) :
    Action.FailsWithin SameTables (account pool record size) :=
  (sameTables_driver pool.type).bind_failsWithin fun node =>
    (sameTables_askDriver node _).bind_failsWithin fun updated =>
      (failsClean_update updated).failsWithin

/-- The driver of the pool can account for the write, and the pool that it makes is known. -/
def Chargeable (s : OnSite) (pool : Pool) (record : Replica) (size : Nat) : Prop :=
  ∃ node updated known, s.driverFor pool.type = .ok node ∧
    node.counted pool record size = .ok updated ∧ s.pool updated.name = .ok known

theorem account_succeeds_iff {record : Replica} :
    (∃ t, account pool record size s = .ok () t) ↔ Chargeable s pool record size := by
  constructor
  · rintro ⟨t, done⟩
    obtain ⟨node, u, driven, rest⟩ := Action.bind_eq_ok_iff.1 done
    obtain ⟨updated, _, asked, stored⟩ := Action.bind_eq_ok_iff.1 rest
    rw [askDriver_writeDone] at asked
    obtain ⟨counted, rfl⟩ := Action.eq_ok_of_ofExcept asked
    obtain ⟨known, there⟩ := (update_succeeds_iff updated).1 ⟨t, stored⟩
    have drifted := ((keeps_driver pool.type).of_ok driven).toDrifts
    exact ⟨node, updated, known, (driver_eq_ok driven).1, counted, (drifted.pool _).symm.trans there⟩
  · rintro ⟨node, updated, known, served, counted, there⟩
    cases driven : driver pool.type s with
    | error e u =>
      have none_ := (driver_eq_error driven).1
      rw [served] at none_
      cases none_
    | ok other u =>
      obtain rfl := Except.ok.inj (served.symm.trans (driver_eq_ok driven).1)
      have drifted := ((keeps_driver pool.type).of_ok driven).toDrifts
      obtain ⟨t, stored⟩ := (update_succeeds_iff updated).2 ⟨known, (drifted.pool _).trans there⟩
      refine ⟨t, Action.bind_eq_ok_iff.2 ⟨node, u, driven, Action.bind_eq_ok_iff.2
        ⟨updated, u, ?_, stored⟩⟩⟩
      rw [askDriver_writeDone, counted]
      rfl

theorem chargeable_putNamespace {id : FactoryId} {ns : Namespace} {record : Replica} :
    Chargeable (s.putNamespace id ns) pool record size ↔ Chargeable s pool record size := by
  unfold Chargeable
  simp only [driverFor_putNamespace, pool_putNamespace]

/-- A report succeeds exactly if the replica can be registered and the pool charged. -/
theorem doneWriting_succeeds_iff (keyed : ∀ id, (s.site.namespace_ id).EntriesKeyed) :
    (∃ t, doneWriting location size s = .ok () t) ↔
      ∃ r : Registration s location, Chargeable s r.pool r.record size := by
  constructor
  · rintro ⟨t, done⟩
    by_cases registrable : Registrable s location
    · obtain ⟨r⟩ := registrable
      rw [r.doneWriting_eq (keyed _)] at done
      exact ⟨r, chargeable_putNamespace.1 (account_succeeds_iff.1 ⟨t, done⟩)⟩
    · obtain ⟨e, failed⟩ := doneWriting_of_unregistrable keyed registrable size
      rw [failed] at done
      cases done
  · rintro ⟨r, chargeable⟩
    rw [r.doneWriting_eq (keyed _)]
    exact account_succeeds_iff.2 (chargeable_putNamespace.2 chargeable)

namespace Registration

variable (r : Registration s location)

/-- The namespace with the row is another one. -/
theorem sized_ne (sound : (s.site.namespace_ r.id).RowsSound) (size : Nat) :
    r.sized size ≠ s.site.namespace_ r.id := by
  intro same
  have row : (r.sized size).replicas.get? (s.site.namespace_ r.id).nextReplica =
      some { r.record with id := (s.site.namespace_ r.id).nextReplica } := by
    have inserted := Table.get?_insert (s.site.namespace_ r.id).replicas
      (s.site.namespace_ r.id).nextReplica (s.site.namespace_ r.id).nextReplica
      { r.record with id := (s.site.namespace_ r.id).nextReplica }
    rw [if_pos rfl] at inserted
    exact inserted
  rw [same] at row
  have below := sound.below row
  omega

/-- A report that registers the replica and fails then could not charge the pool; it leaves the row and
the size. -/
theorem left_of_failed {e : Error} (keyed : (s.site.namespace_ r.id).EntriesKeyed)
    (failed : doneWriting location size s = .error e t) :
    ¬ Chargeable s r.pool r.record size ∧ (s.putNamespace r.id (r.sized size)).SameTables t := by
  rw [r.doneWriting_eq keyed] at failed
  refine ⟨fun chargeable => ?_, sameTables_of_unaccounted _ _ _ _ _ _ failed⟩
  obtain ⟨u, done⟩ := account_succeeds_iff.2 (chargeable_putNamespace.2 chargeable)
  rw [failed] at done
  cases done

end Registration

/-- A failed report leaves the pools alone. It leaves row and size behind exactly if the replica could be
registered, and then only for want of a pool to charge; otherwise it changes no table. -/
theorem sameTables_iff_of_unreported {e : Error} (reachable : ∀ id, (s.site.namespace_ id).Reachable)
    (failed : doneWriting location size s = .error e t) :
    (∀ id, (t.site.manager.memory id).pools = (s.site.manager.memory id).pools) ∧
      (SameTables s t ↔ ¬ Registrable s location) ∧
      ∀ r : Registration s location, ¬ Chargeable s r.pool r.record size ∧
        t.site.namespace_ r.id = r.sized size := by
  by_cases registrable : Registrable s location
  · have left := fun r : Registration s location =>
      r.left_of_failed (reachable r.id).entriesKeyed failed
    have held : ∀ r : Registration s location, t.site.namespace_ r.id = r.sized size := by
      intro r
      rw [(left r).2.namespace_ r.id]
      exact Site.namespace_putNamespace_of_ne_initial r.not_initial
    obtain ⟨r⟩ := registrable
    refine ⟨fun id => ?_, ?_, fun r => ⟨(left r).1, held r⟩⟩
    · have kept := congrArg MemoryTables.pools ((left r).2 id)
      exact kept.trans (Site.pools_putNamespace s.site)
    · refine ⟨fun same => absurd ?_ (r.sized_ne (reachable r.id).rowsSound size), fun lost => ?_⟩
      · rw [← held r]
        exact same.namespace_ r.id
      · exact absurd ⟨r⟩ lost
  · have keyed := fun id => (reachable id).entriesKeyed
    obtain ⟨fault, same⟩ := doneWriting_of_unregistrable keyed registrable size
    rw [same] at failed
    cases failed
    exact ⟨fun _ => rfl, ⟨fun _ => registrable, fun _ _ => rfl⟩, fun r => absurd ⟨r⟩ registrable⟩

/-- A stack of root's whose pool is of a type that no driver is for. -/
def stranded : OnSite :=
  let pool := diskPool "disk" "srv/a" 1000
  desk .root ReplicaRights.neighbours (Table.ofList [("disk", { pool with type := "tape" })]) .initial

/-- A location that was issued while the pool was a disk pool. -/
def outdated : Location :=
  let chunk : Chunk := { host := "localhost", path := "srv/a/mine" }
  ⟨[(chunk.tag Chunk.poolKey (.str "disk")).tag Chunk.nameKey (.str "/mine")]⟩

/-- The report fails for want of a driver, and the row that it registered stays. -/
theorem row_left_by_failed_report :
    ∃ e t, doneWriting outdated 4 stranded = .error e t ∧ e.kind = .unknownPoolType ∧
      Registrable stranded outdated ∧ ¬ stranded.SameTables t := by
  have ended : (match doneWriting outdated 4 stranded with
      | .ok .. => none
      | .error e t => some (e.kind, (t.site.namespace_ 1).replicas.values.map (·.file))) =
        some (.unknownPoolType, [2, 3]) := by
    decide +kernel
  cases failed : doneWriting outdated 4 stranded with
  | ok _ t =>
    rw [failed] at ended
    cases ended
  | error e t =>
    rw [failed] at ended
    obtain ⟨kind, rows⟩ := Prod.mk.inj (Option.some.inj ended)
    have reachable : ReplicaRights.neighbours.Reachable :=
      Namespace.Reachable.initial.run (by decide +kernel)
    have before : (stranded.site.namespace_ 1).replicas.values.map (·.file) = [2] := by
      decide +kernel
    obtain ⟨-, same, -⟩ := sameTables_iff_of_unreported (reachable_desk _ _ _ reachable) failed
    have changed : ¬ stranded.SameTables t := by
      intro unchanged
      rw [unchanged.namespace_ 1, before] at rows
      cases rows
    exact ⟨e, t, rfl, kind, Classical.not_not.1 fun lost => changed (same.2 lost), changed⟩

end Resolution
end Stowage
