import Stowage.Proofs.GrantedRequests
import Stowage.Proofs.WriteSpots

/-! A write and the reads after it. A report turns the chunk that was written into a row, with host and path
packed into one name, and a location to read from unpacks that name. Everything else comes back as it went in,
and so does the path, unless the host itself holds the character that the name is cut at. -/
namespace Stowage

/-- Every pool stands under its own name. -/
def PoolTable.Named (t : PoolTable) : Prop :=
  ∀ name pool, t.get? name = some pool → pool.name = name

/-- The tables that options set up and requests lead on to. -/
inductive PoolTable.Reachable : PoolTable → Prop where
  | options {tables : MemoryTables} (configured : tables.Configured) : Reachable tables.pools
  | request {t next : PoolTable} (reached : Reachable t) (r : PoolsRequest) {answer : r.Answer}
      (done : handler r t = .ok answer next) : Reachable next

namespace PoolTable

variable {t next : PoolTable}

theorem Named.insert (named : t.Named) (pool : Pool) : Named (t.insert pool.name pool) := by
  intro name found there
  rw [Table.get?_insert] at there
  split at there
  · rename_i same
    cases there
    exact same.symm
  · exact named _ _ there

theorem eq_ok_of_changed (change : PoolTable → Except Error PoolTable)
    (done : (Action.update fun t => do return ((), ← change t)) t = .ok () next) :
    change t = .ok next := by
  obtain ⟨made, stored, returned⟩ := Error.bind_eq_ok_iff.1 (Action.update_eq_ok done)
  cases returned
  exact stored

/-- Pools stand under their names, whatever pools requests bring. -/
theorem Reachable.named (reached : t.Reachable) : t.Named := by
  induction reached with
  | options configured => exact fun _ _ => configured.setUp.named
  | @request t next _ r answer done ih =>
    cases r with
    | list filter =>
      have reads : Action.Reads (handler (.list filter)) := Action.reads_query _
      obtain rfl := reads.of_ok done
      exact ih
    | get name =>
      have reads : Action.Reads (handler (.get name)) := Action.reads_query _
      obtain rfl := reads.of_ok done
      exact ih
    | create pool =>
      have stored : t.create pool = .ok next := eq_ok_of_changed (create · pool) done
      unfold create at stored
      split at stored
      · cases stored
      · cases stored
        exact ih.insert pool
    | update pool =>
      have stored : t.update pool = .ok next := eq_ok_of_changed (update · pool) done
      unfold update at stored
      split at stored
      · cases stored
        exact ih.insert pool
      · cases stored
    | delete pool =>
      have stored : t.delete pool = .ok next := eq_ok_of_changed (delete · pool) done
      unfold delete at stored
      split at stored
      · cases stored
        intro name found there
        rw [Table.get?_erase] at there
        split at there
        · cases there
        · exact ih _ _ there
      · cases stored

end PoolTable

/-- The pool that a stack finds under a name goes by that name. -/
theorem OnSite.name_of_pool {s : OnSite} {name : String} {pool : Pool}
    (named : ∀ id, (s.site.manager.memory id).pools.Named) (known : s.pool name = .ok pool) :
    pool.name = name := by
  cases wired : s.stack.pools with
  | none =>
    unfold OnSite.pool at known
    rw [wired] at known
    cases known
  | some chain =>
    obtain ⟨decorators, base⟩ := chain
    cases base with
    | plain node =>
      unfold OnSite.pool at known
      rw [wired] at known
      cases known
    | memory id => exact named id _ _ (get?_of_pool wired known)

/-- The path in a name made up of host and path is that path exactly if the host has no colon. -/
theorem Replica.physicalPath_eq_iff {row : Replica} {host path : String}
    (name : row.rfn = host ++ ":" ++ path) : row.physicalPath = path ↔ ':' ∉ host.toList := by
  constructor
  · intro same inside
    -- The name is cut within the host, and more than the path is left.
    obtain ⟨front, back, whole, clean⟩ := List.eq_append_cons_of_mem inside
    have host_ : host = String.ofList front ++ ":" ++ String.ofList back := by
      have colon : ":".toList = [':'] := rfl
      rw [← String.toList_inj]
      simp [whole, colon]
    have cut : row.physicalPath = String.ofList back ++ ":" ++ path := by
      let chunk : Chunk := { host := String.ofList front, path := String.ofList back ++ ":" ++ path }
      have clean : ':' ∉ chunk.host.toList := by rwa [String.toList_ofList]
      refine Resolution.physicalPath_of_wrote clean ?_
      rw [name, host_]
      simp only [chunk, String.append_assoc]
    have colon : ":".length = 1 := rfl
    have longer := congrArg String.length (cut.symm.trans same)
    simp only [String.length_append, colon] at longer
    omega
  · intro clean
    let chunk : Chunk := { host, path }
    have written : row.rfn = chunk.host ++ ":" ++ chunk.path := name
    exact Resolution.physicalPath_of_wrote clean written

namespace Resolution

open OnSite StackM

variable {s t u v : OnSite} {location : Location} {path : String} {size : Nat} {pool : Pool}

/-- The report of a write to the chunk, as it shows in a namespace: the file has the size that was told, and
one row is new, which is for the file, available and in the pool of the chunk. -/
structure Reported (chunk : Chunk) (size : Nat) (row : Replica) (names : List String)
    (before after : Namespace) : Prop where
  sized : ∃ entry, before.at? names = some entry ∧ row.file = entry.stat.ino ∧
    after.at? names = some { entry with stat := { entry.stat with size } }
  fresh : before.replicas.get? row.id = none
  added : after.replicas = before.replicas.insert row.id row
  available : row.status = .available
  pooled : chunk.attrs.text? Chunk.poolKey = some row.pool
  name : row.rfn = chunk.host ++ ":" ++ chunk.path
  server : row.server = chunk.host

/-- Accounting for a write leaves the namespaces alone. -/
theorem namespace_of_accounted {record : Replica} (done : account pool record size s = .ok () t)
    (id : FactoryId) : t.site.namespace_ id = s.site.namespace_ id := by
  obtain ⟨node, u, driven, rest⟩ := Action.bind_eq_ok_iff.1 done
  obtain ⟨updated, v, asked, stored⟩ := Action.bind_eq_ok_iff.1 rest
  obtain ⟨decorators, n, -, -, rfl⟩ := update_eq_ok_iff.1 stored
  have driven := (sameTables_driver pool.type).of_ok driven
  have asked := (sameTables_askDriver node _).of_ok asked
  exact (Site.namespace_putPools _).trans ((asked.namespace_ id).trans (driven.namespace_ id))

/-- What a registration puts into its namespace is the report of the write. -/
theorem Registration.reported (r : Registration u location)
    (reachable : (u.site.namespace_ r.id).Reachable)
    (named : ∀ id, (u.site.manager.memory id).pools.Named) (size : Nat) :
    Reported r.chunk size { r.record with id := (u.site.namespace_ r.id).nextReplica }
      (r.session.names r.name) (u.site.namespace_ r.id) (r.sized size) := by
  have there := Namespace.at?_of_reaches r.reaches
  refine ⟨⟨r.entry, there, rfl, ?_⟩, ?_, rfl, rfl, ?_, rfl, rfl⟩
  · have keyed : r.added.EntriesKeyed := reachable.entriesKeyed
    have reaches : r.added.Reaches r.ctx (r.session.names r.name) r.entry :=
      r.reaches.congr (by rfl) (by rfl)
    exact Namespace.at?_store keyed rfl (Namespace.at?_of_reaches reaches)
  · cases found : (u.site.namespace_ r.id).replicas.get? (u.site.namespace_ r.id).nextReplica with
    | none => rfl
    | some row =>
      have below := reachable.rowsSound.below found
      omega
  · obtain ⟨word, pooling, given, known⟩ := r.tells.pooled
    rw [Attributes.text?_eq_some pooling given]
    exact congrArg some (name_of_pool named known).symm

/-- A path has one normal form, from whichever working directory a stack sees it. -/
theorem names_of_absolute {target : String} (seen : absolute path s = .ok target t)
    (session : CatalogSession) : session.names target = Path.split target := by
  obtain ⟨_, _, -, asked⟩ := Action.bind_eq_ok_iff.1 seen
  obtain ⟨answer, _, -, returned⟩ := Action.bind_eq_ok_iff.1 asked
  cases answer with
  | ok cwd =>
    cases returned
    rw [CatalogSession.names, Path.absolute_absolute]
  | error e =>
    cases returned
    rw [CatalogSession.names, Path.absolute_absolute]

/-- A report of a location for a path registers its chunk, as a file of that path. -/
theorem Registration.of_done {chunk : Chunk} {target : String} (seen : absolute path s = .ok target t)
    (reachable : ∀ id, (u.site.namespace_ id).Reachable)
    (named : ∀ id, (u.site.manager.memory id).pools.Named) (chunks : location.chunks = [chunk])
    (told : chunk.attrs.text? Chunk.nameKey = some target) (done : doneWriting location size u = .ok () v) :
    ∃ r : Registration u location, r.chunk = chunk ∧
      Reported chunk size { r.record with id := (u.site.namespace_ r.id).nextReplica } (Path.split target)
        (u.site.namespace_ r.id) (v.site.namespace_ r.id) := by
  obtain ⟨r, -⟩ := (doneWriting_succeeds_iff fun id => (reachable id).entriesKeyed).1 ⟨v, done⟩
  rw [r.doneWriting_eq (reachable _).entriesKeyed] at done
  have left : v.site.namespace_ r.id = r.sized size :=
    (namespace_of_accounted done r.id).trans (Site.namespace_putNamespace_of_ne_initial r.not_initial)
  have first := r.tells.first
  unfold Location.first at first
  rw [chunks] at first
  have same : r.chunk = chunk := (Except.ok.inj first).symm
  have name : r.name = target := by
    have known := Attributes.text?_eq_some r.tells.named r.tells.given
    rw [same, told] at known
    exact (Option.some.inj known).symm
  have reported := r.reported (reachable _) named size
  rw [name, names_of_absolute seen, ← left, same] at reported
  exact ⟨r, same, reported⟩

/-- What comes back of a write. Whoever reports a location to write to, then or later, has the file with the
size that was told and one new row for it, available and in the pool of the location. A location to read that
row from is one chunk on the host that was written to, and under the path that was written exactly if the
name of the host has no colon. -/
theorem read_back_iff (disks : s.DiskOnly) (located : whereToWrite path s = .ok location t)
    (reachable : ∀ id, (u.site.namespace_ id).Reachable)
    (named : ∀ id, (u.site.manager.memory id).pools.Named)
    (done : doneWriting location size u = .ok () v) :
    ∃ target chunk row outer inner id session, absolute path s = .ok target s ∧
      location.chunks = [chunk] ∧ u.Wired outer inner id session ∧
      Reported chunk size row (Path.split target) (u.site.namespace_ id) (v.site.namespace_ id) ∧
      ∀ (disk : DiskDriver) now pool back, disk.readLocation now pool row = .ok back →
        ∃ again, back.chunks = [again] ∧ again.host = chunk.host ∧
          (again.path = chunk.path ↔ ':' ∉ chunk.host.toList) := by
  obtain ⟨target, -, _, -, pool, offered, _, seen, -, -, -, -, offers, -, -, rfl⟩ :=
    whereToWrite_eq_ok located
  obtain ⟨filesystems, fs, token, -, -, rfl⟩ := offers.chosen disks
  obtain ⟨r, -, reported⟩ := Registration.of_done seen reachable named rfl (Chunk.text?_tag _ _ _) done
  refine ⟨target, _, _, r.outer, r.inner, r.id, r.session, seen, rfl, r.wired, reported, ?_⟩
  · intro disk now pool back made
    obtain ⟨again, chunks, host, file⟩ := chunks_of_readLocation made
    refine ⟨again, chunks, host.trans reported.server, ?_⟩
    rw [file]
    exact Replica.physicalPath_eq_iff reported.name

/-- A pool whose server is told with a port. -/
def portedPool : Pool :=
  ({ name := "disk", type := DiskDriver.poolType } : Pool).withFilesystems
    [{ server := "node:1", path := "srv/a", free := 1000, total := 1000 }]

def ported : OnSite :=
  desk .root ReplicaRights.neighbours (Table.ofList [("disk", portedPool)]) .initial

theorem reachable_ported (id : FactoryId) : (ported.site.manager.memory id).pools.Reachable := by
  have bare : PoolTable.Reachable ∅ := .options .initial
  match id with
  | 1 =>
    have made : PoolTable.handler (.create portedPool) ∅ =
        .ok () (ported.site.manager.memory 1).pools := rfl
    exact bare.request _ made
  | 0 | 2 | _ + 3 => exact bare

theorem readLocation_portedPool (row : Replica) :
    DiskDriver.readLocation ⟨⟨"secret", .user, 60⟩, some .root⟩ 0 portedPool row =
      .ok ⟨[{ host := row.server, path := row.physicalPath : Chunk }.tag Chunk.tokenKey
        (.str (Token.issue 0 "root" row.physicalPath "secret" 60 false))]⟩ := by
  refine Error.bind_eq_ok_iff.2 ⟨_, Pool.filesystems_withFilesystems _ _, ?_⟩
  split
  · rename_i fs hosted
    obtain rfl := List.mem_singleton.1 (List.mem_of_find?_eq_some hosted)
    rfl
  · rfl

/-- What was written as `srv/a/mine` is looked for as another file. -/
theorem other_file_read_back :
    ∃ location t v chunk id row back again, whereToWrite "/mine" ported = .ok location t ∧
      doneWriting location 4 ported = .ok () v ∧ location.chunks = [chunk] ∧
      (v.site.namespace_ id).replicas.get? row.id = some row ∧
      DiskDriver.readLocation ⟨⟨"secret", .user, 60⟩, some .root⟩ 0 portedPool row = .ok back ∧
      back.chunks = [again] ∧ again.path ≠ chunk.path := by
  have reachable : ReplicaRights.neighbours.Reachable :=
    Namespace.Reachable.initial.run (by decide +kernel)
  have ran : (match whereToWrite "/mine" ported with
      | .ok location _ =>
        (match doneWriting location 4 ported with
        | .ok .. => location.chunks.map (·.host)
        | .error .. => [])
      | .error .. => []) = ["node:1"] := by
    decide +kernel
  cases located : whereToWrite "/mine" ported with
  | error e t =>
    rw [located] at ran
    cases ran
  | ok location t =>
    rw [located] at ran
    dsimp only at ran
    cases done : doneWriting location 4 ported with
    | error e v =>
      rw [done] at ran
      cases ran
    | ok _ v =>
      rw [done] at ran
      obtain ⟨target, chunk, row, -, -, id, -, -, chunks, -, reported, read⟩ :=
        read_back_iff (diskOnly_desk _ _ _ _) located (reachable_desk _ _ _ reachable)
          (fun id => (reachable_ported id).named) done
      have host : chunk.host = "node:1" := by
        rw [chunks] at ran
        exact (List.cons.inj ran).1
      have stored : (v.site.namespace_ id).replicas.get? row.id = some row := by
        rw [reported.added, Table.get?_insert, if_pos rfl]
      have made := readLocation_portedPool row
      obtain ⟨again, one, -, path⟩ := read _ _ _ _ made
      refine ⟨location, t, v, chunk, id, row, _, again, rfl, done, chunks, stored, made, one, ?_⟩
      rw [Ne, path, host]
      decide

end Resolution
end Stowage
