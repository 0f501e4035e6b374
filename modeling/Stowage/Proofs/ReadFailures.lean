import Stowage.Proofs.ExclusionFilters
import Stowage.Proofs.ReadOutcome

/-! Why there is nowhere to read from. A file of which no replica is registered is to be told from one whose
replicas cannot be had. The resolution goes by what the catalog shows and by whether anything is excluded, so
a file without replicas is reported as one whose replicas are all excluded once a replica of any file is. -/
namespace Stowage

theorem Exclusions.isEmpty_iff {x : Exclusions} : x.isEmpty = true ↔ ∀ id, x.contains id = false := by
  constructor
  · intro empty id
    cases excluded : x.contains id with
    | false => rfl
    | true =>
      rw [isEmpty_of_contains excluded] at empty
      cases empty
  · intro none_
    cases entries : x.ids.entries with
    | nil =>
      unfold isEmpty Table.isEmpty
      rw [entries]
      rfl
    | cons pair rest =>
      have first := none_ pair.1
      unfold contains Table.contains Table.get? at first
      rw [entries] at first
      simp [Table.find] at first

theorem Pool.kind_of_filesystems {pool : Pool} {e : Error} (failed : pool.filesystems = .error e) :
    e.kind = .invalidArgument := by
  unfold filesystems at failed
  split at failed
  · cases failed
  · split at failed
    · cases failed
    · cases failed
      rfl

namespace DiskDriver

variable {disk : DiskDriver} {now : Int} {pool : Pool} {row : Replica} {e : Error}

/-- A location for a replica is refused for the filesystem that is taken to hold it. -/
theorem readLocation_apply {all : List Filesystem} (read : pool.filesystems = .ok all) :
    disk.readLocation now pool row =
      match (hosting? all row).filter (!·.status.allows false) with
      | some fs => .error (.noReplicaAvailable ("filesystem " ++ fs.server ++ ":" ++ fs.path ++ " is disabled"))
      | none => (disk.token now row.physicalPath false).map fun token =>
          ⟨[({ host := row.server, path := row.physicalPath } : Chunk).tag Chunk.tokenKey (.str token)]⟩ := by
  unfold readLocation
  rw [read]
  simp only [bind, Except.bind]
  cases hosted : hosting? all row with
  | none => cases disk.token now row.physicalPath false <;> rfl
  | some fs =>
    cases allowed : fs.status.allows false with
    | true =>
      have serves : (some fs).filter (!·.status.allows false) = none := by simp [allowed]
      rw [serves]
      cases disk.token now row.physicalPath false <;> simp [allowed] <;> rfl
    | false =>
      have closed : (some fs).filter (!·.status.allows false) = some fs := by simp [allowed]
      rw [closed]
      simp only [allowed]
      rfl

theorem kind_of_token {file : String} {write : Bool} (failed : disk.token now file write = .error e) :
    e.kind = .noSecurityContext := by
  unfold token at failed
  rcases Error.bind_eq_error_iff.1 failed with unknown | ⟨_, -, issued⟩
  · unfold TokenSettings.identity at unknown
    split at unknown
    · cases unknown
      rfl
    · split at unknown <;> cases unknown
  · cases issued

/-- A disk driver never speaks of rows that are missing. -/
theorem kind_of_readLocation (failed : disk.readLocation now pool row = .error e) :
    e.kind ≠ .noSuchReplica := by
  cases read : pool.filesystems with
  | error fault =>
    have lost : disk.readLocation now pool row = .error fault := by
      unfold readLocation
      rw [read]
      rfl
    cases lost.symm.trans failed
    rw [Pool.kind_of_filesystems read]
    exact nofun
  | ok all =>
    rw [readLocation_apply read] at failed
    split at failed
    · cases failed
      exact nofun
    · cases issued : disk.token now row.physicalPath false with
      | ok token =>
        rw [issued] at failed
        cases failed
      | error fault =>
        rw [issued] at failed
        cases failed
        rw [kind_of_token issued]
        exact nofun

end DiskDriver

namespace OnSite

/-- No driver speaks of rows that are missing: not when it is to be made, and not when a read asks it. -/
structure Candid (s : OnSite) : Prop where
  discreet : s.Discreet
  unmade {type : String} {e : Error} (failed : s.driverFor type = .error e) : e.kind ≠ .noSuchReplica
  silent {type : String} {node : DriverNode} {pool : Pool} {e : Error} (served : s.driverFor type = .ok node)
    (lost : s.tells node (.isAvailable pool false) = .error e) : e.kind ≠ .noSuchReplica
  refuses {type : String} {node : DriverNode} {pool : Pool} {row : Replica} {e : Error}
    (served : s.driverFor type = .ok node) (lost : s.tells node (.readLocation pool row) = .error e) :
    e.kind ≠ .noSuchReplica

variable {s t : OnSite}

theorem Candid.of_readies (candid : s.Candid) (readies : s.Readies t) : t.Candid where
  discreet := readies.toDrifts.discreet.2 candid.discreet
  unmade failed := candid.unmade ((readies.drivers candid.discreet _).symm.trans failed)
  silent served lost := candid.silent ((readies.drivers candid.discreet _).symm.trans served)
    ((readies.toDrifts.tells _ _).symm.trans lost)
  refuses served lost := candid.refuses ((readies.drivers candid.discreet _).symm.trans served)
    ((readies.toDrifts.tells _ _).symm.trans lost)

theorem tells_disk_readLocation (disk : DiskDriver) (pool : Pool) (row : Replica) :
    s.tells (.disk disk) (.readLocation pool row) = disk.readLocation s.site.host.now pool row :=
  tells_of_query (r := .readLocation pool row) (f := fun host => disk.readLocation host.now pool row) rfl

/-- A driver for disk pools is not made for a type without factory, and not without a secret. -/
theorem kind_of_makeDriver (disks : s.DiskOnly) {type : String} {e : Error}
    (failed : StackM.makeDriver s.site.manager s.stack type = .error e) : e.kind ≠ .noSuchReplica := by
  unfold StackM.makeDriver at failed
  rcases s.site.manager.createDriver_cases type with ⟨⟨_, factory⟩, member, -, made⟩ | missing
  · obtain ⟨options, rfl⟩ : ∃ options, factory = .disk options := disks.makes _ member
    rw [made] at failed
    cases secret : options.secret with
    | none =>
      have unset : options.settings = .error (.malformed "TokenPassword is not set") := by
        unfold TokenOptions.settings
        rw [secret]
      simp only [Factory.driverNode, unset] at failed
      cases failed
      exact nofun
    | some word =>
      have set : options.settings = .ok ⟨word, options.binding, options.lifetime⟩ := by
        unfold TokenOptions.settings
        rw [secret]
      simp only [Factory.driverNode, set] at failed
      cases known : s.stack.security <;> rw [known] at failed <;> cases failed
  · rw [missing] at failed
    cases failed
    exact nofun

/-- The drivers of disk pools speak of tokens and filesystems only. -/
theorem DiskOnly.candid (disks : s.DiskOnly) : s.Candid where
  discreet := disks.discreet
  unmade failed := by
    unfold driverFor at failed
    split at failed
    · cases failed
    rcases Error.bind_eq_error_iff.1 failed with unmade | ⟨_, -, given⟩
    · exact kind_of_makeDriver disks unmade
    · cases given
  silent served lost := by
    obtain ⟨-, disk, rfl⟩ := disks.disk_of_driverFor served
    rw [tells_disk_isAvailable] at lost
    rcases Error.bind_eq_error_iff.1 lost with unread | ⟨_, -, given⟩
    · rw [Pool.kind_of_filesystems unread]
      exact nofun
    · cases given
  refuses served lost := by
    obtain ⟨-, disk, rfl⟩ := disks.disk_of_driverFor served
    rw [tells_disk_readLocation] at lost
    exact DiskDriver.kind_of_readLocation lost

/-- A table of pools knows a pool or not, or there is none to ask. -/
theorem kind_of_pool {name : String} {e : Error} (failed : s.pool name = .error e) :
    e.kind ≠ .noSuchReplica := by
  unfold OnSite.pool at failed
  split at failed
  · cases failed
    exact nofun
  · split at failed
    · unfold PoolTable.pool at failed
      split at failed
      · cases failed
      · cases failed
        exact nofun
    · cases failed
      exact nofun

end OnSite

namespace Resolution

open OnSite StackM

variable {s t : OnSite} {outer : List Decorator} {session : CatalogSession} {ns : Namespace} {path : String}
  {rows : List Replica} {e : Error}

theorem kind_of_freeSpace? (candid : s.Candid) {pool : Pool} (failed : freeSpace? pool false s = .error e t) :
    e.kind ≠ .noSuchReplica := by
  rcases freeSpace?_fails failed with ⟨lost, -⟩ | ⟨node, served, lost⟩
  · exact candid.unmade lost
  · exact candid.silent served lost

theorem kind_of_readCandidate (candid : s.Candid) {row : Replica} (failed : readCandidate row s = .error e t) :
    e.kind ≠ .noSuchReplica := by
  unfold readCandidate at failed
  rcases Action.bind_eq_error_iff.1 failed with unknown | ⟨pool, u, got, asked⟩
  · have lost := (orNone_eq_error_iff.1 unknown).1
    rw [pools_get_apply] at lost
    exact kind_of_pool (Action.eq_error_of_ofExcept lost).1
  · rcases orNone_eq_ok_iff.1 got with ⟨pool, rfl, known⟩ | ⟨rfl, -⟩
    · rw [pools_get_apply] at known
      obtain ⟨-, rfl⟩ := Action.eq_ok_of_ofExcept known
      rcases Action.bind_eq_error_iff.1 asked with untold | ⟨free, v, -, given⟩
      · exact kind_of_freeSpace? candid untold
      · cases free <;> cases given
    · cases asked

theorem kind_of_readCandidates (candid : s.Candid) (failed : readCandidates rows s = .error e t) :
    e.kind ≠ .noSuchReplica := by
  obtain ⟨row, -, u, readies, -, lost⟩ := readCandidates_fails readies_driver failed
  exact kind_of_readCandidate (candid.of_readies readies) lost

/-- Among replicas that are shown, a read does not fail for want of a registered one. -/
theorem kind_of_readAmong (candid : s.Candid) (failed : readAmong path rows s = .error e t) :
    e.kind ≠ .noSuchReplica := by
  unfold readAmong at failed
  rcases Action.bind_eq_error_iff.1 failed with ungathered | ⟨all, u, gathered, chosen⟩
  · exact kind_of_readCandidates candid ungathered
  have gathering := (keeps_readCandidates readies_driver rows).of_ok gathered
  rcases Action.bind_eq_error_iff.1 chosen with never | ⟨choice, v, selected, resolved⟩
  · cases never
  have ready := candid.of_readies (gathering.trans ((readies_select _).of_ok selected))
  cases candidate : choice.bind (all[·]?) with
  | none =>
    simp only [candidate] at resolved
    cases resolved
    exact nofun
  | some c =>
    simp only [candidate] at resolved
    rcases Action.bind_eq_error_iff.1 resolved with unserved | ⟨node, w, given, asked⟩
    · exact ready.unmade (driver_eq_error unserved).1
    · obtain ⟨served, site, -⟩ := driver_eq_ok given
      rcases Action.bind_eq_error_iff.1 asked with refused | ⟨_, _, -, tagged⟩
      · rw [askDriver_looks node rfl, tells_of_site site] at refused
        exact ready.refuses served (Action.eq_error_of_ofExcept refused).1
      · cases tagged

/-- Who may read a file is given a location, or not, by what the decorators leave of its replicas. -/
theorem MayRead.settles (may : MayRead session ns path) (browses : s.BrowsesThrough outer session ns)
    (keyed : ns.EntriesKeyed) :
    whereToRead path s = settle (Path.absolute session.workingDir path)
      (s.stack.excluded.through outer (ns.rowsAt (session.names path))) s := by
  rw [whereToRead_eq]
  exact (Action.bind_of_ok (absolute_apply browses path)).trans
    (Action.bind_of_ok (may.shown browses keyed))

theorem settle_nil (target : String) (s : OnSite) :
    settle target [] s = .error (if s.stack.excluded.isEmpty then
      .noSuchReplica (target ++ " has no replicas")
      else .noReplicaAvailable ("every replica of " ++ target ++ " has been excluded")) s :=
  rfl

/-- What is said of a file without replicas goes by whether anything is excluded. -/
theorem MayRead.missing (may : MayRead session ns path) (browses : s.BrowsesThrough outer session ns)
    (keyed : ns.EntriesKeyed) (none_ : ns.rowsAt (session.names path) = []) :
    whereToRead path s = .error (if s.stack.excluded.isEmpty then
      .noSuchReplica (Path.absolute session.workingDir path ++ " has no replicas")
      else .noReplicaAvailable
        ("every replica of " ++ Path.absolute session.workingDir path ++ " has been excluded")) s := by
  have shown : s.stack.excluded.through outer [] = [] :=
    (s.stack.excluded.through_eq_or outer []).elim id id
  rw [may.settles browses keyed, none_, shown, settle_nil]

/-- Where replicas are hidden or passed over until none is left, it is said that none is available. -/
theorem settle_excluded (target : String) (some_ : rows ≠ [])
    (excluded : ∀ row ∈ rows, s.stack.excluded.contains row.id = true) :
    ∃ e, settle target (s.stack.excluded.through outer rows) s = .error e s ∧
      e.kind = .noReplicaAvailable := by
  have hidden : s.stack.excluded.hide rows = [] := by
    unfold Exclusions.hide
    rw [List.filter_eq_nil_iff]
    intro row member
    simp [excluded row member]
  rcases s.stack.excluded.through_eq_or outer rows with same | none_
  · have candidates : readCandidates rows s = .ok [] s := by
      rw [← readCandidates_hide, hidden]
      rfl
    rw [same]
    unfold settle
    rw [if_neg some_, readAmong_of_none candidates]
    exact ⟨_, rfl, rfl⟩
  · rw [none_, hidden, settle_nil, Exclusions.isEmpty_of_hidden some_ hidden]
    exact ⟨_, rfl, rfl⟩

/-- Where there are replicas, a read does not fail for want of a registered one. -/
theorem kind_of_settle (candid : s.Candid) (some_ : rows ≠ []) {target : String}
    (failed : settle target (s.stack.excluded.through outer rows) s = .error e t) :
    e.kind ≠ .noSuchReplica := by
  by_cases shown : s.stack.excluded.through outer rows = []
  · have hidden : s.stack.excluded.hide rows = [] := by
      rcases s.stack.excluded.through_eq_or outer rows with same | same
      · exact absurd (same.symm.trans shown) some_
      · exact same.symm.trans shown
    rw [shown, settle_nil, Exclusions.isEmpty_of_hidden some_ hidden] at failed
    cases failed
    exact nofun
  · unfold settle at failed
    rw [if_neg shown] at failed
    exact kind_of_readAmong candid failed

/-- A read of a file that may be read fails for want of a registered replica exactly where none is registered
and nothing at all is excluded. -/
theorem wanting_iff (browses : s.Browses session ns) (reachable : ns.Reachable) (candid : s.Candid)
    (may : MayRead session ns path) :
    (∃ e t, whereToRead path s = .error e t ∧ e.kind = .noSuchReplica) ↔
      ns.rowsAt (session.names path) = [] ∧ s.stack.excluded.isEmpty = true := by
  obtain ⟨outer, browses⟩ := browses
  have settles := may.settles browses reachable.entriesKeyed
  have missing := may.missing browses reachable.entriesKeyed
  constructor
  · rintro ⟨e, t, failed, kind⟩
    by_cases none_ : ns.rowsAt (session.names path) = []
    · refine ⟨none_, ?_⟩
      rw [missing none_] at failed
      cases empty : s.stack.excluded.isEmpty with
      | true => rfl
      | false =>
        rw [empty] at failed
        cases failed
        cases kind
    · rw [settles] at failed
      exact absurd kind (kind_of_settle candid none_ failed)
  · rintro ⟨none_, empty⟩
    have failed := missing none_
    rw [if_pos empty] at failed
    exact ⟨_, s, failed, rfl⟩

/-- A read of a file that may be read fails for want of a registered replica exactly where none is registered
and nothing at all is excluded. Where none is registered and something is, be it a replica of another file,
the answer is that every replica of this one has been excluded. Where there are some and all are excluded, it
is that none is available, whatever decorates the catalog. -/
theorem noSuchReplica_iff (browses : s.Browses session ns) (reachable : ns.Reachable) (candid : s.Candid)
    (may : MayRead session ns path) :
    ((∃ e t, whereToRead path s = .error e t ∧ e.kind = .noSuchReplica) ↔
      ns.rowsAt (session.names path) = [] ∧ s.stack.excluded.isEmpty = true) ∧
    (ns.rowsAt (session.names path) = [] →
      whereToRead path s = .error (if s.stack.excluded.isEmpty then
        .noSuchReplica (Path.absolute session.workingDir path ++ " has no replicas")
        else .noReplicaAvailable
          ("every replica of " ++ Path.absolute session.workingDir path ++ " has been excluded")) s) ∧
    (ns.rowsAt (session.names path) ≠ [] →
      (∀ row ∈ ns.rowsAt (session.names path), s.stack.excluded.contains row.id = true) →
        ∃ e, whereToRead path s = .error e s ∧ e.kind = .noReplicaAvailable) := by
  have wanting := wanting_iff browses reachable candid may
  obtain ⟨outer, browses⟩ := browses
  refine ⟨wanting, may.missing browses reachable.entriesKeyed, fun some_ excluded => ?_⟩
  rw [may.settles browses reachable.entriesKeyed]
  exact settle_excluded _ some_ excluded

/-- A file with a replica, and one without. -/
def unreplicated : Namespace :=
  Namespace.initial.run [
    .create { parent := 1, name := "f", stat := { mode := Mode.regular ||| 0o644 } },
    .create { parent := 1, name := "g", stat := { mode := Mode.regular ||| 0o644 } },
    .addReplica { file := 2, pool := "disk", server := "localhost", rfn := "localhost:srv/a/f" }]

/-- A stack that reads them. -/
def visiting : OnSite :=
  desk ReplicaRights.alice unreplicated (Table.ofList [("disk", diskPool "disk" "srv/a" 1000)]) .initial

/-- With the one replica of the first file excluded, the second one, which has none, is said to have lost all
of its own. -/
theorem unreplicated_called_excluded :
    visiting.Browses borrower unreplicated ∧ unreplicated.Reachable ∧ visiting.Candid ∧
      MayRead borrower unreplicated "/g" ∧ unreplicated.rowsAt (borrower.names "/g") = [] ∧
      whereToRead "/g" visiting = .error (.noSuchReplica "/g has no replicas") visiting ∧
      whereToRead "/g" (visiting.excluding 1) =
        .error (.noReplicaAvailable "every replica of /g has been excluded") (visiting.excluding 1) ∧
      ¬ ∃ e t, whereToRead "/g" (visiting.excluding 1) = .error e t ∧ e.kind = .noSuchReplica := by
  have through : visiting.BrowsesThrough [] borrower unreplicated := browses_desk _ _ _ _
  have browses : visiting.Browses borrower unreplicated := ⟨_, through⟩
  have reachable : unreplicated.Reachable := Namespace.Reachable.initial.run (by decide +kernel)
  have disks : visiting.DiskOnly := diskOnly_desk _ _ _ _
  have may : MayRead borrower unreplicated "/g" := mayRead_of_find rfl (by decide +kernel)
  have none_ : unreplicated.rowsAt (borrower.names "/g") = [] := by decide +kernel
  obtain ⟨-, before, -⟩ := noSuchReplica_iff browses reachable disks.candid may
  obtain ⟨exactly_, after, -⟩ :=
    noSuchReplica_iff ⟨_, through.excluding 1⟩ reachable (disks.excluding 1).candid may
  have target : Path.absolute borrower.workingDir "/g" = "/g" := by decide +kernel
  rw [target] at before after
  refine ⟨browses, reachable, disks.candid, may, none_, before none_, after none_, fun missing => ?_⟩
  obtain ⟨-, empty⟩ := exactly_.1 missing
  cases empty

section Retries

variable {α τ : Type} {attempt : Location → τ → Except Error α × τ} {other : String}

/-- A run of the loop leaves catalog and drivers for the next request. -/
theorem Tries.next {t : τ} {trace : List (Location × Except Error α)} {out : Except Error α × τ}
    {after : OnSite} (run : Tries path attempt s t trace out after)
    (browses : s.BrowsesThrough outer session ns) (disks : s.DiskOnly) :
    after.BrowsesThrough outer session ns ∧ after.DiskOnly := by
  induction run with
  | refused failed =>
    have prepares := (prepares_whereToRead path).of_error failed
    exact ⟨prepares.browsesThrough.2 browses, (prepares.disks disks).1⟩
  | used found _ | lost found _ _ =>
    have prepares := (prepares_whereToRead path).of_ok found
    exact ⟨prepares.browsesThrough.2 browses, (prepares.disks disks).1⟩
  | again found failed known rest ih =>
    obtain ⟨browsing, disk, -⟩ := next_round browses disks found _
    exact ih browsing disk

/-- Reading one file with retries decides what is said of another without replicas afterwards: that it has
none, if each try succeeded, and else that all of them have been excluded. -/
theorem noSuchReplica_after_retries (browses : s.Browses session ns) (reachable : ns.Reachable)
    (disks : s.DiskOnly) (may : MayRead session ns other) (none_ : ns.rowsAt (session.names other) = [])
    (path : String) (attempt : Location → τ → Except Error α × τ) (t : τ) :
    ∃ trace out after, Tries path attempt s.begun t trace out after ∧
      readWithRetries path attempt t s = .ok out after ∧
      ((∃ e u, whereToRead other after = .error e u ∧ e.kind = .noSuchReplica) ↔
        ∀ location e, (location, .error e) ∉ trace) := by
  obtain ⟨outer, browses⟩ := browses
  have begins := browses.begun
  have sound := reachable.rowsSound
  obtain ⟨trace, out, after, tries, run⟩ := tries_of_retries browses disks sound path attempt t
  obtain ⟨browsing, disk⟩ := tries.next begins disks.begun
  refine ⟨trace, out, after, tries, run, ?_⟩
  rw [wanting_iff ⟨outer, browsing⟩ reachable disk.candid may]
  have begun : ∀ id, s.begun.stack.excluded.contains id = false := fun _ => rfl
  constructor
  · rintro ⟨-, empty⟩ location e member
    obtain ⟨tried, same, -, -⟩ := tries.rows begins disks.begun sound
    have noted : location.replicaId? ∈ trace.map (·.1.replicaId?) := List.mem_map_of_mem member
    rw [same] at noted
    obtain ⟨row, -, known⟩ := List.mem_map.1 noted
    have excluded := (tries.excluded row.id).2 (.inr ⟨location, e, member, known.symm⟩)
    rw [Exclusions.isEmpty_of_contains excluded] at empty
    cases empty
  · intro none_failed
    refine ⟨none_, ?_⟩
    rw [Exclusions.isEmpty_iff]
    intro id
    rw [Bool.eq_false_iff, Ne, tries.excluded, begun]
    rintro (kept | ⟨location, e, member, -⟩)
    · cases kept
    · exact none_failed location e member

end Retries

end Resolution
end Stowage
