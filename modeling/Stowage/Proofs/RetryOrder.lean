import Stowage.Proofs.ReplicaRights
import Stowage.Proofs.Retries

/-! The order in which retries try replicas. By free space alone, a round offers the best candidate of
those that are left: the one with the most space in its pool, and of equals the one with the lowest
id. Where no try succeeds, all replicas that can be read are tried in this order, and the failure is
then for want of replicas. -/
namespace Stowage

namespace Namespace

theorem EntriesKeyed.child {ns : Namespace} (keyed : ns.EntriesKeyed) {parent : Nat} {name : String}
    {entry : Entry} (found : ns.child parent name = .ok entry) :
    ns.entry entry.stat.ino = .ok entry := by
  obtain ⟨ino, -, stored⟩ := Error.bind_eq_ok_iff.1 found
  rw [keyed ino entry (entry_eq_ok_iff.1 stored)]
  exact stored

theorem EntriesKeyed.opens {ns : Namespace} (keyed : ns.EntriesKeyed) {ctx : SecurityContext}
    {current target : Entry} {names : List String} (opens : ns.Opens ctx current names target)
    (stored : ns.entry current.stat.ino = .ok current) :
    ns.entry target.stat.ino = .ok target := by
  induction opens with
  | here entry => exact stored
  | down directory searchable named below ih => exact ih (keyed.child named)

/-- The replicas of a file that is reached can be listed. -/
theorem EntriesKeyed.listed {ns : Namespace} (keyed : ns.EntriesKeyed) {ctx : SecurityContext}
    {names : List String} {entry : Entry} (reaches : ns.Reaches ctx names entry) :
    ns.replicasOf entry.stat.ino = .ok (ns.rowsAt names) := by
  have there := at?_of_reaches reaches
  obtain ⟨root, top, opens⟩ := reaches
  have stored := keyed.opens opens (keyed.child top)
  unfold replicasOf rowsAt
  rw [stored, there]
  rfl

end Namespace

namespace OnSite

variable {s : OnSite}

/-- The replica can be read: its pool is known, served by a driver, and has a filesystem for reading. -/
def Serves (s : OnSite) (row : Replica) : Prop :=
  ∃ pool, s.pool row.pool = .ok pool ∧ (∃ disk, s.driverFor pool.type = .ok (.disk disk)) ∧
    pool.hasUsableFilesystem false = .ok true

/-- What can be read can be ranked: the free space of its pool is known. -/
theorem serves_iff {row : Replica} : s.Serves row ↔ ∃ c, c.replica = row ∧ s.Usable c := by
  constructor
  · rintro ⟨pool, known, served, readable⟩
    cases read : pool.filesystems with
    | error e =>
      unfold Pool.hasUsableFilesystem at readable
      rw [read] at readable
      cases readable
    | ok all =>
      have space : ∃ free, DiskDriver.freeSpace pool = .ok free := by
        unfold DiskDriver.freeSpace
        rw [read]
        exact ⟨_, rfl⟩
      obtain ⟨free, space⟩ := space
      exact ⟨⟨row, pool, free⟩, rfl, known, served, readable, space⟩
  · rintro ⟨c, rfl, usable⟩
    exact ⟨c.pool, usable.known, usable.served, usable.readable⟩

/-- A replica is read in one way. -/
theorem Usable.unique {c d : Resolution.ReadCandidate} (first : s.Usable c) (second : s.Usable d)
    (same : d.replica = c.replica) : d = c := by
  have pools := second.known
  rw [same, first.known] at pools
  have pool := Except.ok.inj pools
  have spaces := second.space
  rw [← pool, first.space] at spaces
  have free := Except.ok.inj spaces
  obtain ⟨row, held, amount⟩ := c
  obtain ⟨other, kept, more⟩ := d
  dsimp only at same pool free
  rw [same, pool, free]

theorem usable_excluding {id : Int} {c : Resolution.ReadCandidate} :
    (s.excluding id).Usable c ↔ s.Usable c :=
  ⟨fun ⟨known, served, readable, space⟩ => ⟨known, served, readable, space⟩,
    fun ⟨known, served, readable, space⟩ => ⟨known, served, readable, space⟩⟩

theorem usable_begun {c : Resolution.ReadCandidate} : s.begun.Usable c ↔ s.Usable c :=
  ⟨fun ⟨known, served, readable, space⟩ => ⟨known, served, readable, space⟩,
    fun ⟨known, served, readable, space⟩ => ⟨known, served, readable, space⟩⟩

end OnSite

namespace Resolution

open OnSite

/-- The first candidate is better: its pool has more space, or as much and its id is lower. -/
def Precedes (c d : ReadCandidate) : Prop :=
  d.free < c.free ∨ c.free = d.free ∧ c.replica.id < d.replica.id

/-- Nothing but the tries stands between the session and the replicas of the file at the path: its
identity may read the file, the filesystems of the pools can be read, and the driver has a location
for every replica that can be read. -/
structure Readable (s : OnSite) (session : CatalogSession) (ns : Namespace) (path : String) :
    Prop where
  mayRead : ∃ ctx entry, session.security = some ctx ∧
    ns.Reaches ctx (session.names path) entry ∧ entry.stat.isDirectory = false ∧
    entry.permits ctx Mode.read = true
  tables : TablesRead s (ns.rowsAt (session.names path))
  locates : Locates s (ns.rowsAt (session.names path))

variable {s u after : OnSite} {outer : List Decorator} {session : CatalogSession} {ns : Namespace}
  {path : String} {rows : List Replica}

/-- What is readable in one round is readable in the next. -/
theorem Readable.next (readable : Readable s session ns path) (disks : s.DiskOnly)
    (prepares : s.Prepares u) (id : Int) : Readable (u.excluding id) session ns path where
  mayRead := readable.mayRead
  tables row member pool known := readable.tables row member pool ((prepares.pool _).symm.trans known)
  locates c member available usable disk served := by
    have before := (Usable.of_prepares disks prepares).1 (usable_excluding.1 usable)
    have driver := ((prepares.disks disks).2 c.pool.type).symm.trans served
    obtain ⟨location, located⟩ := readable.locates c member available before disk driver
    have clock : (u.excluding id).site.host = s.site.host := prepares.host
    exact ⟨location, clock ▸ located⟩

theorem Readable.begun (readable : Readable s session ns path) :
    Readable s.begun session ns path where
  mayRead := readable.mayRead
  tables := readable.tables
  locates c member available usable :=
    readable.locates c member available (usable_begun.1 usable)

/-- Of candidates in order of their ids, the one chosen by free space precedes all others. -/
theorem precedes_of_select {all : List ReadCandidate} {p : Placement} {i : Nat} {c d : ReadCandidate}
    (increasing : all.Pairwise fun a b => a.replica.id < b.replica.id)
    (policy : p.policy = .freeSpace) (chosen : (p.select (all.map (·.free))).1 = some i)
    (index : all[i]? = some c) (member : d ∈ all) : d = c ∨ Precedes c d := by
  have best := Placement.mem_tied.1 (Placement.mem_tied_of_select chosen)
  rw [List.getElem?_map, index] at best
  have most : c.free = Placement.best (all.map (·.free)) := Option.some.inj best
  have less : d.free ≤ Placement.best (all.map (·.free)) :=
    Placement.le_best (List.mem_map_of_mem member)
  by_cases fewer : d.free < c.free
  · exact .inr (.inl fewer)
  -- With as much space, the other one stands later among the candidates.
  have equal : c.free = d.free := by omega
  obtain ⟨j, other⟩ := List.getElem?_of_mem member
  have tied : j ∈ Placement.tied (all.map (·.free)) := by
    rw [Placement.mem_tied, List.getElem?_map, other, ← most, equal]
    rfl
  have first := Placement.select_first policy chosen tied
  rcases Nat.eq_or_lt_of_le first with same | later
  · rw [same, other] at index
    exact .inl (Option.some.inj index)
  · obtain ⟨here, rfl⟩ := List.getElem?_eq_some_iff.1 index
    obtain ⟨there, rfl⟩ := List.getElem?_eq_some_iff.1 other
    exact .inr (.inr ⟨equal, List.pairwise_iff_getElem.1 increasing i j here there later⟩)

/-- Candidates come in order of their ids. -/
theorem Candidates.increasing (sound : ns.RowsSound) {names : List String} {all : List ReadCandidate}
    (candidates : Candidates s (ns.rowsAt names) all) :
    all.Pairwise fun a b => a.replica.id < b.replica.id :=
  (List.pairwise_map (R := fun a b : Replica => a.id < b.id)).1
    (List.Pairwise.sublist candidates.ordered (sound.increasing names))

/-- No candidate has more space than the one that is chosen. -/
theorem Chosen.most {c d : ReadCandidate} (chosen : Chosen s rows c) (member : d.replica ∈ rows)
    (offered : Offered s d.replica) (usable : s.Usable d) : d.free ≤ c.free := by
  obtain ⟨all, i, candidates, selected, index⟩ := chosen
  have best := Placement.mem_tied.1 (Placement.mem_tied_of_select selected)
  rw [List.getElem?_map, index] at best
  have most : c.free = Placement.best (all.map (·.free)) := Option.some.inj best
  rw [most]
  exact Placement.le_best (List.mem_map_of_mem ((candidates.mem_iff d).2 ⟨member, offered, usable⟩))

/-- By free space alone, the one that is chosen precedes all other candidates. -/
theorem Chosen.precedes (sound : ns.RowsSound) (policy : s.site.manager.placement.policy = .freeSpace)
    {names : List String} {c d : ReadCandidate} (chosen : Chosen s (ns.rowsAt names) c)
    (member : d.replica ∈ ns.rowsAt names) (offered : Offered s d.replica) (usable : s.Usable d) :
    d = c ∨ Precedes c d := by
  obtain ⟨all, i, candidates, selected, index⟩ := chosen
  exact precedes_of_select (candidates.increasing sound) policy selected index
    ((candidates.mem_iff d).2 ⟨member, offered, usable⟩)

/-- A round offers the best of the replicas that are left. -/
theorem whereToRead_best (browses : s.BrowsesThrough outer session ns) (disks : s.DiskOnly)
    (sound : ns.RowsSound) (policy : s.site.manager.placement.policy = .freeSpace)
    {location : Location} (found : whereToRead path s = .ok location u) :
    ∃ c, location.replicaId? = some c.replica.id ∧ c.replica ∈ ns.rowsAt (session.names path) ∧
      Offered s c.replica ∧ s.Usable c ∧
      ∀ d, d.replica ∈ ns.rowsAt (session.names path) → Offered s d.replica → s.Usable d →
        d = c ∨ Precedes c d := by
  obtain ⟨-, c, given, chosen, located, rfl⟩ := whereToRead_eq_ok browses disks found
  obtain ⟨member, offered, usable⟩ := chosen.spec
  have known := located.replicaId? (Path.absolute session.workingDir path)
    (sound.word_of_mem member)
  exact ⟨c, known, member, offered, usable, fun d => chosen.precedes sound policy⟩

/-- The identity of the session may read the file at the path. -/
def MayRead (session : CatalogSession) (ns : Namespace) (path : String) : Prop :=
  ∃ ctx entry, session.security = some ctx ∧ ns.Reaches ctx (session.names path) entry ∧
    entry.stat.isDirectory = false ∧ entry.permits ctx Mode.read = true

/-- Who may read a file is shown its replicas, as the decorators leave them. -/
theorem MayRead.shown (may : MayRead session ns path) (browses : s.BrowsesThrough outer session ns)
    (keyed : ns.EntriesKeyed) :
    StackM.catalog (.replicas (Path.absolute session.workingDir path)) s =
      .ok (s.stack.excluded.through outer (ns.rowsAt (session.names path))) s := by
  obtain ⟨ctx, entry, known, reaches, plain, granted⟩ := may
  refine (replicas_eq_ok_iff browses).2 ⟨⟨ctx, entry, _, known, ?_, plain, granted,
    keyed.listed reaches, rfl⟩, rfl⟩
  rw [CatalogSession.names_absolute]
  exact reaches

/-- For who may read the file there is no location where nothing can be read at all, where an offered
replica is in the way of the others, where the driver has none for the chosen candidate, and for want
of candidates; if that is because all has been tried, it is said so. -/
theorem whereToRead_refused (browses : s.BrowsesThrough outer session ns) (disks : s.DiskOnly)
    (keyed : ns.EntriesKeyed) (may : MayRead session ns path) {e : Error}
    (failed : whereToRead path s = .error e u) :
    (∀ c, ¬ s.Usable c) ∨
      (∃ row ∈ ns.rowsAt (session.names path), Offered s row ∧ Blocks s row) ∨
      (∃ c, Chosen s (ns.rowsAt (session.names path)) c ∧ ∀ location, ¬ Located s c location) ∨
      (∀ c : ReadCandidate, c.replica ∈ ns.rowsAt (session.names path) → Offered s c.replica →
        ¬ s.Usable c) ∧
        (s.stack.excluded.isEmpty = false → e.kind = .noReplicaAvailable) := by
  have seen := absolute_apply browses path
  have shown := may.shown browses keyed
  -- What is hidden is excluded, so it makes no difference to what is offered.
  have hidden : ∀ row, Offered s row → row ∈ ns.rowsAt (session.names path) →
      row ∈ s.stack.excluded.through outer (ns.rowsAt (session.names path)) :=
    fun row offered member => (Exclusions.mem_through offered.2 outer _).2 member
  by_cases none_ : s.stack.excluded.through outer (ns.rowsAt (session.names path)) = []
  · rw [none_] at shown hidden
    rw [whereToRead_of_none seen shown] at failed
    cases failed
    refine .inr (.inr (.inr ⟨fun c member offered _ => ?_, fun filled => ?_⟩))
    · cases hidden _ offered member
    · rw [filled]
      rfl
  · rw [whereToRead_of_some seen shown none_] at failed
    have less := (Exclusions.through_sublist s.stack.excluded outer
      (ns.rowsAt (session.names path))).subset
    rcases readAmong_eq_error disks failed with
      unusable | ⟨row, member, blocks⟩ | ⟨c, chosen, unlocated⟩ | ⟨unusable, kind⟩
    · exact .inl unusable
    · exact .inr (.inl ⟨row, less member, blocks⟩)
    · exact .inr (.inr (.inl ⟨c, chosen.of_through, unlocated⟩))
    · exact .inr (.inr (.inr
        ⟨fun c member offered => unusable c (hidden _ offered member) offered, fun _ => kind⟩))

/-- A round fails only where nothing is left; if that is because all has been tried, it says so. -/
theorem whereToRead_eq_error (browses : s.BrowsesThrough outer session ns) (disks : s.DiskOnly)
    (keyed : ns.EntriesKeyed) (readable : Readable s session ns path) {e : Error}
    (failed : whereToRead path s = .error e u) :
    (∀ c, c.replica ∈ ns.rowsAt (session.names path) → Offered s c.replica → ¬ s.Usable c) ∧
      ((∃ c, s.Usable c) → s.stack.excluded.isEmpty = false → e.kind = .noReplicaAvailable) := by
  rcases whereToRead_refused browses disks keyed readable.mayRead failed with
    unusable | ⟨row, member, -, blocks⟩ | ⟨c, chosen, unlocated⟩ | ⟨unusable, kind⟩
  · exact ⟨fun c _ _ => unusable c, fun ⟨c, usable⟩ => absurd usable (unusable c)⟩
  · exact absurd blocks (not_blocks_of_tablesRead readable.tables member)
  · obtain ⟨member, offered, usable⟩ := chosen.spec
    obtain ⟨disk, served⟩ := usable.served
    obtain ⟨location, located⟩ := readable.locates c member offered.1 usable disk served
    exact absurd ⟨disk, served, located⟩ (unlocated location)
  · exact ⟨unusable, fun _ => kind⟩

variable {α τ : Type} {attempt : Location → τ → Except Error α × τ}

/-- The candidates that can be offered, the better ones first. -/
structure Ranks (s : OnSite) (rows : List Replica) (ranked : List ReadCandidate) : Prop where
  mem_iff : ∀ c, c ∈ ranked ↔ c.replica ∈ rows ∧ Offered s c.replica ∧ s.Usable c
  ordered : ranked.Pairwise Precedes

/-- Where the best candidate comes before those that can be offered without it, all are ranked. -/
theorem Ranks.cons {names : List String} (sound : ns.RowsSound) {c : ReadCandidate}
    (member : c.replica ∈ ns.rowsAt names) (offered : Offered s c.replica) (usable : s.Usable c)
    (best : ∀ d, d.replica ∈ ns.rowsAt names → Offered s d.replica → s.Usable d →
      d = c ∨ Precedes c d)
    (left : ∀ row, Offered u row ↔ Offered s row ∧ row.id ≠ c.replica.id)
    (same : ∀ d, u.Usable d ↔ s.Usable d) {ranked : List ReadCandidate}
    (ranks : Ranks u (ns.rowsAt names) ranked) : Ranks s (ns.rowsAt names) (c :: ranked) := by
  have rest : ∀ d, d ∈ ranked ↔ d.replica ∈ ns.rowsAt names ∧
      (Offered s d.replica ∧ d.replica.id ≠ c.replica.id) ∧ s.Usable d := by
    intro d
    rw [ranks.mem_iff, left, same]
  refine ⟨fun d => ?_, List.pairwise_cons.2 ⟨fun d later => ?_, ranks.ordered⟩⟩
  · rw [List.mem_cons, rest]
    constructor
    · rintro (rfl | ⟨row, ⟨open_, -⟩, reads⟩)
      · exact ⟨member, offered, usable⟩
      · exact ⟨row, open_, reads⟩
    · rintro ⟨row, open_, reads⟩
      by_cases again_ : d.replica.id = c.replica.id
      · exact .inl (usable.unique reads (sound.unique row member again_))
      · exact .inr ⟨row, ⟨open_, again_⟩, reads⟩
  · obtain ⟨row, ⟨open_, other⟩, reads⟩ := (rest d).1 later
    rcases best d row open_ reads with rfl | worse
    · exact absurd rfl other
    · exact worse

/-- Where no try succeeds, the loop tries all replicas that it may offer, the better ones first; once
one was tried, it ends for want of replicas. -/
theorem Tries.ranked {t : τ} {trace : List (Location × Except Error α)} {out : Except Error α × τ}
    (run : Tries path attempt s t trace out after)
    (browses : s.BrowsesThrough outer session ns) (disks : s.DiskOnly)
    (sound : ns.RowsSound) (keyed : ns.EntriesKeyed)
    (policy : s.site.manager.placement.policy = .freeSpace) (readable : Readable s session ns path)
    (failures : ∀ pair ∈ trace, ∃ e, pair.2 = .error e) :
    ∃ ranked : List ReadCandidate, trace.map (·.1.replicaId?) = ranked.map (some ·.replica.id) ∧
      Ranks s (ns.rowsAt (session.names path)) ranked ∧
      (trace ≠ [] ∨ (∃ c, s.Usable c) ∧ s.stack.excluded.isEmpty = false →
        ∃ e, out.1 = .error e ∧ e.kind = .noReplicaAvailable) := by
  induction run with
  | refused failed =>
    obtain ⟨none_, kind⟩ := whereToRead_eq_error browses disks keyed readable failed
    refine ⟨[], rfl, ⟨fun c => ?_, .nil⟩, ?_⟩
    · constructor
      · exact nofun
      · exact fun ⟨member, offered, usable⟩ => absurd usable (none_ c member offered)
    · rintro (tried | ⟨usable, filled⟩)
      · exact absurd rfl tried
      · exact ⟨_, rfl, kind usable filled⟩
  | used found worked =>
    obtain ⟨e, failed⟩ := failures _ List.mem_cons_self
    cases failed
  | lost found failed unknown =>
    obtain ⟨c, known, -⟩ := whereToRead_best browses disks sound policy found
    rw [unknown] at known
    cases known
  | @again s u after t next location e id trace out found failed known rest ih =>
    obtain ⟨c, named, member, offered, usable, best⟩ :=
      whereToRead_best browses disks sound policy found
    obtain rfl := Option.some.inj (named.symm.trans known)
    have prepares := (prepares_whereToRead path).of_ok found
    obtain ⟨browsing, disk, left⟩ := next_round browses disks found c.replica.id
    have same : ∀ d, (u.excluding c.replica.id).Usable d ↔ s.Usable d :=
      fun d => usable_excluding.trans (Usable.of_prepares disks prepares)
    obtain ⟨ranked, ids, ranks, ending⟩ := ih browsing disk (prepares.policy.trans policy)
      (readable.next disks prepares _) fun pair later => failures pair (List.mem_cons_of_mem _ later)
    refine ⟨c :: ranked, ?_, ranks.cons sound member offered usable best left same, fun _ => ?_⟩
    · rw [List.map_cons, List.map_cons, ids, known]
    · have filled : (u.excluding c.replica.id).stack.excluded.contains c.replica.id = true := by
        refine (Exclusions.contains_insert _ _ _).trans ?_
        rw [decide_eq_true rfl, Bool.true_or]
      exact ending (.inr ⟨⟨c, (same c).2 usable⟩, Exclusions.isEmpty_of_contains filled⟩)

/-- At the beginning of an operation every available replica can be offered. -/
theorem offered_begun {row : Replica} : Offered s.begun row ↔ row.status = .available :=
  ⟨And.left, fun available => ⟨available, rfl⟩⟩

theorem remaining_begun (rows : List Replica) :
    remaining s.begun rows = rows.filter (·.status = .available) := by
  unfold remaining
  congr 1
  funext row
  simp [offered_begun]

/-- Reading with retries is the loop from the beginning of an operation, so it ends whatever the
attempts do. It tries different available replicas, each at most once, and what is excluded in the
end are those whose try failed. By free space alone and with nothing but the tries in the way, a read
without success has tried all replicas that can be read, the better ones first, and if there was one
it fails for want of replicas. -/
theorem readWithRetries_tries_each_once (browses : s.Browses session ns) (reachable : ns.Reachable)
    (disks : s.DiskOnly) (path : String) (attempt : Location → τ → Except Error α × τ) (t : τ) :
    ∃ trace out after, Tries path attempt s.begun t trace out after ∧
      readWithRetries path attempt t s = .ok out after ∧
      (∃ tried : List Replica, trace.map (·.1.replicaId?) = tried.map (some ·.id) ∧
        tried.Pairwise (fun a b => a.id ≠ b.id) ∧
        ∀ row ∈ tried, row ∈ ns.rowsAt (session.names path) ∧ row.status = .available) ∧
      trace.length ≤ ((ns.rowsAt (session.names path)).filter (·.status = .available)).length ∧
      (∀ id, after.stack.excluded.contains id = true ↔
        ∃ location e, (location, .error e) ∈ trace ∧ location.replicaId? = some id) ∧
      (s.site.manager.placement.policy = .freeSpace → Readable s session ns path →
        (∀ pair ∈ trace, ∃ e, pair.2 = .error e) →
        ∃ ranked : List ReadCandidate,
          trace.map (·.1.replicaId?) = ranked.map (some ·.replica.id) ∧
          ranked.Pairwise Precedes ∧ (∀ c ∈ ranked, s.Usable c) ∧
          (∀ row, row ∈ ranked.map (·.replica) ↔
            row ∈ ns.rowsAt (session.names path) ∧ row.status = .available ∧ s.Serves row) ∧
          (trace ≠ [] → ∃ e, out.1 = .error e ∧ e.kind = .noReplicaAvailable)) := by
  obtain ⟨outer, browses⟩ := browses
  have sound := reachable.rowsSound
  have begins := browses.begun
  obtain ⟨trace, out, after, tries, run⟩ := tries_of_retries browses disks sound path attempt t
  refine ⟨trace, out, after, tries, run, ?_, ?_, fun id => ?_, fun policy readable failures => ?_⟩
  · obtain ⟨tried, same, distinct, each⟩ := tries.rows begins disks.begun sound
    refine ⟨tried, same, distinct, fun row member => ?_⟩
    obtain ⟨there, offered⟩ := each row member
    exact ⟨there, offered.1⟩
  · rw [← remaining_begun (s := s)]
    exact tries.length_le begins disks.begun sound
  · have none_ : s.begun.stack.excluded.contains id = false := rfl
    rw [tries.excluded, none_]
    simp
  · obtain ⟨ranked, same, ⟨each, ordered⟩, ending⟩ := tries.ranked begins disks.begun sound
      reachable.entriesKeyed policy readable.begun failures
    have usable : ∀ c ∈ ranked, s.Usable c :=
      fun c member => usable_begun.1 ((each c).1 member).2.2
    refine ⟨ranked, same, ordered, usable, fun row => ?_, fun tried => ending (.inl tried)⟩
    rw [List.mem_map, serves_iff]
    constructor
    · rintro ⟨c, member, rfl⟩
      obtain ⟨there, offered, -⟩ := (each c).1 member
      exact ⟨there, offered.1, c, rfl, usable c member⟩
    · rintro ⟨there, available, c, rfl, reads⟩
      exact ⟨c, (each c).2 ⟨there, offered_begun.2 available, usable_begun.2 reads⟩, rfl⟩

/-- Whether the filesystems of the pool can be read and its driver has a location for the replica, as
far as there are pool and driver. -/
def clears (s : OnSite) (row : Replica) : Bool :=
  match s.pool row.pool with
  | .error _ => true
  | .ok pool =>
    pool.filesystems.toBool &&
      match s.driverFor pool.type with
      | .ok (.disk disk) => (disk.readLocation s.site.host.now pool row).toBool
      | _ => true

theorem exists_of_toBool {ε β : Type} {r : Except ε β} (done : r.toBool = true) : ∃ b, r = .ok b := by
  cases r with
  | ok b => exact ⟨b, rfl⟩
  | error e => cases done

theorem tablesRead_of_clears (clear : rows.all (clears s) = true) : TablesRead s rows := by
  intro row member pool known
  have checked := List.all_eq_true.1 clear row member
  unfold clears at checked
  simp only [known, Bool.and_eq_true] at checked
  exact exists_of_toBool checked.1

theorem locates_of_clears (clear : rows.all (clears s) = true) : Locates s rows := by
  intro c member _ usable disk served
  have checked := List.all_eq_true.1 clear c.replica member
  unfold clears at checked
  simp only [usable.known, served, Bool.and_eq_true] at checked
  exact exists_of_toBool checked.2

/-- A file with three available replicas in two pools, and one that is still being written. -/
def shared : Namespace :=
  Namespace.initial.run [
    .create { parent := 1, name := "f", stat := { mode := Mode.regular ||| 0o644 } },
    .addReplica { file := 2, pool := "small", server := "localhost", rfn := "localhost:srv/a/f" },
    .addReplica { file := 2, pool := "large", server := "localhost", rfn := "localhost:srv/b/f" },
    .addReplica { file := 2, pool := "large", server := "localhost", rfn := "localhost:srv/b/g" },
    .addReplica { file := 2, pool := "large", server := "localhost", rfn := "localhost:srv/b/h",
                  status := .beingPopulated }]

/-- A stack that reads this file. -/
def lending : OnSite :=
  desk ReplicaRights.alice shared (Table.ofList [("small", diskPool "small" "srv/a" 1000),
    ("large", diskPool "large" "srv/b" 2000)]) .initial

/-- An attempt that always fails, and notes what it was given. -/
def refuse (location : Location) (seen : List (Option Int)) : Except Error Unit × List (Option Int) :=
  (.error (.permissionDenied "refused"), seen ++ [location.replicaId?])

/-- The session of this stack. -/
def borrower : CatalogSession :=
  { security := some ReplicaRights.alice }

/-- Who finds a plain file that permits reading may read it. -/
theorem mayRead_of_find {ctx : SecurityContext} (known : session.security = some ctx)
    (open_ : (ns.find ctx (Path.absolute session.workingDir path)).toOption.any
      (fun entry => !entry.stat.isDirectory && entry.permits ctx Mode.read) = true) :
    MayRead session ns path := by
  obtain ⟨entry, found, granted⟩ := (Option.any_eq_true _ _).1 open_
  rw [Bool.and_eq_true, Bool.not_eq_true'] at granted
  cases walk : ns.find ctx (Path.absolute session.workingDir path) with
  | error e =>
    rw [walk] at found
    cases found
  | ok target =>
    rw [walk] at found
    cases found
    exact ⟨ctx, entry, known, Namespace.find_eq_ok_iff.1 walk, granted⟩

theorem readable_lending : Readable lending borrower shared "/f" := by
  have clear : (shared.rowsAt (borrower.names "/f")).all (clears lending) = true := by
    decide +kernel
  have may : MayRead borrower shared "/f" := mayRead_of_find rfl (by decide +kernel)
  exact ⟨may, tablesRead_of_clears clear, locates_of_clears clear⟩

/-- The replica in the smaller pool is tried last, and the one that is being written is not tried. -/
theorem replicas_tried_by_space :
    lending.Browses borrower shared ∧ shared.Reachable ∧ lending.DiskOnly ∧
      ∃ out after, readWithRetries "/f" refuse [] lending = .ok out after ∧
        out.2 = [some 2, some 3, some 1] ∧
        ∃ e, out.1 = .error e ∧ e.kind = .noReplicaAvailable := by
  have browses : lending.Browses borrower shared := ⟨_, browses_desk _ _ _ _⟩
  have reachable : shared.Reachable := Namespace.Reachable.initial.run (by decide +kernel)
  have disks : lending.DiskOnly := diskOnly_desk _ _ _ _
  refine ⟨browses, reachable, disks, ?_⟩
  obtain ⟨trace, out, after, tries, run, -, -, -, order⟩ :=
    readWithRetries_tries_each_once browses reachable disks "/f" refuse []
  have given : (match readWithRetries "/f" refuse [] lending with
      | .ok out _ => decide (out.2 = [some 2, some 3, some 1])
      | .error .. => false) = true := by
    decide +kernel
  rw [run] at given
  have order_ : out.2 = [some 2, some 3, some 1] := of_decide_eq_true given
  have tried : trace ≠ [] := by
    rintro rfl
    cases tries
    cases order_
  have failures : ∀ pair ∈ trace, ∃ e, pair.2 = .error e := by
    rintro ⟨location, result⟩ member
    obtain ⟨before, same⟩ := tries.attempted member
    exact ⟨_, same.symm⟩
  obtain ⟨ranked, -, -, -, -, ending⟩ := order rfl readable_lending failures
  exact ⟨out, after, run, order_, ending tried⟩

end Resolution
end Stowage
