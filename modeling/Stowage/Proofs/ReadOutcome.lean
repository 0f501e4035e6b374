import Stowage.Proofs.RetryOrder

/-! What comes of asking where to read. A location that is given is that of the best replica that can
be offered and read. One is given exactly where no offered replica stands in the way of the others and
the driver has a location for the best: a replica that could be read elsewhere does not help. -/
namespace Stowage.Resolution

open OnSite

variable {s t : OnSite} {outer : List Decorator} {session : CatalogSession} {ns : Namespace}
  {path : String} {rows : List Replica}

/-- A location to read from is that of an available replica of the file that is not excluded and can
be read. No other such replica lies in a pool with more space, and by free space alone none with as
much has a lower id. Each chunk tells what it was resolved from. -/
theorem whereToRead_finds_best (browses : s.Browses session ns) (reachable : ns.Reachable)
    (disks : s.DiskOnly) {location : Location} (found : whereToRead path s = .ok location t) :
    ∃ c : ReadCandidate, c.replica ∈ ns.rowsAt (session.names path) ∧
      c.replica.status = .available ∧ s.stack.excluded.contains c.replica.id = false ∧
      s.Usable c ∧
      (∀ d : ReadCandidate, d.replica ∈ ns.rowsAt (session.names path) → Offered s d.replica →
        s.Usable d → d.free ≤ c.free ∧
          (s.site.manager.placement.policy = .freeSpace → d.free = c.free →
            c.replica.id ≤ d.replica.id)) ∧
      location.chunks ≠ [] ∧
      ∀ chunk ∈ location.chunks, Describes chunk c (Path.absolute session.workingDir path) := by
  obtain ⟨outer, browses⟩ := browses
  obtain ⟨-, c, given, chosen, located, rfl⟩ := whereToRead_eq_ok browses disks found
  obtain ⟨member, ⟨available, kept⟩, usable⟩ := chosen.spec
  obtain ⟨chunk, single, describes⟩ := located.chunks (Path.absolute session.workingDir path)
  refine ⟨c, member, available, kept, usable, fun d row offered reads => ?_, ?_, ?_⟩
  · refine ⟨chosen.most row offered reads, fun policy equal => ?_⟩
    rcases chosen.precedes reachable.rowsSound policy row offered reads with rfl | less | ⟨-, first⟩
    · exact Int.le_refl _
    · omega
    · exact Int.le_of_lt first
  · rw [single]
    exact List.cons_ne_nil _ _
  · rw [single]
    intro other here
    obtain rfl := List.mem_singleton.1 here
    exact describes

/-- Of the replicas of the shared file one in the larger pool is read. -/
theorem shared_read_from_larger_pool :
    lending.Browses borrower shared ∧ shared.Reachable ∧ lending.DiskOnly ∧
      ∃ location t, whereToRead "/f" lending = .ok location t ∧
        ∃ c : ReadCandidate, c.replica ∈ shared.rowsAt (borrower.names "/f") ∧
          Offered lending c.replica ∧
          ∀ chunk ∈ location.chunks, Describes chunk c (Path.absolute borrower.workingDir "/f") := by
  have browses : lending.Browses borrower shared := ⟨_, browses_desk _ _ _ _⟩
  have reachable : shared.Reachable := Namespace.Reachable.initial.run (by decide +kernel)
  have disks : lending.DiskOnly := diskOnly_desk _ _ _ _
  refine ⟨browses, reachable, disks, ?_⟩
  have given : (match whereToRead "/f" lending with
      | .ok .. => true
      | .error .. => false) = true := by
    decide +kernel
  cases found : whereToRead "/f" lending with
  | error e t =>
    rw [found] at given
    cases given
  | ok location t =>
    obtain ⟨c, member, available, kept, -, -, -, describes⟩ :=
      whereToRead_finds_best browses reachable disks found
    exact ⟨location, t, rfl, c, member, ⟨available, kept⟩, describes⟩

/-- The same replicas make the same candidates. -/
theorem Candidates.unique (sound : ns.RowsSound) {names : List String} {all others : List ReadCandidate}
    (first : Candidates s (ns.rowsAt names) all) (second : Candidates s (ns.rowsAt names) others) :
    all = others := by
  have distinct : ∀ {list : List ReadCandidate},
      list.Pairwise (fun a b => a.replica.id < b.replica.id) → list.Nodup := by
    intro list increasing
    apply increasing.imp
    rintro a _ less rfl
    exact Int.lt_irrefl _ less
  have same : all.Perm others := by
    rw [List.perm_ext_iff_of_nodup (distinct (first.increasing sound))
      (distinct (second.increasing sound))]
    intro c
    rw [first.mem_iff, second.mem_iff]
  refine same.eq_of_pairwise (fun _ _ _ _ less more => ?_) (first.increasing sound)
    (second.increasing sound)
  exact absurd (Int.lt_trans less more) (Int.lt_irrefl _)

/-- One candidate at most is chosen. -/
theorem Chosen.unique (sound : ns.RowsSound) {names : List String} {c d : ReadCandidate}
    (first : Chosen s (ns.rowsAt names) c) (second : Chosen s (ns.rowsAt names) d) : d = c := by
  obtain ⟨all, i, candidates, selected, index⟩ := first
  obtain ⟨others, j, gathered, again, place⟩ := second
  obtain rfl := candidates.unique sound gathered
  obtain rfl := Option.some.inj (again.symm.trans selected)
  exact Option.some.inj (place.symm.trans index)

/-- Nothing keeps a read from a location: no offered replica is in the way of others, and the driver
has a location for the chosen one. -/
def Unobstructed (s : OnSite) (rows : List Replica) : Prop :=
  (∀ row ∈ rows, Offered s row → ¬ Blocks s row) ∧
    ∃ c location, Chosen s rows c ∧ Located s c location

/-- Who may read a file is given a location exactly where nothing is in the way. -/
theorem found_iff_unobstructed (browses : s.BrowsesThrough outer session ns)
    (reachable : ns.Reachable) (disks : s.DiskOnly) (may : MayRead session ns path) :
    (∃ location t, whereToRead path s = .ok location t) ↔
      Unobstructed s (ns.rowsAt (session.names path)) := by
  constructor
  · rintro ⟨location, t, found⟩
    obtain ⟨clear, c, given, chosen, located, -⟩ := whereToRead_eq_ok browses disks found
    exact ⟨clear, c, given, chosen, located⟩
  · rintro ⟨clear, c, given, chosen, located⟩
    cases found : whereToRead path s with
    | ok location t => exact ⟨location, t, rfl⟩
    | error e t =>
      obtain ⟨member, offered, usable⟩ := chosen.spec
      rcases whereToRead_refused browses disks reachable.entriesKeyed may found with
        none_ | ⟨row, there, open_, blocks⟩ | ⟨d, other, unlocated⟩ | ⟨none_, -⟩
      · exact absurd usable (none_ c)
      · exact absurd blocks (clear row there open_)
      · obtain rfl := chosen.unique reachable.rowsSound other
        exact absurd located (unlocated given)
      · exact absurd usable (none_ c member offered)

variable {α τ : Type} {attempt : Location → τ → Except Error α × τ}

/-- The loop of retries tries something exactly if its first round finds a location. -/
theorem Tries.tries_iff {after : OnSite} {t : τ} {trace : List (Location × Except Error α)}
    {out : Except Error α × τ} (run : Tries path attempt s t trace out after) :
    trace ≠ [] ↔ ∃ location u, whereToRead path s = .ok location u := by
  cases run with
  | refused failed => simp [failed]
  | used found _ | lost found _ _ | again found _ _ _ => simp [found]

/-- Who may read a file is given a location, and by retries an attempt, exactly where no offered
replica stands in the way of the others and the driver has a location for the one that the policy
chooses. That there is a location for another does not help. -/
theorem whereToRead_succeeds_iff (browses : s.Browses session ns) (reachable : ns.Reachable)
    (disks : s.DiskOnly) (may : MayRead session ns path) :
    ((∃ location t, whereToRead path s = .ok location t) ↔
      Unobstructed s (ns.rowsAt (session.names path))) ∧
      ∀ (attempt : Location → τ → Except Error α × τ) (t : τ), ∃ trace out after,
        Tries path attempt s.begun t trace out after ∧
          readWithRetries path attempt t s = .ok out after ∧
          (trace ≠ [] ↔ Unobstructed s.begun (ns.rowsAt (session.names path))) := by
  obtain ⟨outer, browses⟩ := browses
  refine ⟨found_iff_unobstructed browses reachable disks may, fun attempt t => ?_⟩
  obtain ⟨trace, out, after, tries, run⟩ :=
    tries_of_retries browses disks reachable.rowsSound path attempt t
  refine ⟨trace, out, after, tries, run, ?_⟩
  rw [tries.tries_iff, found_iff_unobstructed browses.begun reachable disks.begun may]

/-- A file with a replica on a filesystem of the large pool and one in the small pool. -/
def halved : Namespace :=
  Namespace.initial.run [
    .create { parent := 1, name := "f", stat := { mode := Mode.regular ||| 0o644 } },
    .addReplica { file := 2, pool := "large", server := "localhost", rfn := "localhost:srv/a/f" },
    .addReplica { file := 2, pool := "small", server := "localhost", rfn := "localhost:srv/c/f" }]

/-- A pool with a filesystem out of service beside one with much space. -/
def halfPool : Pool :=
  ({ name := "large", type := DiskDriver.poolType } : Pool).withFilesystems
    [{ server := "localhost", path := "srv/a", free := 5, total := 5, status := .disabled },
      { server := "localhost", path := "srv/b", free := 2000, total := 2000 }]

/-- A stack that reads this file. -/
def waiting : OnSite :=
  desk ReplicaRights.alice halved (Table.ofList [("large", halfPool),
    ("small", diskPool "small" "srv/c" 1000)]) .initial

/-- The replica in the small pool, as a candidate. -/
def spare : ReadCandidate where
  replica := { id := 2, file := 2, pool := "small", server := "localhost", rfn := "localhost:srv/c/f" }
  pool := diskPool "small" "srv/c" 1000
  free := 1000

/-- The replica in the small pool can be read and located, and there is no location: the one in the
large pool is chosen, and it lies on the filesystem out of service. -/
theorem refused_beside_locatable :
    waiting.Browses borrower halved ∧ halved.Reachable ∧ waiting.DiskOnly ∧
      MayRead borrower halved "/f" ∧
      spare.replica ∈ halved.rowsAt (borrower.names "/f") ∧ Offered waiting spare.replica ∧
      waiting.Usable spare ∧ (∃ location, Located waiting spare location) ∧
      ∃ e t, whereToRead "/f" waiting = .error e t ∧ e.kind = .noReplicaAvailable ∧
        ¬ Unobstructed waiting (halved.rowsAt (borrower.names "/f")) := by
  have browses : waiting.Browses borrower halved := ⟨_, browses_desk _ _ _ _⟩
  have reachable : halved.Reachable := Namespace.Reachable.initial.run (by decide +kernel)
  have disks : waiting.DiskOnly := diskOnly_desk _ _ _ _
  have may : MayRead borrower halved "/f" := mayRead_of_find rfl (by decide +kernel)
  have member : spare.replica ∈ halved.rowsAt (borrower.names "/f") :=
    List.mem_of_getElem? (i := 1) rfl
  have usable : waiting.Usable spare := ⟨rfl, ⟨_, rfl⟩, rfl, rfl⟩
  have clear : [spare.replica].all (clears waiting) = true := by decide +kernel
  refine ⟨browses, reachable, disks, may, member, ⟨rfl, rfl⟩, usable, ?_, ?_⟩
  · obtain ⟨disk, served⟩ := usable.served
    obtain ⟨location, located⟩ :=
      locates_of_clears clear spare List.mem_cons_self rfl usable disk served
    exact ⟨location, disk, served, located⟩
  · have given : (match whereToRead "/f" waiting with
        | .ok .. => false
        | .error e _ => decide (e.kind = .noReplicaAvailable)) = true := by
      decide +kernel
    cases found : whereToRead "/f" waiting with
    | ok location t =>
      rw [found] at given
      cases given
    | error e t =>
      rw [found] at given
      have succeeds := (whereToRead_succeeds_iff (α := Unit) (τ := Unit) browses reachable disks may).1
      refine ⟨e, t, rfl, of_decide_eq_true given, fun clear => ?_⟩
      obtain ⟨location, u, done⟩ := succeeds.2 clear
      rw [found] at done
      cases done

end Stowage.Resolution
