import Stowage.Proofs.ReadChoice

/-! Retries of a read, as a loop without a counter: a location is found and tried, and a failed try
excludes the replica of the location. Every round but the last leaves one available replica less to
offer, so the loop ends and the rounds that are counted beforehand are enough for it; no replica is
tried twice, and what ends up excluded are the replicas whose try failed. -/
namespace Stowage

namespace Exclusions

theorem contains_insert (x : Exclusions) (id other : Int) :
    (x.insert id).contains other = (decide (other = id) || x.contains other) := by
  unfold contains insert Table.contains
  rw [Table.get?_insert]
  by_cases same : other = id <;> simp [same]

theorem isEmpty_of_contains {x : Exclusions} {id : Int} (excluded : x.contains id = true) :
    x.isEmpty = false := by
  unfold isEmpty Table.isEmpty
  cases entries : x.ids.entries with
  | nil =>
    unfold contains Table.contains Table.get? at excluded
    rw [entries] at excluded
    cases excluded
  | cons pair rest => rfl

/-- What is not excluded is shown through any decorators. -/
theorem mem_through {x : Exclusions} {row : Replica} (kept : x.contains row.id = false)
    (outer : List Decorator) (rows : List Replica) : row ∈ x.through outer rows ↔ row ∈ rows := by
  rw [mem_through_iff]
  simp [kept]

/-- Where nothing is excluded, nothing is hidden. -/
theorem through_none (outer : List Decorator) (rows : List Replica) :
    ({} : Exclusions).through outer rows = rows := by
  have all : ∀ list : List Replica, ({} : Exclusions).hide list = list :=
    fun list => List.filter_eq_self.2 fun _ _ => rfl
  unfold through
  induction outer with
  | nil => rfl
  | cons d rest ih =>
    rw [List.foldr_cons, ih]
    split
    · exact all rows
    · rfl

end Exclusions

namespace Namespace

variable {ns : Namespace} {names : List String} {row : Replica}

/-- The replicas of the file at a path, in order of their ids. -/
def rowsAt (ns : Namespace) (names : List String) : List Replica :=
  match ns.at? names with
  | some entry => ns.replicas.values.filter fun row => row.file = entry.stat.ino
  | none => []

theorem rowsAt_sublist (ns : Namespace) (names : List String) :
    (ns.rowsAt names).Sublist ns.replicas.values := by
  unfold rowsAt
  split
  · exact List.filter_sublist
  · exact List.nil_sublist _

theorem RowsSound.get?_of_mem (sound : ns.RowsSound) (member : row ∈ ns.replicas.values) :
    ns.replicas.get? row.id = some row := by
  obtain ⟨⟨key, value⟩, stored, rfl⟩ := List.mem_map.1 member
  have found := (Table.get?_eq_some_iff sound.ordered).2 stored
  rw [sound.keyed found]
  exact found

theorem RowsSound.word_of_mem (sound : ns.RowsSound) (member : row ∈ ns.rowsAt names) :
    IsWord row.id :=
  sound.words (sound.get?_of_mem ((ns.rowsAt_sublist names).subset member))

/-- A path has no two replicas of one id. -/
theorem RowsSound.unique (sound : ns.RowsSound) {other : Replica} (member : row ∈ ns.rowsAt names)
    (there : other ∈ ns.rowsAt names) (same : row.id = other.id) : row = other := by
  have first := sound.get?_of_mem ((ns.rowsAt_sublist names).subset member)
  have second := sound.get?_of_mem ((ns.rowsAt_sublist names).subset there)
  rw [same, second] at first
  exact (Option.some.inj first).symm

theorem RowsSound.increasing (sound : ns.RowsSound) (names : List String) :
    (ns.rowsAt names).Pairwise fun a b => a.id < b.id := by
  have keys : ns.replicas.entries.Pairwise fun a b => a.2.id < b.2.id := by
    refine List.Pairwise.imp_of_mem ?_ sound.ordered
    rintro ⟨low, first⟩ ⟨high, second⟩ here there less
    have lower := sound.keyed ((Table.get?_eq_some_iff sound.ordered).2 here)
    have upper := sound.keyed ((Table.get?_eq_some_iff sound.ordered).2 there)
    change first.id < second.id
    rw [lower, upper]
    exact Int.compare_eq_lt.1 less
  have values : ns.replicas.values.Pairwise fun a b => a.id < b.id := List.pairwise_map.2 keys
  exact values.sublist (ns.rowsAt_sublist names)

theorem rowsAt_of_reaches {ctx : SecurityContext} {entry : Entry} {all : List Replica}
    (reaches : ns.Reaches ctx names entry) (listed : ns.replicasOf entry.stat.ino = .ok all) :
    all = ns.rowsAt names := by
  obtain ⟨-, -, same⟩ := Error.bind_eq_ok_iff.1 listed
  cases same
  unfold rowsAt
  rw [at?_of_reaches reaches]

end Namespace

namespace OnSite

/-- The state at the beginning of an operation. -/
def begun (s : OnSite) : OnSite :=
  { s with stack := s.stack.beginOperation }

/-- The state with one replica more excluded. -/
def excluding (s : OnSite) (id : Int) : OnSite :=
  { s with stack := s.stack.exclude id }

section Excluding

variable {s : OnSite} {outer : List Decorator} {session : CatalogSession} {ns : Namespace}

theorem BrowsesThrough.excluding (browses : s.BrowsesThrough outer session ns) (id : Int) :
    (s.excluding id).BrowsesThrough outer session ns := browses

theorem BrowsesThrough.begun (browses : s.BrowsesThrough outer session ns) :
    s.begun.BrowsesThrough outer session ns := browses

theorem DiskOnly.excluding (disks : s.DiskOnly) (id : Int) : (s.excluding id).DiskOnly :=
  ⟨disks.made, disks.makes⟩

theorem DiskOnly.begun (disks : s.DiskOnly) : s.begun.DiskOnly :=
  ⟨disks.made, disks.makes⟩

end Excluding

end OnSite

namespace Resolution

open OnSite

variable {s u after : OnSite} {outer : List Decorator} {session : CatalogSession} {ns : Namespace}
  {path : String}

/-- The replicas that the stack shows are those at the path, as the decorators leave them. -/
theorem shown_at (browses : s.BrowsesThrough outer session ns) {rows : List Replica}
    (shown : StackM.catalog (.replicas path) s = .ok rows u) :
    rows = s.stack.excluded.through outer (ns.rowsAt (session.names path)) := by
  obtain ⟨⟨ctx, entry, all, -, reaches, -, -, listed, same⟩, -⟩ :=
    (replicas_eq_ok_iff browses).1 shown
  rw [same, Namespace.rowsAt_of_reaches reaches listed]

theorem shown_rows (browses : s.BrowsesThrough outer session ns) {rows : List Replica}
    (shown : StackM.catalog (.replicas (Path.absolute session.workingDir path)) s = .ok rows u) :
    rows = s.stack.excluded.through outer (ns.rowsAt (session.names path)) := by
  rw [shown_at browses shown, CatalogSession.names_absolute]

/-- What decorators hide is excluded, so the candidates are the same without them. -/
theorem Candidates.of_through {rows : List Replica} {all : List ReadCandidate}
    (candidates : Candidates s (s.stack.excluded.through outer rows) all) :
    Candidates s rows all := by
  refine ⟨fun c => ?_, candidates.ordered.trans (Exclusions.through_sublist _ _ _)⟩
  rw [candidates.mem_iff]
  constructor
  · rintro ⟨member, offered, usable⟩
    exact ⟨(Exclusions.mem_through offered.2 outer _).1 member, offered, usable⟩
  · rintro ⟨member, offered, usable⟩
    exact ⟨(Exclusions.mem_through offered.2 outer _).2 member, offered, usable⟩

theorem Chosen.of_through {rows : List Replica} {c : ReadCandidate}
    (chosen : Chosen s (s.stack.excluded.through outer rows) c) : Chosen s rows c := by
  obtain ⟨all, i, candidates, selected, index⟩ := chosen
  exact ⟨all, i, candidates.of_through, selected, index⟩

/-- One round of retries: what is found is the location of the chosen candidate among the replicas at
the path, and no offered replica was in the way. -/
theorem whereToRead_eq_ok (browses : s.BrowsesThrough outer session ns) (disks : s.DiskOnly)
    {location : Location} (found : whereToRead path s = .ok location u) :
    (∀ row ∈ ns.rowsAt (session.names path), Offered s row → ¬ Blocks s row) ∧
      ∃ c given, Chosen s (ns.rowsAt (session.names path)) c ∧ Located s c given ∧
        location = tagRead given (Path.absolute session.workingDir path) c := by
  obtain ⟨target, rows, seen, shown⟩ := shown_of_ok found
  have absolute_ := absolute_apply browses path
  rw [absolute_] at seen
  cases seen
  obtain rfl := shown_rows browses shown
  have some_ : s.stack.excluded.through outer (ns.rowsAt (session.names path)) ≠ [] := by
    intro none_
    rw [none_] at shown
    rw [whereToRead_of_none absolute_ shown] at found
    cases found
  rw [whereToRead_of_some absolute_ shown some_] at found
  obtain ⟨clear, c, given, chosen, located, same⟩ := readAmong_eq_ok disks found
  refine ⟨fun row member offered => ?_, c, given, chosen.of_through, located, same⟩
  exact clear row ((Exclusions.mem_through offered.2 outer _).2 member) offered

variable {α τ : Type} {attempt : Location → τ → Except Error α × τ}

/-- The loop of retries, with the locations that it tries and what comes of each. -/
inductive Tries (path : String) (attempt : Location → τ → Except Error α × τ) :
    OnSite → τ → List (Location × Except Error α) → Except Error α × τ → OnSite → Prop where
  /-- There is no location. -/
  | refused {s after : OnSite} {t : τ} {e : Error}
      (failed : whereToRead path s = .error e after) :
      Tries path attempt s t [] (.error e, t) after
  /-- The location can be used. -/
  | used {s after : OnSite} {t next : τ} {location : Location} {a : α}
      (found : whereToRead path s = .ok location after)
      (worked : attempt location t = (.ok a, next)) :
      Tries path attempt s t [(location, .ok a)] (.ok a, next) after
  /-- The location cannot be used, and does not tell its replica. -/
  | lost {s after : OnSite} {t next : τ} {location : Location} {e : Error}
      (found : whereToRead path s = .ok location after)
      (failed : attempt location t = (.error e, next)) (unknown : location.replicaId? = none) :
      Tries path attempt s t [(location, .error e)] (.error e, next) after
  /-- The location cannot be used: the loop goes on without its replica. -/
  | again {s u after : OnSite} {t next : τ} {location : Location} {e : Error} {id : Int}
      {trace : List (Location × Except Error α)} {out : Except Error α × τ}
      (found : whereToRead path s = .ok location u)
      (failed : attempt location t = (.error e, next)) (known : location.replicaId? = some id)
      (rest : Tries path attempt (u.excluding id) next trace out after) :
      Tries path attempt s t ((location, .error e) :: trace) out after

instance (s : OnSite) (row : Replica) : Decidable (Offered s row) :=
  inferInstanceAs (Decidable (_ ∧ _))

/-- The replicas that can still be offered. -/
def remaining (s : OnSite) (rows : List Replica) : List Replica :=
  rows.filter fun row => Offered s row

theorem offered_excluding {id : Int} {row : Replica} :
    Offered (s.excluding id) row ↔ Offered s row ∧ row.id ≠ id := by
  have contains : (s.excluding id).stack.excluded.contains row.id =
      (decide (row.id = id) || s.stack.excluded.contains row.id) :=
    s.stack.excluded.contains_insert id row.id
  unfold Offered
  rw [contains, Bool.or_eq_false_iff, decide_eq_false_iff_not]
  constructor
  · exact fun ⟨available, other, kept⟩ => ⟨⟨available, kept⟩, other⟩
  · exact fun ⟨⟨available, kept⟩, other⟩ => ⟨available, other, kept⟩

/-- Where one replica of those that could be offered no longer can, fewer remain. -/
theorem remaining_lt {t : OnSite} {rows : List Replica} {row : Replica} (member : row ∈ rows)
    (offered : Offered s row) (left : ∀ other, Offered t other ↔ Offered s other ∧ other.id ≠ row.id) :
    (remaining t rows).length < (remaining s rows).length := by
  have fewer : remaining t rows = (remaining s rows).filter fun other => other.id ≠ row.id := by
    unfold remaining
    rw [List.filter_filter]
    congr 1
    funext other
    simp [left, and_comm]
  rw [fewer]
  refine List.length_filter_lt_length_iff_exists.2 ⟨row, ?_, by simp⟩
  exact List.mem_filter.2 ⟨member, by simpa using offered⟩

/-- A location that is found is that of a replica at the path which could be offered. -/
theorem offered_of_found (browses : s.BrowsesThrough outer session ns) (disks : s.DiskOnly)
    (sound : ns.RowsSound) {location : Location} (found : whereToRead path s = .ok location u) :
    ∃ row ∈ ns.rowsAt (session.names path), Offered s row ∧ location.replicaId? = some row.id := by
  obtain ⟨-, c, given, chosen, located, rfl⟩ := whereToRead_eq_ok browses disks found
  obtain ⟨member, offered, -⟩ := chosen.spec
  exact ⟨c.replica, member, offered, located.replicaId? _ (sound.word_of_mem member)⟩

/-- Everything that a round needs is there again in the next one. -/
theorem next_round (browses : s.BrowsesThrough outer session ns) (disks : s.DiskOnly)
    {location : Location} (found : whereToRead path s = .ok location u) (id : Int) :
    (u.excluding id).BrowsesThrough outer session ns ∧ (u.excluding id).DiskOnly ∧
      ∀ row, Offered (u.excluding id) row ↔ Offered s row ∧ row.id ≠ id := by
  have prepares := (prepares_whereToRead path).of_ok found
  refine ⟨(prepares.browsesThrough.2 browses).excluding id,
    (prepares.disks disks).1.excluding id, fun row => ?_⟩
  rw [offered_excluding, offered_of_prepares prepares]

section Rounds

variable {t next : τ} {location : Location} {rounds : Nat}

theorem readRounds_refused {e : Error} (failed : whereToRead path s = .error e u) :
    readRounds path attempt (rounds + 1) t s = .ok (.error e, t) u :=
  Action.bind_of_ok (Action.attempt_of_error failed)

theorem readRounds_used {a : α} (found : whereToRead path s = .ok location u)
    (worked : attempt location t = (.ok a, next)) :
    readRounds path attempt (rounds + 1) t s = .ok (.ok a, next) u := by
  refine (Action.bind_of_ok (Action.attempt_of_ok found)).trans ?_
  simp only [worked]
  rfl

theorem readRounds_lost {e : Error} (found : whereToRead path s = .ok location u)
    (failed : attempt location t = (.error e, next)) (unknown : location.replicaId? = none) :
    readRounds path attempt (rounds + 1) t s = .ok (.error e, next) u := by
  refine (Action.bind_of_ok (Action.attempt_of_ok found)).trans ?_
  simp only [failed, unknown]
  rfl

theorem readRounds_again {e : Error} {id : Int} (found : whereToRead path s = .ok location u)
    (failed : attempt location t = (.error e, next)) (known : location.replicaId? = some id) :
    readRounds path attempt (rounds + 1) t s =
      readRounds path attempt rounds next (u.excluding id) := by
  refine (Action.bind_of_ok (Action.attempt_of_ok found)).trans ?_
  simp only [failed, known]
  rfl

end Rounds

/-- The loop ends, whatever the attempts do: every round but the last leaves less to offer. -/
theorem tries_end (browses : s.BrowsesThrough outer session ns) (disks : s.DiskOnly)
    (sound : ns.RowsSound) (t : τ) :
    ∃ trace out after, Tries path attempt s t trace out after := by
  induction size : (remaining s (ns.rowsAt (session.names path))).length using Nat.strongRecOn
    generalizing s t with
  | ind size ih =>
    cases found : whereToRead path s with
    | error e u => exact ⟨[], _, u, .refused found⟩
    | ok location u =>
      rcases tried : attempt location t with ⟨e | a, next⟩
      · obtain ⟨row, member, offered, known⟩ := offered_of_found browses disks sound found
        obtain ⟨browsing, disk, left⟩ := next_round browses disks found row.id
        have fewer := remaining_lt member offered left
        rw [size] at fewer
        obtain ⟨trace, out, after, rest⟩ := ih _ fewer browsing disk next rfl
        exact ⟨_, out, after, .again found tried known rest⟩
      · exact ⟨_, _, u, .used found tried⟩

/-- With more rounds than the loop has tries, the rounds do what the loop does. -/
theorem readRounds_of_tries {t : τ} {trace : List (Location × Except Error α)}
    {out : Except Error α × τ} (run : Tries path attempt s t trace out after) {rounds : Nat}
    (enough : trace.length < rounds) : readRounds path attempt rounds t s = .ok out after := by
  induction run generalizing rounds with
  | refused failed =>
    obtain ⟨rounds, rfl⟩ := Nat.exists_eq_add_one_of_ne_zero (Nat.ne_of_gt enough)
    exact readRounds_refused failed
  | used found worked =>
    obtain ⟨rounds, rfl⟩ := Nat.exists_eq_add_one_of_ne_zero (Nat.ne_zero_of_lt enough)
    exact readRounds_used found worked
  | lost found failed unknown =>
    obtain ⟨rounds, rfl⟩ := Nat.exists_eq_add_one_of_ne_zero (Nat.ne_zero_of_lt enough)
    exact readRounds_lost found failed unknown
  | again found failed known rest ih =>
    obtain ⟨rounds, rfl⟩ := Nat.exists_eq_add_one_of_ne_zero (Nat.ne_zero_of_lt enough)
    rw [readRounds_again found failed known]
    exact ih (Nat.lt_of_succ_lt_succ enough)

/-- The replicas that a run of the loop tries are different ones, and each could be offered. -/
theorem Tries.rows {t : τ} {trace : List (Location × Except Error α)} {out : Except Error α × τ}
    (run : Tries path attempt s t trace out after)
    (browses : s.BrowsesThrough outer session ns) (disks : s.DiskOnly) (sound : ns.RowsSound) :
    ∃ tried : List Replica, trace.map (·.1.replicaId?) = tried.map (some ·.id) ∧
      tried.Pairwise (fun a b => a.id ≠ b.id) ∧
      ∀ row ∈ tried, row ∈ ns.rowsAt (session.names path) ∧ Offered s row := by
  induction run with
  | refused failed => exact ⟨[], rfl, .nil, nofun⟩
  | used found _ | lost found _ _ =>
    obtain ⟨row, member, offered, known⟩ := offered_of_found browses disks sound found
    refine ⟨[row], by simp [known], List.pairwise_singleton _ _, ?_⟩
    intro other here
    obtain rfl := List.mem_singleton.1 here
    exact ⟨member, offered⟩
  | again found failed known rest ih =>
    obtain ⟨row, member, offered, named⟩ := offered_of_found browses disks sound found
    obtain rfl := Option.some.inj (named.symm.trans known)
    obtain ⟨browsing, disk, left⟩ := next_round browses disks found row.id
    obtain ⟨tried, same, distinct, each⟩ := ih browsing disk
    refine ⟨row :: tried, ?_, ?_, ?_⟩
    · rw [List.map_cons, List.map_cons, same, known]
    · refine List.pairwise_cons.2 ⟨fun other here => ?_, distinct⟩
      exact ((left other).1 (each other here).2).2.symm
    · intro other here
      rcases List.mem_cons.1 here with rfl | later
      · exact ⟨member, offered⟩
      · exact ⟨(each other later).1, ((left other).1 (each other later).2).1⟩

/-- A run of the loop is no longer than there are replicas to offer. -/
theorem Tries.length_le {t : τ} {trace : List (Location × Except Error α)}
    {out : Except Error α × τ} (run : Tries path attempt s t trace out after)
    (browses : s.BrowsesThrough outer session ns) (disks : s.DiskOnly) (sound : ns.RowsSound) :
    trace.length ≤ (remaining s (ns.rowsAt (session.names path))).length := by
  induction run with
  | refused failed => exact Nat.zero_le _
  | used found _ | lost found _ _ =>
    obtain ⟨row, member, offered, -⟩ := offered_of_found browses disks sound found
    have fewer := remaining_lt member offered fun other => offered_excluding
    rw [List.length_singleton]
    omega
  | again found failed known rest ih =>
    obtain ⟨row, member, offered, named⟩ := offered_of_found browses disks sound found
    obtain rfl := Option.some.inj (named.symm.trans known)
    obtain ⟨browsing, disk, left⟩ := next_round browses disks found row.id
    have fewer := remaining_lt member offered left
    have later := ih browsing disk
    rw [List.length_cons]
    omega

/-- What a run of the loop notes of a try is what the attempt made of it. -/
theorem Tries.attempted {t : τ} {trace : List (Location × Except Error α)}
    {out : Except Error α × τ} (run : Tries path attempt s t trace out after)
    {location : Location} {result : Except Error α} (member : (location, result) ∈ trace) :
    ∃ before, (attempt location before).1 = result := by
  induction run with
  | refused failed => cases member
  | used found tried | lost found tried _ =>
    cases List.mem_singleton.1 member
    exact ⟨_, congrArg Prod.fst tried⟩
  | again found failed known rest ih =>
    rcases List.mem_cons.1 member with here | later
    · cases here
      exact ⟨_, congrArg Prod.fst failed⟩
    · exact ih later

/-- The loop excludes the replicas whose try failed, and no others. -/
theorem Tries.excluded {t : τ} {trace : List (Location × Except Error α)}
    {out : Except Error α × τ} (run : Tries path attempt s t trace out after) (id : Int) :
    after.stack.excluded.contains id = true ↔ s.stack.excluded.contains id = true ∨
      ∃ location e, (location, .error e) ∈ trace ∧ location.replicaId? = some id := by
  induction run with
  | refused failed =>
    rw [((prepares_whereToRead path).of_error failed).excluded]
    simp
  | used found worked =>
    rw [((prepares_whereToRead path).of_ok found).excluded]
    simp
  | lost found failed unknown =>
    rw [((prepares_whereToRead path).of_ok found).excluded]
    simp [unknown]
  | @again s u after t next location e named trace out found failed known rest ih =>
    have prepares := (prepares_whereToRead path).of_ok found
    have more : (u.excluding named).stack.excluded.contains id =
        (decide (id = named) || s.stack.excluded.contains id) := by
      rw [← prepares.excluded]
      exact u.stack.excluded.contains_insert named id
    rw [ih, more, Bool.or_eq_true, decide_eq_true_eq]
    constructor
    · rintro ((rfl | kept) | ⟨other, fault, member, same⟩)
      · exact .inr ⟨location, e, List.mem_cons_self, known⟩
      · exact .inl kept
      · exact .inr ⟨other, fault, List.mem_cons_of_mem _ member, same⟩
    · rintro (kept | ⟨other, fault, member, same⟩)
      · exact .inl (.inr kept)
      · rcases List.mem_cons.1 member with here | later
        · cases here
          exact .inl (.inl (Option.some.inj (same.symm.trans known)))
        · exact .inr ⟨other, fault, later, same⟩

/-- The replicas that are counted are all that the loop can try. -/
theorem counted_of_tries {t : τ} {trace : List (Location × Except Error α)}
    {out : Except Error α × τ} (run : Tries path attempt s.begun t trace out after)
    (browses : s.BrowsesThrough outer session ns) (disks : s.DiskOnly) (sound : ns.RowsSound) :
    ∃ count, replicaCount path s.begun = .ok count s.begun ∧ trace.length ≤ count := by
  have seen := absolute_apply browses.begun path
  have reads : Action.Reads (StackM.catalog (.replicas (Path.absolute session.workingDir path))) :=
    StackM.reads_catalog rfl
  cases shown : StackM.catalog (.replicas (Path.absolute session.workingDir path)) s.begun with
  | error e u =>
    obtain rfl := (reads.of_error shown).symm
    have refused : whereToRead path s.begun = .error e s.begun :=
      (Action.bind_of_ok seen).trans (Action.bind_of_error shown)
    refine ⟨0, Action.bind_of_ok (Action.attempt_of_error ((Action.bind_of_ok seen).trans shown)),
      ?_⟩
    cases run with
    | refused failed => exact Nat.le_refl 0
    | used found _ | lost found _ _ | again found _ _ _ =>
      rw [refused] at found
      cases found
  | ok rows u =>
    obtain rfl := (reads.of_ok shown).symm
    have every : rows = ns.rowsAt (session.names path) :=
      (shown_rows browses.begun shown).trans (Exclusions.through_none outer _)
    refine ⟨rows.length,
      Action.bind_of_ok (Action.attempt_of_ok ((Action.bind_of_ok seen).trans shown)), ?_⟩
    rw [every]
    exact Nat.le_trans (run.length_le browses.begun disks.begun sound) (List.length_filter_le _ _)

/-- Reading with retries is the loop from the beginning of an operation. -/
theorem tries_of_retries (browses : s.BrowsesThrough outer session ns) (disks : s.DiskOnly)
    (sound : ns.RowsSound) (path : String) (attempt : Location → τ → Except Error α × τ) (t : τ) :
    ∃ trace out after, Tries path attempt s.begun t trace out after ∧
      readWithRetries path attempt t s = .ok out after := by
  have cleared : StackM.onStack (modify Stack.beginOperation) s = .ok () s.begun := rfl
  obtain ⟨trace, out, after, run⟩ : ∃ trace out after, Tries path attempt s.begun t trace out after :=
    tries_end browses.begun disks.begun sound t
  obtain ⟨count, counted, enough⟩ := counted_of_tries run browses disks sound
  have rounds := readRounds_of_tries run (Nat.lt_succ_of_le enough)
  exact ⟨trace, out, after, run,
    (Action.bind_of_ok cleared).trans ((Action.bind_of_ok counted).trans rounds)⟩

end Resolution
end Stowage
