import Stowage.Manager.Basic
import Stowage.Proofs.Charging

/-! Pools as options leave them. Of the filesystems that were told to a pool since it was told itself, those count
that no later one replaces: the last one at each place, in the order of these. The factory keeps that list in the
attributes of the pool, whatever else it was offered; an option that it refuses is as if it had not been offered. -/
namespace Stowage

namespace Filesystem

instance : DecidableRel Apart := fun a b =>
  inferInstanceAs (Decidable (¬ (a.server = b.server ∧ a.path = b.path)))

/-- Of the filesystems at one place the last one, each where it stands. -/
def latest (told : List Filesystem) : List Filesystem :=
  told.pwFilter Apart

theorem Apart.or {a b c : Filesystem} (apart : a.Apart c) : a.Apart b ∨ b.Apart c := by
  by_cases first : a.Apart b
  · exact .inl first
  · refine .inr fun second => apart ?_
    obtain ⟨server, path⟩ := not_not.1 first
    exact ⟨server.trans second.1, path.trans second.2⟩

theorem apart_latest (told : List Filesystem) : (latest told).Pairwise Apart :=
  List.pairwise_pwFilter told

theorem mem_of_mem_latest {told : List Filesystem} {fs : Filesystem} (member : fs ∈ latest told) : fs ∈ told :=
  List.pwFilter_subset told member

/-- What stands in front counts unless a later one is at its place. -/
theorem latest_cons (fs : Filesystem) (rest : List Filesystem) :
    latest (fs :: rest) = if ∀ later ∈ rest, fs.Apart later then fs :: latest rest else latest rest := by
  have later : (∀ later ∈ latest rest, fs.Apart later) ↔ ∀ later ∈ rest, fs.Apart later :=
    List.forall_mem_pwFilter (R := Apart) Apart.or fs rest
  unfold latest at later ⊢
  split
  · rename_i apart
    exact List.pwFilter_cons_of_pos (later.2 apart)
  · rename_i replaced
    exact List.pwFilter_cons_of_neg fun apart => replaced (later.1 apart)

/-- One more filesystem takes the place of the one that was there, at the end of the list. -/
theorem latest_concat (told : List Filesystem) (fs : Filesystem) :
    latest (told ++ [fs]) =
      ((latest told).filter fun old => ¬ (old.server = fs.server ∧ old.path = fs.path)) ++ [fs] := by
  induction told with
  | nil => rfl
  | cons first rest ih =>
    have split_ : (∀ later ∈ rest ++ [fs], first.Apart later) ↔
        (∀ later ∈ rest, first.Apart later) ∧ first.Apart fs := by
      simp [or_imp, forall_and]
    rw [List.cons_append, latest_cons, latest_cons, ih]
    by_cases apart : first.Apart fs
    · have stays : decide (¬ (first.server = fs.server ∧ first.path = fs.path)) = true := decide_eq_true apart
      by_cases last : ∀ later ∈ rest, first.Apart later
      · rw [if_pos (split_.2 ⟨last, apart⟩), if_pos last, List.filter_cons, if_pos stays, List.cons_append]
      · rw [if_neg fun all => last (split_.1 all).1, if_neg last]
    · have goes : ¬ decide (¬ (first.server = fs.server ∧ first.path = fs.path)) = true :=
        fun stays => apart (of_decide_eq_true stays)
      rw [if_neg fun all => apart (split_.1 all).2]
      split
      · rw [List.filter_cons, if_neg goes]
      · rfl

end Filesystem

/-! ### Options that concern a pool -/

/-- The option tells the pool of that name. -/
def TellsPool (name : String) (option : String × String) : Prop :=
  option.1 = "MemoryPool" ∧ ∃ pool, Pool.parse option.2 = .ok pool ∧ pool.name = name

/-- The filesystem that the option tells to the pool of that name. -/
def filesystemFor? (name : String) (option : String × String) : Option Filesystem :=
  if option.1 = "MemoryFilesystem" then
    match Filesystem.parse option.2 with
    | .ok (pool, fs) => if pool = name then some fs else none
    | .error _ => none
  else none

theorem filesystemFor?_of_parse {value pool : String} {fs : Filesystem}
    (told : Filesystem.parse value = .ok (pool, fs)) (name : String) :
    filesystemFor? name ("MemoryFilesystem", value) = if pool = name then some fs else none := by
  simp [filesystemFor?, told]

theorem placed_of_filesystemFor? {name : String} {option : String × String} {fs : Filesystem}
    (told : filesystemFor? name option = some fs) : fs.server ≠ "" ∧ fs.path ≠ "" := by
  unfold filesystemFor? at told
  split at told
  · split at told
    · rename_i pool given parsed
      split at told
      · cases told
        exact Filesystem.placed_of_parse parsed
      · cases told
    · cases told
  · cases told

/-- The pool is the one that an option told last, with the filesystems that options have told to it since. -/
def Pool.Follows (taken : List (String × String)) (name : String) (pool : Pool) : Prop :=
  pool.name = name ∧ ∃ before value since, taken = before ++ ("MemoryPool", value) :: since ∧
    TellsPool name ("MemoryPool", value) ∧ (∀ option ∈ since, ¬ TellsPool name option) ∧
    pool.filesystems = .ok (Filesystem.latest (since.filterMap (filesystemFor? name)))

/-- The pools follow the options that were taken, the first one first. -/
structure MemoryTables.Follows (taken : List (String × String)) (t : MemoryTables) : Prop where
  follows : ∀ {name pool}, t.pools.get? name = some pool → pool.Follows taken name
  present : ∀ {name option}, option ∈ taken → TellsPool name option → (t.pools.get? name).isSome = true

namespace Pool

variable {taken : List (String × String)} {option : String × String} {name value : String} {pool : Pool}

/-- A pool that is told just now has no filesystems yet. -/
theorem follows_of_parse (taken : List (String × String)) (told : Pool.parse value = .ok pool) :
    pool.Follows (taken ++ [("MemoryPool", value)]) pool.name :=
  ⟨rfl, taken, value, [], rfl, ⟨rfl, pool, told, rfl⟩, nofun, (laid_of_parse told).readable⟩

/-- One more option that does not tell the pool adds the filesystem that it tells to it, if it tells one. -/
theorem Follows.concat {next : Pool} (follows : pool.Follows taken name) (untold : ¬ TellsPool name option)
    (same : next.name = pool.name)
    (stored : ∀ filesystems, pool.filesystems = .ok (Filesystem.latest filesystems) →
      next.filesystems = .ok (Filesystem.latest (filesystems ++ (filesystemFor? name option).toList))) :
    next.Follows (taken ++ [option]) name := by
  obtain ⟨named, before, value, since, rfl, told, quiet, readable⟩ := follows
  refine ⟨same.trans named, before, value, since ++ [option], by simp, told, ?_, ?_⟩
  · intro other member
    rcases List.mem_append.1 member with old | new
    · exact quiet other old
    · obtain rfl := List.mem_singleton.1 new
      exact untold
  · have one : [option].filterMap (filesystemFor? name) = (filesystemFor? name option).toList := by
      cases told : filesystemFor? name option <;> simp [told]
    rw [List.filterMap_append, one]
    exact stored _ readable

theorem Follows.concat_of_other (follows : pool.Follows taken name) (untold : ¬ TellsPool name option)
    (none_ : filesystemFor? name option = none) : pool.Follows (taken ++ [option]) name := by
  refine follows.concat untold rfl fun filesystems readable => ?_
  rw [none_]
  simpa using readable

theorem Follows.told (follows : pool.Follows taken name) : ∃ option ∈ taken, TellsPool name option := by
  obtain ⟨-, before, value, since, rfl, told, -, -⟩ := follows
  exact ⟨_, List.mem_append_right before List.mem_cons_self, told⟩

end Pool

namespace MemoryTables

variable {t next : MemoryTables} {taken : List (String × String)} {key value : String}

theorem follows_initial : Follows [] {} where
  follows := nofun
  present := nofun

/-- What tells neither a pool nor a filesystem is nothing to the pools. -/
theorem Follows.other (follows : t.Follows taken) (same : next.pools = t.pools) (untold : key ≠ "MemoryPool")
    (unfilled : key ≠ "MemoryFilesystem") : next.Follows (taken ++ [(key, value)]) where
  follows known := by
    rw [same] at known
    exact (follows.follows known).concat_of_other (fun told => untold told.1) (if_neg unfilled)
  present member told := by
    rw [same]
    rcases List.mem_append.1 member with old | new
    · exact follows.present old told
    · obtain rfl := List.mem_singleton.1 new
      exact absurd told.1 untold

/-- A pool that is told takes the place of the one of that name. -/
theorem Follows.pool {pool : Pool} (follows : t.Follows taken) (told : Pool.parse value = .ok pool) :
    Follows (taken ++ [("MemoryPool", value)]) { t with pools := t.pools.insert pool.name pool } where
  follows {name found} known := by
    rw [Table.get?_insert] at known
    split at known
    · rename_i here
      subst here
      cases known
      exact Pool.follows_of_parse taken told
    · rename_i elsewhere
      refine (follows.follows known).concat_of_other (fun also => elsewhere ?_) (if_neg (by simp))
      obtain ⟨-, other, parsed, rfl⟩ := also
      exact congrArg Pool.name (Except.ok.inj (parsed.symm.trans told))
  present {name option} member also := by
    rw [Table.get?_insert]
    split
    · rfl
    · rename_i elsewhere
      rcases List.mem_append.1 member with old | new
      · exact follows.present old also
      · obtain rfl := List.mem_singleton.1 new
        obtain ⟨-, other, parsed, rfl⟩ := also
        exact absurd (congrArg Pool.name (Except.ok.inj (parsed.symm.trans told))) elsewhere

/-- A filesystem that is told is the last one of its pool. -/
theorem Follows.filesystem {name : String} {fs : Filesystem} {pools : PoolTable} (follows : t.Follows taken)
    (told : Filesystem.parse value = .ok (name, fs)) (added : t.pools.addFilesystem name fs = .ok pools) :
    Follows (taken ++ [("MemoryFilesystem", value)]) { t with pools } := by
  obtain ⟨pool, before, there, readable, rfl⟩ := PoolTable.addFilesystem_eq_ok added
  have untold : ∀ name, ¬ TellsPool name ("MemoryFilesystem", value) := fun _ tells => absurd tells.1 (by simp)
  refine ⟨fun {other found} looked => ?_, fun {other option} member tells => ?_⟩
  · rw [Table.get?_insert] at looked
    split at looked
    · rename_i here
      subst here
      cases looked
      refine (follows.follows there).concat (untold _) rfl fun filesystems read => ?_
      obtain rfl := Except.ok.inj (readable.symm.trans read)
      rw [filesystemFor?_of_parse told, if_pos rfl, Option.toList_some, Filesystem.latest_concat]
      exact Pool.filesystems_withFilesystems _ _
    · rename_i elsewhere
      refine (follows.follows looked).concat_of_other (untold _) ?_
      rw [filesystemFor?_of_parse told, if_neg (Ne.symm elsewhere)]
  · rw [Table.get?_insert]
    split
    · rfl
    · rcases List.mem_append.1 member with old | new
      · exact follows.present old tells
      · obtain rfl := List.mem_singleton.1 new
        exact absurd tells (untold other)

/-- The pools follow one more option that is taken. -/
theorem Follows.configure (follows : t.Follows taken) (accepted : t.configure key value = .ok next) :
    next.Follows (taken ++ [(key, value)]) := by
  unfold MemoryTables.configure at accepted
  split at accepted
  · rename_i user
    obtain ⟨account, -, returned⟩ := Error.bind_eq_ok_iff.1 accepted
    cases returned
    exact follows.other rfl (by simp [user]) (by simp [user])
  split at accepted
  · rename_i group
    obtain ⟨account, -, returned⟩ := Error.bind_eq_ok_iff.1 accepted
    cases returned
    exact follows.other rfl (by simp [group]) (by simp [group])
  split at accepted
  · rename_i pool
    subst pool
    obtain ⟨pool, told, returned⟩ := Error.bind_eq_ok_iff.1 accepted
    cases returned
    exact follows.pool told
  split at accepted
  · rename_i filesystem
    subst filesystem
    obtain ⟨⟨name, fs⟩, told, rest⟩ := Error.bind_eq_ok_iff.1 accepted
    obtain ⟨pools, added, returned⟩ := Error.bind_eq_ok_iff.1 rest
    cases returned
    exact follows.filesystem told added
  · cases accepted

/-- A pool is taken if it can be read. -/
theorem takes_pool_iff : (∃ next, t.configure "MemoryPool" value = .ok next) ↔
    ∃ pool, Pool.parse value = .ok pool := by
  have read : t.configure "MemoryPool" value = (do
      let pool ← Pool.parse value
      return { t with pools := t.pools.insert pool.name pool }) := rfl
  rw [read]
  cases Pool.parse value with
  | ok pool => exact ⟨fun _ => ⟨pool, rfl⟩, fun _ => ⟨_, rfl⟩⟩
  | error e => exact ⟨nofun, nofun⟩

/-- A filesystem is taken if it can be read and its pool was told before. -/
theorem Follows.takes_filesystem_iff (follows : t.Follows taken) :
    (∃ next, t.configure "MemoryFilesystem" value = .ok next) ↔
      ∃ name fs, Filesystem.parse value = .ok (name, fs) ∧ ∃ option ∈ taken, TellsPool name option := by
  have read : t.configure "MemoryFilesystem" value = (do
      let told ← Filesystem.parse value
      return { t with pools := ← t.pools.addFilesystem told.1 told.2 }) := rfl
  constructor
  · rintro ⟨next, accepted⟩
    rw [read] at accepted
    obtain ⟨⟨name, fs⟩, told, rest⟩ := Error.bind_eq_ok_iff.1 accepted
    obtain ⟨pools, added, -⟩ := Error.bind_eq_ok_iff.1 rest
    obtain ⟨pool, known, -⟩ := Error.bind_eq_ok_iff.1 added
    exact ⟨name, fs, told, (follows.follows (PoolTable.pool_eq_ok_iff.1 known)).told⟩
  · rintro ⟨name, fs, told, option, member, tells⟩
    obtain ⟨pool, known⟩ := Option.isSome_iff_exists.1 (follows.present member tells)
    obtain ⟨-, _, _, _, -, -, -, readable⟩ := follows.follows known
    have found := PoolTable.pool_eq_ok_iff.2 known
    rw [read, told]
    simp [PoolTable.addFilesystem, Pool.addFilesystem, found, readable, bind, Except.bind, pure, Except.pure]

end MemoryTables

/-! ### Options offered to a factory -/

namespace Manager

variable {t next : MemoryTables} {id : FactoryId} {key value : String} {rest : List (String × String)}

/-- Offers options to factories, one after the other, and tells which ones were taken. -/
def offerEach : List (String × String) → List (FactoryId × Factory) →
    List (String × String) × List (FactoryId × Factory)
  | [], factories => ([], factories)
  | (key, value) :: rest, factories =>
    let (result, left) := offer (fun _ => true) key value false factories
    let (taken, after) := offerEach rest left
    match result with
    | .ok true => ((key, value) :: taken, after)
    | _ => (taken, after)

theorem offerEach_cons_of_ok (accepted : t.configure key value = .ok next) :
    offerEach ((key, value) :: rest) [(id, .memory t)] =
      ((key, value) :: (offerEach rest [(id, .memory next)]).1, (offerEach rest [(id, .memory next)]).2) := by
  have offered : offer (fun _ => true) key value false [(id, .memory t)] =
      (.ok true, [(id, .memory next)]) := by
    simp [offer, Factory.configure, accepted, bind, Except.bind, pure, Except.pure]
  simp [offerEach, offered]

theorem offerEach_cons_of_error {e : Error} (refused : t.configure key value = .error e) :
    offerEach ((key, value) :: rest) [(id, .memory t)] = offerEach rest [(id, .memory t)] := by
  have configured : (Factory.memory t).configure key value = .error e := by
    simp [Factory.configure, refused, bind, Except.bind]
  by_cases unknown : e.kind = .unknownOption
  · simp [offerEach, offer, configured, unknown]
  · simp [offerEach, offer, configured, unknown]

/-- Offered to one memory factory, options leave tables that follow those that were taken, and offered alone
these leave the same. -/
theorem exists_offerEach (follows : t.Follows earlier) (options : List (String × String)) (id : FactoryId) :
    ∃ taken next, offerEach options [(id, .memory t)] = (taken, [(id, .memory next)]) ∧
      offerEach taken [(id, .memory t)] = (taken, [(id, .memory next)]) ∧ taken.Sublist options ∧
      next.Follows (earlier ++ taken) := by
  induction options generalizing t earlier with
  | nil => exact ⟨[], t, rfl, rfl, .slnil, by simpa using follows⟩
  | cons option rest ih =>
    obtain ⟨key, value⟩ := option
    cases offered : t.configure key value with
    | ok next =>
      obtain ⟨taken, last, left, alone, among, after⟩ := ih (follows.configure offered)
      refine ⟨(key, value) :: taken, last, ?_, ?_, among.cons_cons _, by simpa using after⟩
      · rw [offerEach_cons_of_ok offered, left]
      · rw [offerEach_cons_of_ok offered, alone]
    | error e =>
      obtain ⟨taken, last, left, alone, among, after⟩ := ih follows
      refine ⟨taken, last, ?_, alone, among.cons _, after⟩
      rw [offerEach_cons_of_error offered, left]

/-- What options leave of pools in one memory factory, whatever it was offered. Its tables are those that the
options it took would have left alone. There is a pool for every name that they told one for, stored under that
name, and its filesystems are the last ones at their places of those that were told to it since it was told last
itself. From there on the factory takes what can be read, and filesystems for the pools that it has. -/
theorem pools_of_options (id : FactoryId) (options : List (String × String)) :
    ∃ taken t, offerEach options [(id, .memory {})] = (taken, [(id, .memory t)]) ∧
      offerEach taken [(id, .memory {})] = (taken, [(id, .memory t)]) ∧ taken.Sublist options ∧
      (∀ name, (∃ pool, t.pools.get? name = some pool) ↔ ∃ option ∈ taken, TellsPool name option) ∧
      (∀ name pool, t.pools.get? name = some pool → pool.name = name ∧
        ∃ before value since filesystems, taken = before ++ ("MemoryPool", value) :: since ∧
          TellsPool name ("MemoryPool", value) ∧ (∀ option ∈ since, ¬ TellsPool name option) ∧
          pool.filesystems = .ok filesystems ∧
          filesystems = Filesystem.latest (since.filterMap (filesystemFor? name)) ∧
          filesystems.Pairwise Filesystem.Apart ∧ ∀ fs ∈ filesystems, fs.server ≠ "" ∧ fs.path ≠ "") ∧
      ∀ value, ((∃ next, t.configure "MemoryPool" value = .ok next) ↔ ∃ pool, Pool.parse value = .ok pool) ∧
        ((∃ next, t.configure "MemoryFilesystem" value = .ok next) ↔
          ∃ name fs, Filesystem.parse value = .ok (name, fs) ∧ ∃ option ∈ taken, TellsPool name option) := by
  obtain ⟨taken, t, left, alone, among, follows⟩ :=
    exists_offerEach MemoryTables.follows_initial options id
  rw [List.nil_append] at follows
  refine ⟨taken, t, left, alone, among, fun name => ?_, fun name pool known => ?_, fun value => ?_⟩
  · constructor
    · rintro ⟨pool, known⟩
      exact (follows.follows known).told
    · rintro ⟨option, member, tells⟩
      exact Option.isSome_iff_exists.1 (follows.present member tells)
  · obtain ⟨named, before, value, since, whole, told, quiet, readable⟩ := follows.follows known
    refine ⟨named, before, value, since, _, whole, told, quiet, readable, rfl, Filesystem.apart_latest _, ?_⟩
    intro fs member
    obtain ⟨option, -, tells⟩ := List.mem_filterMap.1 (Filesystem.mem_of_mem_latest member)
    exact placed_of_filesystemFor? tells
  · exact ⟨MemoryTables.takes_pool_iff, follows.takes_filesystem_iff⟩

/-- A pool with two filesystems, one of them told twice, and two options that cannot be taken. -/
def shelves : List (String × String) :=
  [("MemoryPool", "disk:filesystem"), ("MemoryFilesystem", "disk:node1:/srv/a:1:500"),
    ("MemoryFilesystem", "disk:node1:/srv/b"), ("MemoryFilesystem", "tape:node1:/srv/a"),
    ("MemoryFilesystem", "disk:node1:/srv/a:2:800:readonly"), ("MemoryPool", "nodelimiter")]

/-- The filesystem that is told twice counts as told last, and stands there. -/
theorem pools_of_shelves :
    ∃ t pool, (offerEach shelves [(1, .memory {})]).2 = [(1, .memory t)] ∧ t.pools.get? "disk" = some pool ∧
      pool.name = "disk" ∧ pool.filesystems = .ok [{ server := "node1", path := "/srv/b" },
        { server := "node1", path := "/srv/a", weight := 2, free := 800, total := 800, status := .readOnly }] := by
  obtain ⟨taken, t, left, -, -, present, follows, -⟩ := pools_of_options 1 shelves
  have accepted : (offerEach shelves [(1, .memory {})]).1 =
      [("MemoryPool", "disk:filesystem"), ("MemoryFilesystem", "disk:node1:/srv/a:1:500"),
        ("MemoryFilesystem", "disk:node1:/srv/b"),
        ("MemoryFilesystem", "disk:node1:/srv/a:2:800:readonly")] := by
    decide +kernel
  rw [left] at accepted ⊢
  dsimp only at accepted
  subst accepted
  have told : TellsPool "disk" ("MemoryPool", "disk:filesystem") :=
    ⟨rfl, { name := "disk", type := "filesystem" }, rfl, rfl⟩
  obtain ⟨pool, known⟩ := (present "disk").2 ⟨_, List.mem_cons_self, told⟩
  obtain ⟨named, before, value, since, filesystems, whole, -, -, readable, same, -⟩ := follows "disk" pool known
  refine ⟨t, pool, rfl, known, named, ?_⟩
  cases before with
  | nil =>
    cases whole
    rw [readable, same]
    decide +kernel
  | cons first rest =>
    -- No option but the first one tells a pool.
    have later : ("MemoryPool", value) ∈ rest ++ ("MemoryPool", value) :: since := by simp
    obtain ⟨-, others⟩ := List.cons.inj (whole.trans (List.cons_append ..))
    rw [← others] at later
    simp at later

end Manager
end Stowage
