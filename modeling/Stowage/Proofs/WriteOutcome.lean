import Mathlib.Data.List.Perm.Basic
import Stowage.Proofs.Creation
import Stowage.Proofs.ReadChoice

/-! What comes of asking where to write. Every pool of the listing is screened first, and one of which
nothing can be told ends the call; those that can be written to are asked for a location until one gives
it. So whoever may write a file is given a location exactly where the driver of some pool has one and no
pool of the listing stands in the way: a pool that accepts the write does not help beside one that does. -/
namespace Stowage

/-- The identity of the session may have the file written: it finds it, or the file is not there and it
may make it in its directory. -/
def MayPlace (session : CatalogSession) (ns : Namespace) (path : String) : Prop :=
  ∃ ctx, session.security = some ctx ∧
    ((∃ entry, ns.Reaches ctx (session.names path) entry ∧ entry.stat.isDirectory = false) ∨
      ns.at? (session.names path) = none ∧
        ∃ parent, ns.Reaches ctx (session.names path).dropLast parent ∧
          parent.stat.isDirectory = true ∧
          parent.permits ctx (Mode.write ||| Mode.search) = true)

/-- The driver of the pool serves writes, tells the free space and has a location for the path. -/
def OnSite.Accepts (s : OnSite) (pool : Pool) (path : String) : Prop :=
  ∃ node free location, s.Sizes pool true node free ∧
    s.tells node (.writeLocation pool path) = .ok location

namespace Resolution

open OnSite StackM

variable {s t : OnSite} {outer : List Decorator} {session : CatalogSession} {ns : Namespace}
  {path : String}

/-- Where candidates are gathered, no pool has stopped that, and they are the pools that can be sized. -/
theorem writeCandidates_eq_ok (discreet : s.Discreet) {pools : List Pool}
    {candidates : List WriteCandidate} (gathered : writeCandidates pools s = .ok candidates t) :
    (∀ pool ∈ pools, ¬ s.Stops pool true) ∧
      ∀ c, c ∈ candidates ↔ c.pool ∈ pools ∧ ∃ node, s.Sizes c.pool true node c.free := by
  induction pools generalizing s candidates with
  | nil =>
    cases gathered
    simp
  | cons pool rest ih =>
    obtain ⟨found, u, told, more⟩ := Action.bind_eq_ok_iff.1 gathered
    obtain ⟨others, v, later, returned⟩ := Action.bind_eq_ok_iff.1 more
    cases returned
    have readies := (keeps_freeSpace? readies_driver pool true).of_ok told
    obtain ⟨clear, sized⟩ := told_of_freeSpace? told
    obtain ⟨passed, gathers⟩ := ih (readies.toDrifts.discreet.2 discreet) later
    simp only [readies.stops discreet] at passed
    simp only [readies.sizes discreet] at gathers
    have first : ∀ c : WriteCandidate,
        c ∈ (found.map fun free => ({ pool, free } : WriteCandidate)).toList ↔
          c.pool = pool ∧ found = some c.free := by
      rintro ⟨other, free⟩
      cases found with
      | none => simp
      | some amount => simp [eq_comm]
    refine ⟨List.forall_mem_cons.2 ⟨clear, passed⟩, fun c => ?_⟩
    rw [List.mem_append, first, sized, gathers, List.mem_cons, or_and_right]
    refine or_congr ?_ Iff.rfl
    constructor
    · rintro ⟨rfl, sizes⟩
      exact ⟨rfl, sizes⟩
    · rintro ⟨rfl, sizes⟩
      exact ⟨rfl, sizes⟩

/-- Where no candidates can be gathered, a pool has stopped that. -/
theorem writeCandidates_eq_error (discreet : s.Discreet) {pools : List Pool} {e : Error}
    (failed : writeCandidates pools s = .error e t) : ∃ pool ∈ pools, s.Stops pool true := by
  induction pools generalizing s with
  | nil => cases failed
  | cons pool rest ih =>
    rcases Action.bind_eq_error_iff.1 failed with stopped | ⟨found, u, told, more⟩
    · exact ⟨pool, List.mem_cons_self, stops_of_freeSpace? stopped⟩
    · rcases Action.bind_eq_error_iff.1 more with later | ⟨others, v, -, returned⟩
      · have readies := (keeps_freeSpace? readies_driver pool true).of_ok told
        obtain ⟨other, member, stops⟩ := ih (readies.toDrifts.discreet.2 discreet) later
        exact ⟨other, List.mem_cons_of_mem _ member, (readies.stops discreet).1 stops⟩
      · cases returned

/-- Where there are candidates, the policy chooses one of them. -/
theorem select_candidate {candidates : List WriteCandidate} (some_ : candidates ≠ []) (s : OnSite) :
    ∃ i t, ∃ inside : i < candidates.length,
      select (candidates.map (·.free)) s = .ok (some i) t ∧ candidates[i]? = some candidates[i] := by
  have amounts : candidates.map (·.free) ≠ [] := by simpa using some_
  obtain ⟨t, turned⟩ := select_apply (candidates.map (·.free)) s
  cases chosen : (s.site.manager.placement.select (candidates.map (·.free))).1 with
  | none => exact absurd chosen (Placement.select_ne_none _ amounts)
  | some i =>
    have tied := Placement.mem_tied.1 (Placement.mem_tied_of_select chosen)
    have inside : i < candidates.length := by
      have position := (List.getElem?_eq_some_iff.1 tied).1
      simpa using position
    rw [chosen] at turned
    exact ⟨i, t, inside, turned, List.getElem?_eq_getElem inside⟩

/-- One round asks the driver of one candidate for a location and ends with it, or goes on among the
other candidates. -/
theorem placeWrite_round (discreet : s.Discreet) {candidates : List WriteCandidate}
    (some_ : candidates ≠ []) (driven : ∀ c ∈ candidates, ∃ node, s.driverFor c.pool.type = .ok node)
    (path : String) (refused : Option Error) (rounds : Nat) :
    ∃ i node t, ∃ inside : i < candidates.length, s.Readies t ∧
      s.driverFor candidates[i].pool.type = .ok node ∧
      placeWrite path refused (rounds + 1) candidates s =
        match s.tells node (.writeLocation candidates[i].pool path) with
        | .ok location => .ok (candidates[i].pool, location) t
        | .error e => placeWrite path (some e) rounds (candidates.eraseIdx i) t := by
  obtain ⟨i, u, inside, turned, listed⟩ := select_candidate some_ s
  have turns := (readies_select _).of_ok turned
  obtain ⟨node, served⟩ := driven _ (List.getElem_mem inside)
  obtain ⟨t, gave⟩ := driver_of_driverFor ((turns.drivers discreet _).trans served)
  have readies := turns.trans ((readies_driver _).of_ok gave)
  have asked := askDriver_looks node (r := .writeLocation candidates[i].pool path) rfl t
  rw [readies.toDrifts.tells] at asked
  refine ⟨i, node, t, inside, readies, served, (Action.bind_of_ok turned).trans ?_⟩
  simp only [listed]
  refine (Action.bind_of_ok gave).trans ?_
  cases answer : s.tells node (.writeLocation candidates[i].pool path) with
  | ok location =>
    rw [answer] at asked
    exact Action.bind_of_ok (Action.attempt_of_ok asked)
  | error e =>
    rw [answer] at asked
    exact Action.bind_of_ok (Action.attempt_of_error asked)

/-- With as many rounds as candidates, a write is placed exactly if the driver of a candidate has a
location: one that refuses is dropped and the others are tried. -/
theorem placeWrite_succeeds_iff (discreet : s.Discreet) {refused : Option Error} {rounds : Nat}
    {candidates : List WriteCandidate} (enough : candidates.length ≤ rounds)
    (driven : ∀ c ∈ candidates, ∃ node, s.driverFor c.pool.type = .ok node) :
    (∃ placed t, placeWrite path refused rounds candidates s = .ok placed t) ↔
      ∃ c ∈ candidates, ∃ node location, s.driverFor c.pool.type = .ok node ∧
        s.tells node (.writeLocation c.pool path) = .ok location := by
  have unplaced : ∀ {last : Option Error} {rounds : Nat} {s : OnSite},
      ¬ ∃ placed t, placeWrite path last rounds [] s = .ok placed t := by
    rintro last rounds s ⟨⟨pool, location⟩, t, done⟩
    obtain ⟨⟨c, member, -⟩, -⟩ := placeWrite_eq_ok done
    cases member
  induction rounds generalizing s refused candidates with
  | zero =>
    obtain rfl := List.length_eq_zero_iff.1 (Nat.le_zero.1 enough)
    simpa using unplaced
  | succ rounds ih =>
    by_cases none_ : candidates = []
    · subst none_
      simpa using unplaced
    · obtain ⟨i, node, t, inside, readies, served, round⟩ :=
        placeWrite_round discreet none_ driven path refused rounds
      rw [round]
      have member := List.getElem_mem inside
      cases answer : s.tells node (.writeLocation candidates[i].pool path) with
      | ok location =>
        exact ⟨fun _ => ⟨_, member, node, location, served, answer⟩, fun _ => ⟨_, _, rfl⟩⟩
      | error e =>
        have others : ∀ c, c ∈ candidates ↔ c = candidates[i] ∨ c ∈ candidates.eraseIdx i := by
          intro c
          rw [← List.mem_cons, (List.getElem_cons_eraseIdx_perm inside).mem_iff]
        have fewer : (candidates.eraseIdx i).length ≤ rounds := by
          rw [List.length_eraseIdx_of_lt inside]
          omega
        have left : ∀ c ∈ candidates.eraseIdx i, ∃ node, t.driverFor c.pool.type = .ok node := by
          intro c further
          rw [readies.drivers discreet]
          exact driven c ((others c).2 (.inr further))
        have tried : (∃ placed u, placeWrite path (some e) rounds (candidates.eraseIdx i) t =
            .ok placed u) ↔ _ := ih (readies.toDrifts.discreet.2 discreet) fewer left
        simp only [readies.drivers discreet, readies.toDrifts.tells] at tried
        refine tried.trans ⟨?_, ?_⟩
        · rintro ⟨c, further, offers⟩
          exact ⟨c, (others c).2 (.inr further), offers⟩
        · rintro ⟨c, there, other, location, again, said⟩
          rcases (others c).1 there with rfl | further
          · cases served.symm.trans again
            cases answer.symm.trans said
          · exact ⟨c, further, other, location, again, said⟩

/-- Among the candidates of a listing, a write is placed exactly if one of its pools accepts it. -/
theorem placed_iff_accepts (discreet : s.Discreet) {pools : List Pool} {candidates : List WriteCandidate}
    (gathered : writeCandidates pools s = .ok candidates t) :
    (∃ placed u, placeWrite path none candidates.length candidates t = .ok placed u) ↔
      ∃ pool ∈ pools, s.Accepts pool path := by
  have readies := (keeps_writeCandidates readies_driver pools).of_ok gathered
  obtain ⟨-, sized⟩ := writeCandidates_eq_ok discreet gathered
  rw [placeWrite_succeeds_iff (readies.toDrifts.discreet.2 discreet) le_rfl]
  · simp only [readies.drivers discreet, readies.toDrifts.tells]
    constructor
    · rintro ⟨c, candidate, node, location, served, said⟩
      obtain ⟨member, driver, sizes⟩ := (sized c).1 candidate
      cases served.symm.trans sizes.served
      exact ⟨c.pool, member, node, c.free, location, sizes, said⟩
    · rintro ⟨pool, member, node, free, location, sizes, said⟩
      exact ⟨⟨pool, free⟩, (sized _).2 ⟨member, node, sizes⟩, node, location, sizes.served, said⟩
  · intro c candidate
    obtain ⟨-, node, sizes⟩ := (sized c).1 candidate
    exact ⟨node, (readies.drivers discreet _).trans sizes.served⟩

section Placing

variable {ctx : SecurityContext} {parent entry : Entry}

/-- A file that is found exists. -/
theorem entryExists_of_reaches (browses : s.BrowsesThrough outer session ns)
    (known : session.security = some ctx) (reaches : ns.Reaches ctx (session.names path) entry)
    (plain : entry.stat.isDirectory = false) :
    entryExists (Path.absolute session.workingDir path) s = .ok true s := by
  have looked := entry_apply browses known (Path.absolute session.workingDir path)
  rw [Path.absolute_absolute, Namespace.find_eq_ok_iff.2 reaches] at looked
  refine (Action.bind_of_ok (orNone_eq_ok_iff.2 (.inl ⟨entry, rfl, looked⟩))).trans ?_
  simp [plain]
  rfl

/-- A file that is missing in a directory that can be searched does not exist. -/
theorem entryExists_of_missing (browses : s.BrowsesThrough outer session ns) (tree : ns.Tree)
    (known : session.security = some ctx) (missing : ns.at? (session.names path) = none)
    (reaches : ns.Reaches ctx (session.names path).dropLast parent)
    (directory : parent.stat.isDirectory = true)
    (writable : parent.permits ctx (Mode.write ||| Mode.search) = true) :
    entryExists (Path.absolute session.workingDir path) s = .ok false s := by
  have searchable : parent.permits ctx Mode.search = true :=
    Permission.permits_less (by decide) writable
  have looked := entry_apply browses known (Path.absolute session.workingDir path)
  rw [Path.absolute_absolute, Namespace.find_of_missing tree reaches directory searchable missing]
    at looked
  exact Action.bind_of_ok (orNone_eq_ok_iff.2 (.inr ⟨rfl, _, looked, rfl⟩))

/-- The entry of a file that is missing can be made, after drivers were asked for. -/
theorem createFor_of_missing (browses : s.BrowsesThrough outer session ns) (tree : ns.Tree)
    (drifts : Drifts s t) (known : session.security = some ctx)
    (missing : ns.at? (session.names path) = none)
    (reaches : ns.Reaches ctx (session.names path).dropLast parent)
    (directory : parent.stat.isDirectory = true)
    (writable : parent.permits ctx (Mode.write ||| Mode.search) = true) (pool : Pool)
    (location : Location) :
    ∃ u, createFor (Path.absolute session.workingDir path) pool location t = .ok () u := by
  obtain ⟨inner, id, wired, stored⟩ := drifts.browsesThrough.2 browses
  subst stored
  rw [← session.names_absolute] at missing reaches
  obtain ⟨next, made⟩ := OnSite.Wired.create_of_missing wired newFileMode tree known reaches
    directory writable missing
  exact ⟨_, Action.bind_of_ok (Action.attempt_of_ok made)⟩

end Placing

/-- A location is given once a write was placed, if the file exists or can be made. -/
theorem located_of_placed (browses : s.BrowsesThrough outer session ns) {pools : List Pool} {pool : Pool}
    (listing : StackM.pools (.list .any) s = .ok pools s) (some_ : ¬ pools.isEmpty = true)
    {candidates : List WriteCandidate} {there : Bool} {location : Location} {u : OnSite}
    (gathered : writeCandidates pools s = .ok candidates t)
    (asked : entryExists (Path.absolute session.workingDir path) t = .ok there t)
    (placed : placeWrite (Path.absolute session.workingDir path) none candidates.length candidates t =
      .ok (pool, location) u)
    (made : there = false →
      ∃ v, createFor (Path.absolute session.workingDir path) pool location u = .ok () v) :
    ∃ location v, whereToWrite path s = .ok location v := by
  have located : ∀ {answer : Location} {v : OnSite},
      (do
        if ¬ there then createFor (Path.absolute session.workingDir path) pool location
        return (location.tag Chunk.poolKey (.str pool.name)).tag Chunk.nameKey
          (.str (Path.absolute session.workingDir path))) u = .ok answer v →
      whereToWrite path s = .ok answer v := by
    intro answer v finished
    refine Action.bind_eq_ok_iff.2 ⟨_, s, absolute_apply browses path, ?_⟩
    refine Action.bind_eq_ok_iff.2 ⟨pools, s, listing, ?_⟩
    refine Action.guarded_eq_ok_iff.2 ⟨some_, ?_⟩
    refine Action.bind_eq_ok_iff.2 ⟨candidates, t, gathered, ?_⟩
    refine Action.bind_eq_ok_iff.2 ⟨there, t, asked, ?_⟩
    exact Action.bind_eq_ok_iff.2 ⟨(pool, location), u, placed, finished⟩
  cases there with
  | true => exact ⟨_, u, located rfl⟩
  | false =>
    obtain ⟨v, created⟩ := made rfl
    exact ⟨_, v, located (Action.bind_of_ok created)⟩

/-- Whoever may write a file is given a location exactly where a pool of the listing accepts the write
and no pool of the listing stands in the way. -/
theorem located_iff_accepts (browses : s.Browses session ns) (reachable : ns.Reachable)
    (discreet : s.Discreet) (may : MayPlace session ns path) :
    (∃ location t, whereToWrite path s = .ok location t) ↔
      ∃ pools, StackM.pools (.list .any) s = .ok pools s ∧
        (∃ pool ∈ pools, s.Accepts pool (Path.absolute session.workingDir path)) ∧
        ∀ pool ∈ pools, ¬ s.Stops pool true := by
  obtain ⟨outer, browses⟩ := browses
  constructor
  · rintro ⟨location, t, located⟩
    unfold whereToWrite at located
    obtain ⟨target, _, seen, listed⟩ := Action.bind_eq_ok_iff.1 located
    cases (absolute_apply browses path).symm.trans seen
    obtain ⟨pools, _, listing, guarded⟩ := Action.bind_eq_ok_iff.1 listed
    obtain rfl := (reads_pools_list _).of_ok listing
    obtain ⟨-, screened⟩ := Action.guarded_eq_ok_iff.1 guarded
    obtain ⟨candidates, u, gathered, looked⟩ := Action.bind_eq_ok_iff.1 screened
    obtain ⟨there, v, asked, placed⟩ := Action.bind_eq_ok_iff.1 looked
    obtain ⟨rfl, -⟩ := entryExists_eq_ok asked
    obtain ⟨found, w, placing, -⟩ := Action.bind_eq_ok_iff.1 placed
    exact ⟨pools, listing, (placed_iff_accepts discreet gathered).1 ⟨found, w, placing⟩,
      (writeCandidates_eq_ok discreet gathered).1⟩
  · rintro ⟨pools, listing, ⟨pool, member, accepts⟩, clear⟩
    have some_ : ¬ pools.isEmpty = true := by
      rintro none_
      cases List.isEmpty_iff.1 none_
      cases member
    cases gathered : writeCandidates pools s with
    | error e t =>
      obtain ⟨other, there, stops⟩ := writeCandidates_eq_error discreet gathered
      exact absurd stops (clear other there)
    | ok candidates t =>
      have readies := (keeps_writeCandidates readies_driver pools).of_ok gathered
      have later := readies.toDrifts.browsesThrough.2 browses
      obtain ⟨⟨chosen, offered⟩, u, placed⟩ :=
        (placed_iff_accepts discreet gathered).2 ⟨pool, member, accepts⟩
      have further := (keeps_placeWrite readies_driver readies_select _ _ _ _).of_ok placed
      obtain ⟨ctx, known, ⟨entry, reaches, plain⟩ | ⟨missing, parent, reaches, directory, writable⟩⟩ :=
        may
      · have asked := entryExists_of_reaches later known reaches plain
        exact located_of_placed browses listing some_ gathered asked placed nofun
      · have asked :=
          entryExists_of_missing later reachable.tree known missing reaches directory writable
        exact located_of_placed browses listing some_ gathered asked placed fun _ =>
          createFor_of_missing later reachable.tree further.toDrifts known missing reaches directory
            writable chosen offered

/-- Where a pool is sized by a driver for disk pools, another one stands in the way exactly if it is a disk
pool whose filesystems cannot be read. -/
theorem stops_iff_unreadable (disks : s.DiskOnly) {other pool : Pool} {node : DriverNode} {free : Nat}
    (sizes : s.Sizes other true node free) :
    s.Stops pool true ↔ pool.type = DiskDriver.poolType ∧ ∃ e, pool.filesystems = .error e := by
  obtain ⟨type, disk, rfl⟩ := disks.disk_of_driverFor sizes.served
  have served := sizes.served
  rw [type] at served
  have usable : ∀ e, pool.hasUsableFilesystem true = .error e ↔ pool.filesystems = .error e := by
    intro e
    unfold Pool.hasUsableFilesystem
    cases pool.filesystems <;> simp [bind, Except.bind, pure, Except.pure]
  constructor
  · rintro (⟨failed, kind⟩ | ⟨gave, lost⟩)
    · rw [disks.type_of_failed failed kind, served] at failed
      cases failed
    · obtain ⟨here, again, rfl⟩ := disks.disk_of_driverFor gave
      rw [tells_disk_isAvailable, usable] at lost
      exact ⟨here, _, lost⟩
  · rintro ⟨here, e, unreadable⟩
    refine .silent (here ▸ served) (e := e) ?_
    rw [tells_disk_isAvailable, usable, unreadable]

/-- Whoever may write a file is given a location exactly where a pool of the listing accepts the write
and no pool of the listing stands in the way. With disk pools alone, a pool that accepts the write is
enough exactly if the filesystems of every disk pool can be read. -/
theorem whereToWrite_succeeds_iff (browses : s.Browses session ns) (reachable : ns.Reachable)
    (discreet : s.Discreet) (may : MayPlace session ns path) :
    ((∃ location t, whereToWrite path s = .ok location t) ↔
      ∃ pools, StackM.pools (.list .any) s = .ok pools s ∧
        (∃ pool ∈ pools, s.Accepts pool (Path.absolute session.workingDir path)) ∧
        ∀ pool ∈ pools, ¬ s.Stops pool true) ∧
      (s.DiskOnly → ∀ pools, StackM.pools (.list .any) s = .ok pools s →
        ∀ pool ∈ pools, s.Accepts pool (Path.absolute session.workingDir path) →
          ((∃ location t, whereToWrite path s = .ok location t) ↔
            ∀ other ∈ pools, other.type = DiskDriver.poolType →
              ∃ filesystems, other.filesystems = .ok filesystems)) := by
  have located := located_iff_accepts browses reachable discreet may
  refine ⟨located, fun disks pools listing pool member accepts => located.trans ?_⟩
  obtain ⟨node, free, location, sizes, offers⟩ := accepts
  have readable : ∀ other : Pool, ¬ s.Stops other true ↔
      (other.type = DiskDriver.poolType → ∃ filesystems, other.filesystems = .ok filesystems) := by
    intro other
    rw [stops_iff_unreadable disks sizes]
    cases other.filesystems <;> simp
  constructor
  · rintro ⟨listed, again, -, clear⟩ other there
    cases listing.symm.trans again
    exact (readable other).1 (clear other there)
  · intro all
    exact ⟨pools, listing, ⟨pool, member, node, free, location, sizes, offers⟩,
      fun other there => (readable other).2 (all other there)⟩

/-- A disk pool whose filesystems are no list. -/
def garbledPool : Pool where
  name := "bad"
  type := DiskDriver.poolType
  attrs := (∅ : Attributes).insert Pool.filesystemsKey (.str "oops")

/-- A stack of root's with this pool beside one with much space. -/
def hampered : OnSite :=
  desk .root .initial (Table.ofList [("bad", garbledPool), ("disk", diskPool "disk" "srv/a" 1000)])
    .initial

/-- The pool with much space accepts a new file, and there is no location. -/
theorem refused_beside_accepting :
    hampered.Browses { security := some .root } .initial ∧ Namespace.initial.Reachable ∧
      hampered.Discreet ∧ MayPlace { security := some .root } .initial "/f" ∧
      hampered.Accepts (diskPool "disk" "srv/a" 1000) "/f" ∧
      ¬ ∃ location t, whereToWrite "/f" hampered = .ok location t := by
  have browses : hampered.Browses { security := some .root } .initial := ⟨_, browses_desk _ _ _ _⟩
  have disks : hampered.DiskOnly := diskOnly_desk _ _ _ _
  have listing : StackM.pools (.list .any) hampered =
      .ok [garbledPool, diskPool "disk" "srv/a" 1000] hampered := rfl
  have accepts : hampered.Accepts (diskPool "disk" "srv/a" 1000) "/f" :=
    ⟨_, 1000, _, ⟨rfl, rfl, rfl⟩, rfl⟩
  have may : MayPlace { security := some .root } .initial "/f" := by
    have names : CatalogSession.names { security := some .root } "/f" = ["f"] := rfl
    refine ⟨.root, rfl, .inr ⟨rfl, ?_⟩⟩
    rw [names]
    exact ⟨_, ⟨_, rfl, .here _⟩, rfl, rfl⟩
  refine ⟨browses, .initial, disks.discreet, may, accepts, ?_⟩
  have succeeds := (whereToWrite_succeeds_iff browses .initial disks.discreet may).2 disks _ listing
    _ (by simp) accepts
  rw [succeeds]
  intro readable
  obtain ⟨filesystems, read⟩ := readable garbledPool List.mem_cons_self rfl
  have garbled : garbledPool.filesystems = .error (.invalidArgument "pool bad has bad filesystems") := rfl
  cases garbled.symm.trans read

end Resolution
end Stowage
