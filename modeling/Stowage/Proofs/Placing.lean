import Stowage.Proofs.Preparations

/-! The steps to a location for writing. The candidates are pools of the listing, the location is one
that the driver of a candidate made for it, and the file has been looked up before and is made after
that if it was missing. -/
namespace Stowage.Resolution
open OnSite StackM

variable {s t : OnSite} {path : String} {location : Location}

/-- A file is taken to exist if the catalog finds it, and not to exist if it is missing there. -/
theorem entryExists_eq_ok {there : Bool} (done : entryExists path s = .ok there t) : t = s ∧
    ((there = true ∧ ∃ entry, StackM.catalog (.entry path) s = .ok entry s ∧
        entry.stat.isDirectory = false) ∨
      (there = false ∧ ∃ e, StackM.catalog (.entry path) s = .error e s ∧
        e.kind = .fileNotFound)) := by
  have reads : Action.Reads (StackM.catalog (.entry path)) := StackM.reads_catalog rfl
  obtain ⟨found, _, asked, answered⟩ := Action.bind_eq_ok_iff.1 done
  rcases orNone_eq_ok_iff.1 asked with ⟨entry, rfl, looked⟩ | ⟨rfl, e, missed, kind⟩
  · obtain rfl := reads.of_ok looked
    by_cases directory : entry.stat.isDirectory = true
    · simp only [directory, if_true] at answered
      cases answered
    · simp only [directory] at answered
      cases answered
      exact ⟨rfl, .inl ⟨rfl, entry, looked, Bool.eq_false_iff.2 directory⟩⟩
  · obtain rfl := reads.of_error missed
    cases answered
    exact ⟨rfl, .inr ⟨rfl, e, missed, kind⟩⟩

/-- The entry of a new file is made by the catalog, or not at all. -/
theorem create_of_createFor {pool : Pool} (made : createFor path pool location s = .ok () t) :
    StackM.catalog (.create path newFileMode) s = .ok () t := by
  unfold createFor at made
  cases run : StackM.catalog (.create path newFileMode) s with
  | ok answer u =>
    rw [Action.bind_of_ok (Action.attempt_of_ok run)] at made
    cases made
    rfl
  | error e u =>
    rw [Action.bind_of_ok (Action.attempt_of_error run)] at made
    obtain ⟨_, _, -, thrown⟩ := Action.bind_eq_ok_iff.1 made
    cases thrown

/-- The candidates are among the pools that were looked at. -/
theorem pool_of_candidate {pools : List Pool} {candidates : List WriteCandidate}
    (gathered : writeCandidates pools s = .ok candidates t) {candidate : WriteCandidate}
    (member : candidate ∈ candidates) : candidate.pool ∈ pools := by
  induction pools generalizing candidates s with
  | nil =>
    cases gathered
    cases member
  | cons pool rest ih =>
    obtain ⟨free, u, -, more⟩ := Action.bind_eq_ok_iff.1 gathered
    obtain ⟨others, v, later, returned⟩ := Action.bind_eq_ok_iff.1 more
    cases returned
    rcases List.mem_append.1 member with first | further
    · cases free with
      | none => cases first
      | some amount =>
        obtain rfl := List.mem_singleton.1 first
        exact List.mem_cons_self
    · exact List.mem_cons_of_mem _ (ih later further)

/-- The location is one that the driver of the pool makes for the path. -/
def Offers (s : OnSite) (pool : Pool) (path : String) (location : Location) : Prop :=
  ∃ u v node, s.Prepares u ∧ driver pool.type u = .ok node v ∧
    askDriver node (.writeLocation pool path) v = .ok location v

section Within

variable {R : OnSite → OnSite → Prop}

/-- The location is one that the driver of the pool makes for the path, in a state that the frame allows. -/
def OffersWithin (R : OnSite → OnSite → Prop) (s : OnSite) (pool : Pool) (path : String)
    (location : Location) : Prop :=
  ∃ u v node, R s u ∧ driver pool.type u = .ok node v ∧
    askDriver node (.writeLocation pool path) v = .ok location v

theorem OffersWithin.of_frame [Action.Frame R] {pool : Pool} (before : R s t)
    (offers : OffersWithin R t pool path location) : OffersWithin R s pool path location := by
  obtain ⟨u, v, node, further, driven, made⟩ := offers
  exact ⟨u, v, node, Action.Frame.trans before further, driven, made⟩

variable [Action.Frame R] (drivers : ∀ type, Action.Keeps R (driver type))
  (turns : ∀ free, Action.Keeps R (select free))
include drivers turns

theorem placeWrite_within {pool : Pool} {refused : Option Error} {rounds : Nat}
    {candidates : List WriteCandidate}
    (placed : placeWrite path refused rounds candidates s = .ok (pool, location) t) :
    (∃ candidate ∈ candidates, candidate.pool = pool) ∧ OffersWithin R s pool path location := by
  induction rounds generalizing refused candidates s with
  | zero => cases placed
  | succ rounds ih =>
    obtain ⟨chosen, u, turned, asked⟩ := Action.bind_eq_ok_iff.1 placed
    have allowed := (turns _).of_ok turned
    cases chosen with
    | none => cases asked
    | some i =>
      dsimp only at asked
      cases listed : candidates[i]? with
      | none =>
        rw [listed] at asked
        cases asked
      | some candidate =>
        rw [listed] at asked
        have member := List.mem_of_getElem? listed
        obtain ⟨node, v, driven, tried⟩ := Action.bind_eq_ok_iff.1 asked
        have further := (drivers _).of_ok driven
        have offer : Action.Reads (askDriver node (.writeLocation candidate.pool path)) :=
          reads_askDriver node rfl
        cases made : askDriver node (.writeLocation candidate.pool path) v with
        | ok answer w =>
          obtain rfl := offer.of_ok made
          rw [Action.bind_of_ok (Action.attempt_of_ok made)] at tried
          cases tried
          exact ⟨⟨candidate, member, rfl⟩, u, _, node, allowed, driven, made⟩
        | error e w =>
          obtain rfl := offer.of_error made
          rw [Action.bind_of_ok (Action.attempt_of_error made)] at tried
          obtain ⟨⟨other, later, same⟩, offers⟩ := ih tried
          refine ⟨⟨other, List.eraseIdx_subset later, same⟩, ?_⟩
          exact offers.of_frame (Action.Frame.trans allowed further)

theorem whereToWrite_within (located : whereToWrite path s = .ok location t) :
    ∃ target pools u there pool offered v, absolute path s = .ok target s ∧
      StackM.pools (.list .any) s = .ok pools s ∧ R s u ∧
      entryExists target u = .ok there u ∧ pool ∈ pools ∧ OffersWithin R s pool target offered ∧
      R s v ∧
      (there = true ∧ t = v ∨ there = false ∧ createFor target pool offered v = .ok () t) ∧
      location = (offered.tag Chunk.poolKey (.str pool.name)).tag Chunk.nameKey (.str target) := by
  unfold whereToWrite at located
  obtain ⟨target, _, seen, listed⟩ := Action.bind_eq_ok_iff.1 located
  obtain rfl := (reads_absolute path).of_ok seen
  obtain ⟨pools, _, listing, guarded⟩ := Action.bind_eq_ok_iff.1 listed
  obtain rfl := (StackM.reads_pools_list _).of_ok listing
  obtain ⟨-, probed⟩ := Action.guarded_eq_ok_iff.1 guarded
  obtain ⟨candidates, u, gathered, looked⟩ := Action.bind_eq_ok_iff.1 probed
  have prepared := (keeps_writeCandidates drivers _).of_ok gathered
  obtain ⟨there, _, asked, placed⟩ := Action.bind_eq_ok_iff.1 looked
  obtain ⟨rfl, -⟩ := entryExists_eq_ok asked
  obtain ⟨⟨pool, offered⟩, v, placing, finished⟩ := Action.bind_eq_ok_iff.1 placed
  have further := (keeps_placeWrite drivers turns _ _ _ _).of_ok placing
  obtain ⟨⟨candidate, member, rfl⟩, offers⟩ := placeWrite_within drivers turns placing
  refine ⟨target, pools, _, there, candidate.pool, offered, v, seen, listing, prepared, asked,
    pool_of_candidate gathered member, offers.of_frame prepared,
    Action.Frame.trans prepared further, ?_⟩
  cases there with
  | true =>
    cases finished
    exact ⟨.inl ⟨rfl, rfl⟩, rfl⟩
  | false =>
    obtain ⟨_, w, made, returned⟩ := Action.bind_eq_ok_iff.1 finished
    cases returned
    exact ⟨.inr ⟨rfl, made⟩, rfl⟩

end Within

/-- A write is placed in the pool of a candidate, where its driver offers. -/
theorem placeWrite_eq_ok {pool : Pool} {refused : Option Error} {rounds : Nat}
    {candidates : List WriteCandidate}
    (placed : placeWrite path refused rounds candidates s = .ok (pool, location) t) :
    (∃ candidate ∈ candidates, candidate.pool = pool) ∧ Offers s pool path location :=
  placeWrite_within StackM.keeps_driver keeps_select placed

/-- What a stack that gives a location to write to has done: it listed the pools, looked the file up,
had a driver make the location, and made the file if it was missing. -/
theorem whereToWrite_eq_ok (located : whereToWrite path s = .ok location t) :
    ∃ target pools u there pool offered v, absolute path s = .ok target s ∧
      StackM.pools (.list .any) s = .ok pools s ∧ s.Prepares u ∧
      entryExists target u = .ok there u ∧ pool ∈ pools ∧ Offers s pool target offered ∧
      s.Prepares v ∧
      (there = true ∧ t = v ∨ there = false ∧ createFor target pool offered v = .ok () t) ∧
      location = (offered.tag Chunk.poolKey (.str pool.name)).tag Chunk.nameKey (.str target) :=
  whereToWrite_within StackM.keeps_driver keeps_select located

end Stowage.Resolution
