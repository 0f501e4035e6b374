import Stowage.Proofs.ReadChoice
import Stowage.Resolution.Write

/-! Two states side by side. Actions agree under a relation of states if from related states they give the
same answer and leave related states. Agreement goes through sequences and attempts, so that whole
operations of the resolution agree with themselves as soon as their questions to chains, drivers and the
placement policy do. -/
namespace Stowage

namespace Action

variable {σ τ α β : Type} {R : σ → τ → Prop}

/-- From related states the actions give the same answer, and leave related states. -/
def Agrees (R : σ → τ → Prop) (act : Action σ α) (image : Action τ α) : Prop :=
  ∀ s t, R s t → (act.outcome s).1 = (image.outcome t).1 ∧ R (act.outcome s).2 (image.outcome t).2

/-- What both gave, and what they left. -/
theorem Agrees.cases {act : Action σ α} {image : Action τ α} (agrees : Agrees R act image) {s : σ} {t : τ}
    (related : R s t) :
    (∃ a u v, act s = .ok a u ∧ image t = .ok a v ∧ R u v) ∨
      ∃ e u v, act s = .error e u ∧ image t = .error e v ∧ R u v := by
  have both := agrees s t related
  cases here : act s with
  | ok a u =>
    rw [outcome_of_ok here] at both
    cases there : image t with
    | ok b v =>
      rw [outcome_of_ok there] at both
      obtain rfl : a = b := Except.ok.inj both.1
      exact .inl ⟨a, u, v, rfl, rfl, both.2⟩
    | error e v =>
      rw [outcome_of_error there] at both
      cases both.1
  | error e u =>
    rw [outcome_of_error here] at both
    cases there : image t with
    | ok b v =>
      rw [outcome_of_ok there] at both
      cases both.1
    | error fault v =>
      rw [outcome_of_error there] at both
      obtain rfl : e = fault := Except.error.inj both.1
      exact .inr ⟨e, u, v, rfl, rfl, both.2⟩

theorem agrees_pure (a : α) : Agrees R (pure a) (pure a) :=
  fun _ _ related => ⟨rfl, related⟩

theorem agrees_throw (e : Error) : Agrees R (throw e : Action σ α) (throw e) :=
  fun _ _ related => ⟨rfl, related⟩

theorem agrees_ofExcept (answer : Except Error α) : Agrees R (ofExcept answer) (ofExcept answer) := by
  intro s t related
  cases answer <;> exact ⟨rfl, related⟩

theorem agrees_query {f : σ → Except Error α} {g : τ → Except Error α}
    (same : ∀ s t, R s t → f s = g t) : Agrees R (query f) (query g) := by
  intro s t related
  rw [outcome_query, outcome_query]
  exact ⟨same s t related, related⟩

theorem Agrees.bind {act : Action σ α} {image : Action τ α} {next : α → Action σ β}
    {after : α → Action τ β} (first : Agrees R act image) (second : ∀ a, Agrees R (next a) (after a)) :
    Agrees R (act >>= next) (image >>= after) := by
  intro s t related
  rcases first.cases related with ⟨a, u, v, here, there, left⟩ | ⟨e, u, v, here, there, left⟩
  · rw [outcome_bind_of_ok here, outcome_bind_of_ok there]
    exact second a u v left
  · rw [outcome_of_error (bind_of_error here), outcome_of_error (bind_of_error there)]
    exact ⟨rfl, left⟩

theorem Agrees.attempt {act : Action σ α} {image : Action τ α} (agrees : Agrees R act image) :
    Agrees R (attempt act) (attempt image) := by
  intro s t related
  obtain ⟨answer, left⟩ := agrees s t related
  rw [outcome_of_ok (attempt_apply act s), outcome_of_ok (attempt_apply image t), answer]
  exact ⟨rfl, left⟩

/-- What is done with the states that were read. -/
theorem agrees_get_bind {next : σ → Action σ α} {after : τ → Action τ α}
    (same : ∀ s t, R s t → Agrees R (next s) (after t)) : Agrees R (get >>= next) (get >>= after) :=
  fun s t related => same s t related s t related

theorem Agrees.ite {p : Prop} [Decidable p] {yes no : Action σ α} {yesImage noImage : Action τ α}
    (first : Agrees R yes yesImage) (second : Agrees R no noImage) :
    Agrees R (if p then yes else no) (if p then yesImage else noImage) := by
  by_cases holds : p
  · rw [if_pos holds, if_pos holds]
    exact first
  · rw [if_neg holds, if_neg holds]
    exact second

/-- A refusal in front of both. -/
theorem Agrees.guarded {p : Prop} [Decidable p] {e : Error} {next : Action σ α} {image : Action τ α}
    {before : β → Action σ α} {after : β → Action τ α} (agrees : Agrees R next image) :
    Agrees R (if p then (throw e >>= before) else next) (if p then (throw e >>= after) else image) :=
  .ite (fun _ _ related => ⟨rfl, related⟩) agrees

end Action

namespace Resolution

open Stowage.Action StackM

/-- The resolution of a read cannot tell related states apart, unless it asks for replicas. -/
structure Overlooked (R : OnSite → OnSite → Prop) : Prop where
  excluded {s t : OnSite} : R s t → t.stack.excluded = s.stack.excluded
  wired {s t : OnSite} : R s t → t.stack.catalog.isSome = s.stack.catalog.isSome
  directory : Agrees R (catalog .workingDir) (catalog .workingDir)
  pools (r : PoolsRequest) : Agrees R (pools r) (pools r)
  driver (type : String) : Agrees R (driver type) (driver type)
  asks (node : DriverNode) (r : DriverRequest) : Agrees R (askDriver node r) (askDriver node r)
  turns (free : List Nat) : Agrees R (select free) (select free)

/-- Nothing that the resolution asks for or does tells related states apart. -/
structure Ignored (R : OnSite → OnSite → Prop) : Prop extends Overlooked R where
  catalog (r : CatalogRequest) : Agrees R (catalog r) (catalog r)
  begins : Agrees R (onStack (modify Stack.beginOperation)) (onStack (modify Stack.beginOperation))
  excludes (id : Int) : Agrees R (exclude id) (exclude id)

variable {R : OnSite → OnSite → Prop}

theorem agrees_orNone {α : Type} {kind : ErrorKind} {act image : StackM α} (agrees : Agrees R act image) :
    Agrees R (orNone kind act) (orNone kind image) := by
  refine agrees.attempt.bind fun result => ?_
  cases result with
  | ok a => exact agrees_pure _
  | error e => exact .ite (agrees_pure _) (agrees_throw _)

/-- What follows a chain that is only needed to be there. -/
theorem agrees_need_then {τ α : Type} {kind : ContractKind} {part : Stack → Option τ} {next : StackM α}
    (wired : ∀ {s t : OnSite}, R s t → (part t.stack).isSome = (part s.stack).isSome)
    (agrees : Agrees R next next) :
    Agrees R (need kind part >>= fun _ => next) (need kind part >>= fun _ => next) := by
  intro s t related
  have present := wired related
  cases held : part s.stack with
  | none =>
    have absent : part t.stack = none := by simpa [held] using present
    rw [Action.outcome_of_error (Action.bind_of_error (need_of_none held)),
      Action.outcome_of_error (Action.bind_of_error (need_of_none absent))]
    exact ⟨rfl, related⟩
  | some chain =>
    obtain ⟨other, found⟩ := Option.isSome_iff_exists.1 (by simpa [held] using present)
    rw [Action.outcome_bind_of_ok (need_of_some held), Action.outcome_bind_of_ok (need_of_some found)]
    exact agrees s t related

/-! ### Candidates -/

namespace Overlooked

variable (overlooked : Overlooked R)
include overlooked

theorem absolute (path : String) : Agrees R (absolute path) (absolute path) := by
  refine agrees_need_then overlooked.wired (overlooked.directory.attempt.bind fun result => ?_)
  cases result <;> exact agrees_pure _

theorem freeSpace? (pool : Pool) (forWrite : Bool) :
    Agrees R (freeSpace? pool forWrite) (freeSpace? pool forWrite) := by
  refine (agrees_orNone (overlooked.driver pool.type)).bind fun driver => ?_
  cases driver with
  | none => exact agrees_pure _
  | some driver =>
    refine (overlooked.asks driver (.isAvailable pool forWrite)).bind fun available => ?_
    refine .ite (agrees_pure _) ?_
    refine (overlooked.asks driver (.freeSpace pool)).attempt.bind fun result => ?_
    cases result <;> exact agrees_pure _

theorem readCandidate (row : Replica) : Agrees R (readCandidate row) (readCandidate row) := by
  refine (agrees_orNone (overlooked.pools (.get row.pool))).bind fun pool => ?_
  cases pool with
  | none => exact agrees_pure _
  | some pool =>
    refine (overlooked.freeSpace? pool false).bind fun free => ?_
    cases free <;> exact agrees_pure _

theorem readCandidates (rows : List Replica) :
    Agrees R (readCandidates rows) (readCandidates rows) := by
  induction rows with
  | nil => exact agrees_pure _
  | cons row rest ih =>
    refine agrees_get_bind fun s t related => ?_
    rw [overlooked.excluded related]
    exact .ite ih ((overlooked.readCandidate row).bind fun _ => ih.bind fun _ => agrees_pure _)

theorem readAmong (path : String) (rows : List Replica) :
    Agrees R (readAmong path rows) (readAmong path rows) := by
  refine (overlooked.readCandidates rows).bind fun all => (overlooked.turns _).bind fun chosen => ?_
  cases chosen.bind (all[·]?) with
  | none => exact agrees_throw _
  | some c =>
    exact (overlooked.driver c.pool.type).bind fun node =>
      (overlooked.asks node (.readLocation c.pool c.replica)).bind fun _ => agrees_pure _

end Overlooked

namespace Ignored

variable (ignored : Ignored R)
include ignored

/-! ### Reading -/

theorem whereToRead (path : String) : Agrees R (whereToRead path) (whereToRead path) := by
  refine (ignored.absolute path).bind fun target =>
    (ignored.catalog (.replicas target)).bind fun rows => ?_
  refine .ite (agrees_get_bind fun s t related => ?_) (ignored.readAmong target rows)
  rw [ignored.excluded related]
  exact .ite (agrees_throw _) (agrees_throw _)

theorem readRounds {α τ : Type} (path : String) (attempt : Location → τ → Except Error α × τ)
    (rounds : Nat) (t : τ) :
    Agrees R (readRounds path attempt rounds t) (readRounds path attempt rounds t) := by
  induction rounds generalizing t with
  | zero => exact agrees_pure _
  | succ rounds ih =>
    refine (ignored.whereToRead path).attempt.bind fun found => ?_
    cases found with
    | error e => exact agrees_pure _
    | ok location =>
      rcases tried : attempt location t with ⟨e | a, next⟩
      · simp only [tried]
        cases location.replicaId? with
        | none => exact agrees_pure _
        | some id => exact (ignored.excludes id).bind fun _ => ih next
      · simp only [tried]
        exact agrees_pure _

theorem readWithRetries {α τ : Type} (path : String) (attempt : Location → τ → Except Error α × τ)
    (t : τ) : Agrees R (readWithRetries path attempt t) (readWithRetries path attempt t) := by
  refine ignored.begins.bind fun _ => Agrees.bind ?_ fun rounds => ignored.readRounds path attempt _ t
  have shown := (ignored.absolute path).bind fun target => ignored.catalog (.replicas target)
  refine shown.attempt.bind fun result => ?_
  cases result <;> exact agrees_pure _

/-! ### Writing -/

theorem writeCandidates (pools : List Pool) :
    Agrees R (writeCandidates pools) (writeCandidates pools) := by
  induction pools with
  | nil => exact agrees_pure _
  | cons pool rest ih =>
    exact (ignored.freeSpace? pool true).bind fun _ => ih.bind fun _ => agrees_pure _

theorem entryExists (path : String) : Agrees R (entryExists path) (entryExists path) := by
  refine (agrees_orNone (ignored.catalog (.entry path))).bind fun found => ?_
  cases found with
  | none => exact agrees_pure _
  | some entry => exact .ite (agrees_throw _) (agrees_pure _)

theorem placeWrite (path : String) (refused : Option Error) (rounds : Nat)
    (candidates : List WriteCandidate) :
    Agrees R (placeWrite path refused rounds candidates) (placeWrite path refused rounds candidates) := by
  induction rounds generalizing refused candidates with
  | zero => exact agrees_throw _
  | succ rounds ih =>
    refine (ignored.turns _).bind fun chosen => ?_
    cases chosen with
    | none => exact agrees_throw _
    | some i =>
      dsimp only
      cases candidates[i]? with
      | none => exact agrees_throw _
      | some candidate =>
        refine (ignored.driver candidate.pool.type).bind fun driver => ?_
        refine (ignored.asks driver (.writeLocation candidate.pool path)).attempt.bind fun answer => ?_
        cases answer with
        | ok location => exact agrees_pure _
        | error e => exact ih (some e) _

theorem createFor (path : String) (pool : Pool) (location : Location) :
    Agrees R (createFor path pool location) (createFor path pool location) := by
  refine (ignored.catalog (.create path newFileMode)).attempt.bind fun result => ?_
  cases result with
  | ok => exact agrees_pure _
  | error e =>
    have returned := (ignored.driver pool.type).bind fun driver =>
      ignored.asks driver (.cancelWrite pool location)
    exact returned.attempt.bind fun _ => agrees_throw _

theorem whereToWrite (path : String) : Agrees R (whereToWrite path) (whereToWrite path) := by
  refine (ignored.absolute path).bind fun target => (ignored.pools (.list .any)).bind fun pools => ?_
  refine .guarded ((ignored.writeCandidates pools).bind fun candidates =>
    (ignored.entryExists target).bind fun there =>
      (ignored.placeWrite target none _ candidates).bind fun placed => ?_)
  obtain ⟨pool, location⟩ := placed
  exact .ite ((ignored.createFor target pool location).bind fun _ => agrees_pure _) (agrees_pure _)

/-! ### The end of a write, and of a replica -/

theorem doneWriting (location : Location) (size : Nat) :
    Agrees R (doneWriting location size) (doneWriting location size) := by
  refine (agrees_ofExcept _).bind fun chunk => (agrees_ofExcept _).bind fun poolName =>
    (agrees_ofExcept _).bind fun name => .guarded ?_
  refine (ignored.pools (.get poolName)).bind fun pool =>
    (ignored.catalog (.entry name)).bind fun entry => ?_
  refine (ignored.catalog (.addReplica (writtenReplica chunk pool entry))).bind fun _ =>
    (ignored.catalog (.setSize name size)).bind fun _ => ?_
  exact (ignored.driver pool.type).bind fun driver =>
    (ignored.asks driver (.writeDone pool _ size)).bind fun updated => ignored.pools (.update updated)

theorem cancelWrite (location : Location) : Agrees R (cancelWrite location) (cancelWrite location) := by
  refine (agrees_ofExcept _).bind fun chunk => (agrees_ofExcept _).bind fun poolName =>
    (agrees_ofExcept _).bind fun name => (ignored.pools (.get poolName)).bind fun pool => ?_
  refine (ignored.driver pool.type).bind fun driver =>
    (ignored.asks driver (.cancelWrite pool location)).bind fun _ => .ite ?_ (agrees_pure _)
  exact (ignored.catalog (.replicas name)).bind fun rows =>
    .ite (ignored.catalog (.unlink name)) (agrees_pure _)

theorem removeReplica (path : String) (row : Replica) :
    Agrees R (removeReplica path row) (removeReplica path row) :=
  (ignored.absolute path).bind fun target => (ignored.pools (.get row.pool)).bind fun pool =>
    (ignored.driver pool.type).bind fun driver =>
      (ignored.asks driver (.remove pool target row)).bind fun _ =>
        ignored.catalog (.deleteReplica row)

end Ignored

end Resolution
end Stowage
