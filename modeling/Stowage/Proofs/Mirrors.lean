import Stowage.Proofs.Agreement

/-! Actions that do not see a part of the state. A view maps a state to what is left of it, or to the
same state built from other parts; an action is mirrored by another one under the view if from the view
of a state the other gives the same answer and leaves the view of what the first leaves. Mirroring goes
through sequences, attempts and parts of the state, so that what resolution does is mirrored as soon as
its questions to chains and drivers are. -/
namespace Stowage

namespace Action

variable {σ τ α β : Type} {view : σ → τ}

/-- From the view of a state, the image answers as the action does from the state, and leaves the view
of what the action leaves. -/
def Mirrors (view : σ → τ) (act : Action σ α) (image : Action τ α) : Prop :=
  ∀ s, image.outcome (view s) = ((act.outcome s).1, view (act.outcome s).2)

theorem Mirrors.of_ok {act : Action σ α} {image : Action τ α} (mirrors : Mirrors view act image)
    {s t : σ} {a : α} (done : act s = .ok a t) : image (view s) = .ok a (view t) := by
  have same := mirrors s
  rw [outcome_of_ok done] at same
  cases run : image (view s) with
  | ok b u =>
    rw [outcome_of_ok run] at same
    cases same
    rfl
  | error e u =>
    rw [outcome_of_error run] at same
    cases same

theorem Mirrors.of_error {act : Action σ α} {image : Action τ α} (mirrors : Mirrors view act image)
    {s t : σ} {e : Error} (failed : act s = .error e t) : image (view s) = .error e (view t) := by
  have same := mirrors s
  rw [outcome_of_error failed] at same
  cases run : image (view s) with
  | ok b u =>
    rw [outcome_of_ok run] at same
    cases same
  | error fault u =>
    rw [outcome_of_error run] at same
    cases same
    rfl

/-- To be mirrored is to agree on every state and its view. -/
theorem mirrors_iff_agrees {act : Action σ α} {image : Action τ α} :
    Mirrors view act image ↔ Agrees (fun s t => t = view s) act image := by
  constructor
  · rintro mirrors s _ rfl
    rw [mirrors s]
    exact ⟨rfl, rfl⟩
  · intro agrees s
    obtain ⟨answer, left⟩ := agrees s _ rfl
    exact Prod.ext answer.symm left

theorem mirrors_ofExcept (answer : Except Error α) :
    Mirrors view (ofExcept answer) (ofExcept answer) := by
  intro s
  cases answer <;> rfl

theorem mirrors_pure (a : α) : Mirrors view (pure a) (pure a) :=
  fun _ => rfl

theorem mirrors_throw (e : Error) : Mirrors view (throw e : Action σ α) (throw e) :=
  fun _ => rfl

theorem mirrors_query {f : σ → Except Error α} {g : τ → Except Error α}
    (same : ∀ s, g (view s) = f s) : Mirrors view (query f) (query g) := by
  intro s
  rw [outcome_query, outcome_query, same]

theorem mirrors_update {f : σ → Except Error (α × σ)} {g : τ → Except Error (α × τ)}
    (same : ∀ s, g (view s) = (f s).map fun (a, t) => (a, view t)) :
    Mirrors view (update f) (update g) := by
  intro s
  cases result : f s with
  | ok pair => simp [update, outcome, same, result, Except.map]
  | error e => simp [update, outcome, same, result, Except.map]

theorem mirrors_ofOutcome {f : σ → Except Error α × σ} {g : τ → Except Error α × τ}
    (same : ∀ s, g (view s) = ((f s).1, view (f s).2)) :
    Mirrors view (ofOutcome f) (ofOutcome g) := by
  intro s
  rw [outcome_ofOutcome, outcome_ofOutcome, same]

theorem mirrors_modify {f : σ → σ} {g : τ → τ} (same : ∀ s, g (view s) = view (f s)) :
    Mirrors view (modify f : Action σ Unit) (modify g) := by
  intro s
  exact congrArg (Prod.mk _) (same s)

theorem Mirrors.bind {act : Action σ α} {image : Action τ α} {next : α → Action σ β}
    {after : α → Action τ β} (first : Mirrors view act image)
    (second : ∀ a, Mirrors view (next a) (after a)) :
    Mirrors view (act >>= next) (image >>= after) := by
  intro s
  cases run : act s with
  | ok a t =>
    rw [outcome_bind_of_ok run, outcome_bind_of_ok (first.of_ok run)]
    exact second a t
  | error e t =>
    rw [outcome_of_error (bind_of_error run), outcome_of_error (bind_of_error (first.of_error run))]

theorem Mirrors.attempt {act : Action σ α} {image : Action τ α} (mirrors : Mirrors view act image) :
    Mirrors view (attempt act) (attempt image) := by
  intro s
  rw [outcome_of_ok (attempt_apply act s), outcome_of_ok (attempt_apply image (view s)), mirrors s]

/-- What is done with the state that was read. -/
theorem mirrors_get_bind {next : σ → Action σ α} {after : τ → Action τ α}
    (same : ∀ s, Mirrors view (next s) (after (view s))) :
    Mirrors view (get >>= next) (get >>= after) :=
  fun s => same s s

/-- A refusal in front of what is mirrored is mirrored. -/
theorem Mirrors.guarded {p : Prop} [Decidable p] {e : Error} {next : Action σ α}
    {image : Action τ α} {before : β → Action σ α} {after : β → Action τ α}
    (mirrors : Mirrors view next image) :
    Mirrors view (if p then (throw e >>= before) else next)
      (if p then (throw e >>= after) else image) := by
  by_cases refused : p
  · rw [if_pos refused, if_pos refused]
    exact fun _ => rfl
  · rw [if_neg refused, if_neg refused]
    exact mirrors

theorem Mirrors.ite {p : Prop} [Decidable p] {yes no : Action σ α} {yesImage noImage : Action τ α}
    (first : Mirrors view yes yesImage) (second : Mirrors view no noImage) :
    Mirrors view (if p then yes else no) (if p then yesImage else noImage) := by
  by_cases holds : p
  · rw [if_pos holds, if_pos holds]
    exact first
  · rw [if_neg holds, if_neg holds]
    exact second

theorem Mirrors.mapM {γ : Type} {act : γ → Action σ α} {image : γ → Action τ α}
    (mirrors : ∀ c, Mirrors view (act c) (image c)) (items : List γ) :
    Mirrors view (items.mapM act) (items.mapM image) := by
  induction items with
  | nil => exact mirrors_pure _
  | cons item rest ih =>
    rw [List.mapM_cons, List.mapM_cons]
    exact (mirrors item).bind fun _ => ih.bind fun _ => mirrors_pure _

/-- An action on a part of the state, seen through a view of the part. -/
theorem Mirrors.zoom {π κ : Type} {part : π → κ} {act : Action π α} {image : Action κ α}
    (mirrors : Mirrors part act image) {get : σ → π} {set : π → σ → σ} {look : τ → κ}
    {put : κ → τ → τ} (seen : ∀ s, look (view s) = part (get s))
    (stored : ∀ p s, put (part p) (view s) = view (set p s)) :
    Mirrors view (zoom get set act) (zoom look put image) := by
  intro s
  rw [outcome_zoom, outcome_zoom, seen, mirrors]
  exact congrArg (Prod.mk _) (stored _ s)

end Action

namespace StackM

variable {view : OnSite → OnSite}

/-- What is asked of a chain, seen through a view of the chain. -/
theorem mirrors_need_bind {τ α : Type} {kind : ContractKind} {part : Stack → Option τ}
    {see : τ → τ} {next after : τ → StackM α}
    (seen : ∀ s, part (view s).stack = (part s.stack).map see)
    (same : ∀ chain, Action.Mirrors view (next chain) (after (see chain))) :
    Action.Mirrors view (need kind part >>= next) (need kind part >>= after) := by
  intro s
  cases held : part s.stack with
  | none =>
    have absent : part (view s).stack = none := by rw [seen, held]; rfl
    rw [Action.outcome_of_error (Action.bind_of_error (need_of_none held)),
      Action.outcome_of_error (Action.bind_of_error (need_of_none absent))]
  | some chain =>
    have found : part (view s).stack = some (see chain) := by rw [seen, held]; rfl
    rw [Action.outcome_bind_of_ok (need_of_some held),
      Action.outcome_bind_of_ok (need_of_some found)]
    exact same chain s

/-- A view that leaves the site alone does not matter to what is done on the site. -/
theorem mirrors_onSite {α : Type} (act : Action Site α) (same : ∀ s, (view s).site = s.site)
    (stored : ∀ site s, { view s with site } = view { s with site }) :
    Action.Mirrors view (onSite act) (onSite act) :=
  Action.Mirrors.zoom (fun _ => rfl : Action.Mirrors id act act) same stored

/-- Making a driver is mirrored if the same drivers are there and the same can be made. -/
theorem mirrors_driver (type : String) (kept : ∀ s, (view s).stack.drivers = s.stack.drivers)
    (made : ∀ s, makeDriver (view s).site.manager (view s).stack type =
      makeDriver s.site.manager s.stack type)
    (stored : ∀ drivers board s, { view s with stack := { (view s).stack with drivers, board } } =
      view { s with stack := { s.stack with drivers, board } }) :
    Action.Mirrors view (driver type) (driver type) := by
  refine Action.mirrors_update fun s => ?_
  rw [kept, made]
  split
  · rfl
  · simp only [bind, Except.bind]
    cases makeDriver s.site.manager s.stack type with
    | error e => rfl
    | ok pair =>
      exact congrArg (fun after => Except.ok (pair.1, after)) (stored _ pair.2 s)

end StackM

/-! ### Resolution -/

namespace Resolution

open Stowage.Action StackM

/-- The resolution of a read does not see what the view changes, unless it asks for replicas. -/
structure Overlooks (view : OnSite → OnSite) : Prop where
  excluded (s : OnSite) : (view s).stack.excluded = s.stack.excluded
  wired (s : OnSite) : (view s).stack.catalog.isSome = s.stack.catalog.isSome
  directory : Mirrors view (catalog .workingDir) (catalog .workingDir)
  pools (r : PoolsRequest) : Mirrors view (pools r) (pools r)
  driver (type : String) : Mirrors view (driver type) (driver type)
  asks (node : DriverNode) (r : DriverRequest) : Mirrors view (askDriver node r) (askDriver node r)
  turns (free : List Nat) : Mirrors view (select free) (select free)

variable {view : OnSite → OnSite}

/-- What the resolution of a read does not see of a state, it does not see in the view. -/
theorem Overlooks.overlooked (overlooks : Overlooks view) : Overlooked fun s t => t = view s where
  excluded := by
    rintro s _ rfl
    exact overlooks.excluded s
  wired := by
    rintro s _ rfl
    exact overlooks.wired s
  directory := mirrors_iff_agrees.1 overlooks.directory
  pools r := mirrors_iff_agrees.1 (overlooks.pools r)
  driver type := mirrors_iff_agrees.1 (overlooks.driver type)
  asks node r := mirrors_iff_agrees.1 (overlooks.asks node r)
  turns free := mirrors_iff_agrees.1 (overlooks.turns free)

namespace Overlooks

variable (overlooks : Overlooks view)
include overlooks

theorem absolute (path : String) : Mirrors view (absolute path) (absolute path) :=
  mirrors_iff_agrees.2 (overlooks.overlooked.absolute path)

theorem readAmong (path : String) (rows : List Replica) :
    Mirrors view (readAmong path rows) (readAmong path rows) :=
  mirrors_iff_agrees.2 (overlooks.overlooked.readAmong path rows)

end Overlooks
end Resolution
end Stowage
