import Stowage.Action

/-! How actions run from a given state. An action that only looks can be replaced by its answer; an
action that fails clean leaves no trace of a failure; and what every part of a sequence keeps, the
sequence keeps. -/
namespace Stowage

/-- A sequence of results is a result exactly if its parts are. -/
theorem Error.bind_eq_ok_iff {ε α β : Type} {first : Except ε α} {next : α → Except ε β} {b : β} :
    (first >>= next) = .ok b ↔ ∃ a, first = .ok a ∧ next a = .ok b := by
  cases first with
  | ok a =>
    constructor
    · exact fun done => ⟨a, rfl, done⟩
    · rintro ⟨_, same, done⟩
      cases same
      exact done
  | error e =>
    constructor
    · exact nofun
    · rintro ⟨_, same, -⟩
      cases same

/-- A sequence of results is a failure exactly if its first part is, or what follows on that. -/
theorem Error.bind_eq_error_iff {ε α β : Type} {first : Except ε α} {next : α → Except ε β} {e : ε} :
    (first >>= next) = .error e ↔ first = .error e ∨ ∃ a, first = .ok a ∧ next a = .error e := by
  cases first with
  | ok a =>
    constructor
    · exact fun failed => .inr ⟨a, rfl, failed⟩
    · rintro (failed | ⟨_, same, failed⟩)
      · cases failed
      · cases same
        exact failed
  | error fault =>
    constructor
    · intro failed
      cases failed
      exact .inl rfl
    · rintro (failed | ⟨_, same, -⟩)
      · cases failed
        rfl
      · cases same

/-- What stands behind a refusal is reached exactly if the refusal does not apply. -/
theorem Error.guarded_eq_ok_iff {ε α β : Type} {p : Prop} [Decidable p] {e : ε}
    {after : β → Except ε α} {next : Except ε α} {a : α} :
    (if p then (throw e >>= after) else next) = .ok a ↔ ¬ p ∧ next = .ok a := by
  by_cases refused : p
  · simp [refused, throw, throwThe, MonadExceptOf.throw, bind, Except.bind]
  · simp [refused]

/-- A refusal that applies is the failure, and one that does not apply leaves what stands behind it. -/
theorem Error.guarded_eq_error_iff {ε α β : Type} {p : Prop} [Decidable p] {e fault : ε}
    {after : β → Except ε α} {next : Except ε α} :
    (if p then (throw e >>= after) else next) = .error fault ↔ p ∧ e = fault ∨ ¬ p ∧ next = .error fault := by
  by_cases refused : p
  · simp [refused, throw, throwThe, MonadExceptOf.throw, bind, Except.bind]
  · simp [refused]

/-- The same value, or failures of the same category and sub-code. -/
def Alike {α : Type} : Except Error α → Except Error α → Prop
  | .ok a, .ok b => a = b
  | .error e, .error fault => e.category = fault.category ∧ e.subcode = fault.subcode
  | _, _ => False

namespace Alike

variable {α : Type}

theorem refl (result : Except Error α) : Alike result result := by
  cases result with
  | ok a => rfl
  | error e => exact ⟨rfl, rfl⟩

theorem symm {first second : Except Error α} (alike : Alike first second) : Alike second first := by
  match first, second, alike with
  | .ok a, .ok b, same => exact Eq.symm same
  | .error e, .error fault, ⟨category, subcode⟩ => exact ⟨category.symm, subcode.symm⟩

theorem trans {first second third : Except Error α} (alike : Alike first second)
    (next : Alike second third) : Alike first third := by
  match first, second, third, alike, next with
  | .ok a, .ok b, .ok c, same, other => exact Eq.trans same other
  | .error e, .error fault, .error last, ⟨category, subcode⟩, ⟨nextCategory, nextSubcode⟩ =>
    exact ⟨category.trans nextCategory, subcode.trans nextSubcode⟩

end Alike

namespace Action

variable {σ τ α β : Type}

theorem bind_apply (act : Action σ α) (next : α → Action σ β) (s : σ) :
    (act >>= next) s = match act s with
      | .ok a t => next a t
      | .error e t => .error e t := by
  change EStateM.bind act next s = _
  unfold EStateM.bind
  cases act s <;> rfl

theorem bind_of_ok {act : Action σ α} {next : α → Action σ β} {s t : σ} {a : α}
    (first : act s = .ok a t) : (act >>= next) s = next a t := by
  rw [bind_apply, first]

theorem bind_of_error {act : Action σ α} {next : α → Action σ β} {s t : σ} {e : Error}
    (first : act s = .error e t) : (act >>= next) s = .error e t := by
  rw [bind_apply, first]

theorem get_bind_apply (next : σ → Action σ α) (s : σ) : (get >>= next : Action σ α) s = next s s :=
  rfl

/-- A sequence fails where its first part does, or where the second does after the first. -/
theorem bind_eq_error_iff {act : Action σ α} {next : α → Action σ β} {s t : σ} {e : Error} :
    (act >>= next) s = .error e t ↔
      act s = .error e t ∨ ∃ a u, act s = .ok a u ∧ next a u = .error e t := by
  rw [bind_apply]
  cases act s with
  | ok a u =>
    constructor
    · exact fun failed => .inr ⟨a, u, rfl, failed⟩
    · rintro (failed | ⟨b, v, same, failed⟩)
      · cases failed
      · cases same
        exact failed
  | error fault u => simp

/-- What stands behind a refusal is reached exactly if the refusal does not apply. -/
theorem guarded_eq_ok_iff {p : Prop} [Decidable p] {e : Error} {after : β → Action σ α}
    {next : Action σ α} {s t : σ} {a : α} :
    (if p then (throw e >>= after) else next) s = .ok a t ↔ ¬ p ∧ next s = .ok a t := by
  by_cases refused : p
  · rw [if_pos refused]
    constructor
    · exact nofun
    · exact fun passed => absurd refused passed.1
  · rw [if_neg refused]
    exact ⟨fun done => ⟨refused, done⟩, fun passed => passed.2⟩

theorem attempt_of_ok {act : Action σ α} {s t : σ} {a : α} (done : act s = .ok a t) :
    attempt act s = .ok (.ok a) t := by
  rw [attempt, done]

theorem attempt_of_error {act : Action σ α} {s t : σ} {e : Error} (failed : act s = .error e t) :
    attempt act s = .ok (.error e) t := by
  rw [attempt, failed]

/-- What an attempt gives is the outcome of the action, in the state that it left. -/
theorem attempt_apply (act : Action σ α) (s : σ) :
    attempt act s = .ok (act.outcome s).1 (act.outcome s).2 := by
  unfold attempt outcome
  cases act s <;> rfl

theorem outcome_of_ok {act : Action σ α} {s t : σ} {a : α} (done : act s = .ok a t) :
    act.outcome s = (.ok a, t) := by
  rw [outcome, done]

theorem outcome_of_error {act : Action σ α} {s t : σ} {e : Error} (failed : act s = .error e t) :
    act.outcome s = (.error e, t) := by
  rw [outcome, failed]

/-- What comes out well gives an answer. -/
theorem exists_of_isOk {act : Action σ α} {s : σ} (succeeds : (act.outcome s).1.isOk = true) :
    ∃ a after, act s = .ok a after := by
  cases run : act s with
  | ok a after => exact ⟨a, after, rfl⟩
  | error e after =>
    rw [outcome_of_error run] at succeeds
    cases succeeds

theorem outcome_ofOutcome (f : σ → Except Error α × σ) (s : σ) : (ofOutcome f).outcome s = f s := by
  rcases same : f s with ⟨result, t⟩
  cases result <;> simp [ofOutcome, outcome, same]

theorem outcome_bind_of_ok {act : Action σ α} {next : α → Action σ β} {s t : σ} {a : α}
    (first : act s = .ok a t) : (act >>= next).outcome s = (next a).outcome t := by
  unfold outcome
  rw [bind_of_ok first]

/-- What cannot fail at the end changes the answer alone. -/
theorem outcome_bind_pure (act : Action σ α) (f : α → β) (s : σ) :
    (act >>= fun a => pure (f a)).outcome s = ((act.outcome s).1.map f, (act.outcome s).2) := by
  cases run : act s with
  | ok a t =>
    rw [outcome_bind_of_ok run, outcome_of_ok run]
    rfl
  | error e t =>
    rw [outcome_of_error (bind_of_error run), outcome_of_error run]
    rfl

/-- What an action on a part leaves is put in the place of the part. -/
theorem outcome_zoom (get : σ → τ) (set : τ → σ → σ) (act : Action τ α) (s : σ) :
    (zoom get set act).outcome s =
      ((act.outcome (get s)).1, set (act.outcome (get s)).2 s) := by
  unfold outcome zoom
  cases act (get s) <;> rfl

theorem query_of_ok {f : σ → Except Error α} {s : σ} {a : α} (answer : f s = .ok a) :
    query f s = .ok a s := by
  rw [query, answer, ofExcept_ok]

theorem update_of_ok {f : σ → Except Error (α × σ)} {s t : σ} {a : α} (made : f s = .ok (a, t)) :
    update f s = .ok a t := by
  rw [update, made]

theorem update_of_error {f : σ → Except Error (α × σ)} {s : σ} {e : Error}
    (refused : f s = .error e) : update f s = .error e s := by
  rw [update, refused]

theorem eq_ok_of_ofExcept {r : Except Error α} {s t : σ} {a : α}
    (done : (ofExcept r : Action σ α) s = .ok a t) : r = .ok a ∧ t = s := by
  cases r with
  | ok b => cases done; exact ⟨rfl, rfl⟩
  | error e => cases done

theorem eq_error_of_ofExcept {r : Except Error α} {s t : σ} {e : Error}
    (failed : (ofExcept r : Action σ α) s = .error e t) : r = .error e ∧ t = s := by
  cases r with
  | ok a => cases failed
  | error fault => cases failed; exact ⟨rfl, rfl⟩

/-- What is read off a query can be read off its answer. -/
theorem query_map (f : σ → Except Error α) (g : α → β) :
    query (fun s => do return g (← f s)) = do return g (← query f) := by
  funext s
  rw [bind_apply]
  unfold query
  cases answer : f s with
  | ok a => simp [answer, bind, Except.bind, pure, Except.pure, EStateM.pure]
  | error e => simp [answer, bind, Except.bind]

/-- What is read off an action on a part can be read off its answer. -/
theorem zoom_map (get : σ → τ) (set : τ → σ → σ) (act : Action τ α) (f : α → β) :
    zoom get set (do return f (← act)) = do return f (← zoom get set act) := by
  funext s
  rw [bind_apply]
  unfold zoom
  rw [bind_apply]
  cases act (get s) <;> rfl

/-! ### Actions that only look -/

/-- The action leaves every state as it is, whatever it answers. -/
def Reads (act : Action σ α) : Prop :=
  ∀ s, ∃ answer, act s = ofExcept answer s

theorem reads_pure (a : α) : Reads (pure a : Action σ α) :=
  fun _ => ⟨.ok a, rfl⟩

theorem reads_throw (e : Error) : Reads (throw e : Action σ α) :=
  fun _ => ⟨.error e, rfl⟩

theorem reads_query (f : σ → Except Error α) : Reads (query f) :=
  fun s => ⟨f s, rfl⟩

theorem Reads.bind {act : Action σ α} {next : α → Action σ β} (first : Reads act)
    (second : ∀ a, Reads (next a)) : Reads (act >>= next) := by
  intro s
  obtain ⟨answer, run⟩ := first s
  cases answer with
  | ok a => rw [bind_of_ok run]; exact second a s
  | error e => exact ⟨.error e, bind_of_error run⟩

/-- A refusal in front of an action that only looks only looks. -/
theorem Reads.guarded {p : Prop} [Decidable p] {e : Error} {after : β → Action σ α}
    {next : Action σ α} (reads : Reads next) :
    Reads (if p then (throw e >>= after) else next) := by
  by_cases refused : p
  · rw [if_pos refused]
    exact fun s => ⟨.error e, rfl⟩
  · rw [if_neg refused]
    exact reads

theorem Reads.attempt {act : Action σ α} (reads : Reads act) : Reads (attempt act) := by
  intro s
  obtain ⟨answer, run⟩ := reads s
  refine ⟨.ok answer, ?_⟩
  cases answer with
  | ok a => exact attempt_of_ok run
  | error e => exact attempt_of_error run

/-- Reading a part of the state is reading the state, if putting the part back changes nothing. -/
theorem Reads.zoom {act : Action τ α} (reads : Reads act) {get : σ → τ} {set : τ → σ → σ}
    (same : ∀ s, set (get s) s = s) : Reads (zoom get set act) := by
  intro s
  obtain ⟨answer, run⟩ := reads (get s)
  refine ⟨answer, ?_⟩
  unfold Action.zoom
  rw [run]
  cases answer with
  | ok a => exact congrArg (EStateM.Result.ok a) (same s)
  | error e => exact congrArg (EStateM.Result.error e) (same s)

/-- A query of a part of the state is a query of the state. -/
theorem zoom_query {get : σ → τ} {set : τ → σ → σ} (same : ∀ s, set (get s) s = s)
    (f : τ → Except Error α) : zoom get set (query f) = query fun s => f (get s) := by
  funext s
  unfold Action.zoom Action.query
  cases answer : f (get s) with
  | ok a => simp [answer, same]
  | error e => simp [answer, same]

theorem Reads.state_eq {act : Action σ α} (reads : Reads act) (s : σ) : (act.outcome s).2 = s := by
  obtain ⟨answer, run⟩ := reads s
  cases answer with
  | ok a => rw [outcome_of_ok run]
  | error e => rw [outcome_of_error run]

theorem Reads.of_ok {act : Action σ α} (reads : Reads act) {s t : σ} {a : α}
    (done : act s = .ok a t) : t = s := by
  have same := reads.state_eq s
  rwa [outcome_of_ok done] at same

theorem Reads.of_error {act : Action σ α} (reads : Reads act) {s t : σ} {e : Error}
    (failed : act s = .error e t) : t = s := by
  have same := reads.state_eq s
  rwa [outcome_of_error failed] at same

/-- What only looks at the end leaves what was there before. -/
theorem state_bind_of_reads (act : Action σ α) {next : α → Action σ β} (looks : ∀ a, Reads (next a))
    (s : σ) : ((act >>= next).outcome s).2 = (act.outcome s).2 := by
  cases run : act s with
  | ok a t => rw [outcome_bind_of_ok run, (looks a).state_eq, outcome_of_ok run]
  | error e t => rw [outcome_of_error (bind_of_error run), outcome_of_error run]

/-! ### Actions that fail without a trace -/

/-- Where the action fails, it leaves the state as it was. -/
def FailsClean (act : Action σ α) : Prop :=
  ∀ s e t, act s = .error e t → t = s

theorem Reads.failsClean {act : Action σ α} (reads : Reads act) : FailsClean act :=
  fun _ _ _ failed => reads.of_error failed

theorem failsClean_update (f : σ → Except Error (α × σ)) : FailsClean (update f) :=
  fun _ _ _ failed => (update_eq_error failed).2

/-- Looking first and then failing clean is failing clean. -/
theorem Reads.bind_failsClean {act : Action σ α} {next : α → Action σ β} (first : Reads act)
    (second : ∀ a, FailsClean (next a)) : FailsClean (act >>= next) := by
  intro s e t failed
  rcases bind_eq_error_iff.1 failed with early | ⟨a, u, looked, late⟩
  · exact first.of_error early
  · obtain rfl := first.of_ok looked
    exact second a _ e t late

/-- A refusal in front of an action that fails clean fails clean. -/
theorem FailsClean.guarded {p : Prop} [Decidable p] {e : Error} {after : β → Action σ α}
    {next : Action σ α} (clean : FailsClean next) :
    FailsClean (if p then (throw e >>= after) else next) := by
  by_cases refused : p
  · rw [if_pos refused]
    intro s fault t failed
    cases failed
    rfl
  · rw [if_neg refused]
    exact clean

theorem FailsClean.zoom {act : Action τ α} (clean : FailsClean act) {get : σ → τ} {set : τ → σ → σ}
    (same : ∀ s, set (get s) s = s) : FailsClean (zoom get set act) := by
  intro s e t failed
  unfold Action.zoom at failed
  cases run : act (get s) with
  | ok a part => rw [run] at failed; cases failed
  | error fault part =>
    rw [run] at failed
    cases failed
    rw [clean _ _ _ run, same]

/-- Where the action fails, the states before and after are related. -/
def FailsWithin (R : σ → σ → Prop) (act : Action σ α) : Prop :=
  ∀ s e t, act s = .error e t → R s t

/-- What cannot fail after an action that fails within a relation changes nothing about that. -/
theorem FailsWithin.bind_pure {R : σ → σ → Prop} {act : Action σ α} (fails : FailsWithin R act)
    (f : α → β) : FailsWithin R (act >>= fun a => pure (f a)) := by
  intro s e t failed
  rcases bind_eq_error_iff.1 failed with early | ⟨a, u, done, late⟩
  · exact fails s e t early
  · cases late

theorem FailsClean.bind_pure {act : Action σ α} (clean : FailsClean act) (f : α → β) :
    FailsClean (act >>= fun a => pure (f a)) :=
  FailsWithin.bind_pure (R := fun s t => t = s) clean f

/-! ### What actions keep -/

/-- A relation between the states before and after, which doing nothing and doing one thing after
another respect. -/
class Frame (R : σ → σ → Prop) : Prop where
  refl (s : σ) : R s s
  trans {s t u : σ} : R s t → R t u → R s u

/-- However the action ends, the states before and after are related. -/
def Keeps (R : σ → σ → Prop) (act : Action σ α) : Prop :=
  ∀ s, R s (act.outcome s).2

section Keeps

variable {R : σ → σ → Prop}

theorem Keeps.of_ok {act : Action σ α} (keeps : Keeps R act) {s t : σ} {a : α}
    (done : act s = .ok a t) : R s t := by
  have kept := keeps s
  rwa [outcome_of_ok done] at kept

theorem Keeps.of_error {act : Action σ α} (keeps : Keeps R act) {s t : σ} {e : Error}
    (failed : act s = .error e t) : R s t := by
  have kept := keeps s
  rwa [outcome_of_error failed] at kept

theorem Keeps.attempt {act : Action σ α} (keeps : Keeps R act) : Keeps R (attempt act) := by
  intro s
  rw [outcome_of_ok (attempt_apply act s)]
  exact keeps s

variable [Frame R]

theorem Reads.keeps {act : Action σ α} (reads : Reads act) : Keeps R act := by
  intro s
  rw [reads.state_eq s]
  exact Frame.refl s

theorem Keeps.bind {act : Action σ α} {next : α → Action σ β} (first : Keeps R act)
    (second : ∀ a, Keeps R (next a)) : Keeps R (act >>= next) := by
  intro s
  cases run : act s with
  | ok a t =>
    have rest := second a t
    rw [outcome, bind_of_ok run]
    exact Frame.trans (first.of_ok run) rest
  | error e t =>
    rw [outcome_of_error (bind_of_error run)]
    exact first.of_error run

/-- What follows a result has only to be looked at where there is one. -/
theorem Keeps.bind_result {value : Except Error α} {next : α → Action σ β}
    (rest : ∀ a, value = .ok a → Keeps R (next a)) :
    Keeps R ((monadLift value : Action σ α) >>= next) := by
  intro s
  cases value with
  | ok a =>
    have run : ((monadLift (Except.ok a : Except Error α) : Action σ α) >>= next) s = next a s := rfl
    unfold outcome
    rw [run]
    exact rest a rfl s
  | error e => exact Frame.refl s

/-- A refusal in front of an action keeps what the action keeps. -/
theorem Keeps.guarded {p : Prop} [Decidable p] {e : Error} {after : β → Action σ α}
    {next : Action σ α} (keeps : Keeps R next) :
    Keeps R (if p then (throw e >>= after) else next) := by
  by_cases refused : p
  · rw [if_pos refused]
    have reads : Reads (throw e >>= after) := fun s => ⟨.error e, rfl⟩
    exact reads.keeps
  · rw [if_neg refused]
    exact keeps

end Keeps

end Action
end Stowage
