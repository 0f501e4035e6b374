import Stowage.Proofs.Mirrors
import Stowage.Proofs.Retries

/-! The two filters of excluded replicas. A librarian hides them where the catalog is asked, and the
resolution passes them over when it looks for candidates. Whether one, both, or a dozen librarians hide
them, the candidates are the same; where none is left the failures differ in their text alone. So a
stack gives the same answers whatever decorates its catalog, for one read and along a whole run of
retries. -/
namespace Stowage

namespace Exclusions

theorem hide_hide (x : Exclusions) (rows : List Replica) : x.hide (x.hide rows) = x.hide rows := by
  unfold hide
  rw [List.filter_filter]
  simp

/-- Decorators show all replicas or those that are not excluded. -/
theorem through_eq_or (x : Exclusions) (outer : List Decorator) (rows : List Replica) :
    x.through outer rows = rows ∨ x.through outer rows = x.hide rows := by
  unfold through
  induction outer with
  | nil => exact .inl rfl
  | cons d rest ih =>
    rw [List.foldr_cons]
    split
    · rcases ih with same | hidden
      · exact .inr (congrArg x.hide same)
      · exact .inr ((congrArg x.hide hidden).trans (x.hide_hide rows))
    · exact ih

theorem isEmpty_of_hidden {x : Exclusions} {rows : List Replica} (some_ : rows ≠ [])
    (hidden : x.hide rows = []) : x.isEmpty = false := by
  obtain ⟨row, rest, rfl⟩ := List.exists_cons_of_ne_nil some_
  cases excluded : x.contains row.id with
  | true => exact isEmpty_of_contains excluded
  | false =>
    have shown : row ∈ x.hide (row :: rest) := mem_hide.2 ⟨List.mem_cons_self, excluded⟩
    rw [hidden] at shown
    cases shown

end Exclusions

namespace Site

/-- Decorators leave their part of the replicas that the innermost node has. -/
theorem outcome_replicas (excluded : Exclusions) (outer : List Decorator) (base : CatalogNode)
    (path : String) (b : Browsing Site) :
    (catalogHandler excluded ⟨outer, base⟩ (.replicas path)).outcome b =
      (((catalogNodeHandler base (.replicas path)).outcome b).1.map (excluded.through outer),
        ((catalogNodeHandler base (.replicas path)).outcome b).2) := by
  induction outer with
  | nil =>
    rcases result : (catalogNodeHandler base (.replicas path)).outcome b with ⟨answer, after⟩
    cases answer <;> exact result
  | cons d rest ih =>
    by_cases hides : d = .librarian true
    · subst hides
      refine (Action.outcome_bind_pure (catalogHandler excluded ⟨rest, base⟩ (.replicas path))
        excluded.hide b).trans ?_
      rw [ih]
      cases ((catalogNodeHandler base (.replicas path)).outcome b).1 <;> rfl
    · rw [catalogHandler_replicas_of_shown hides, ih]
      have left : excluded.through (d :: rest) = excluded.through rest := by
        funext all
        unfold Exclusions.through
        rw [List.foldr_cons]
        split
        · exact absurd rfl hides
        · rfl
      rw [left]

end Site

namespace OnSite

/-- The stack with other decorators on its catalog. -/
def redecorated (decorators : List Decorator) (s : OnSite) : OnSite :=
  { s with stack := { s.stack with
    catalog := s.stack.catalog.map fun chain => { chain with decorators } } }

end OnSite

namespace StackM

open OnSite

variable {s : OnSite} {outer : List Decorator} {base : CatalogNode}

theorem catalog_redecorated (decorators : List Decorator)
    (wired : s.stack.catalog = some ⟨outer, base⟩) :
    (redecorated decorators s).stack.catalog = some ⟨decorators, base⟩ := by
  simp [redecorated, wired]

/-- What all decorators pass on does not depend on them. -/
theorem mirrors_catalog_passed (decorators : List Decorator) {r : CatalogRequest}
    (passed : r.passed = true) :
    Action.Mirrors (redecorated decorators) (catalog r) (catalog r) := by
  intro s
  cases wired : s.stack.catalog with
  | none =>
    have unwired : (redecorated decorators s).stack.catalog = none := by simp [redecorated, wired]
    rw [Action.outcome_of_error (catalog_of_unwired wired r),
      Action.outcome_of_error (catalog_of_unwired unwired r)]
  | some chain =>
    rw [outcome_catalog wired, outcome_catalog (catalog_redecorated decorators wired),
      Site.catalogHandler_passed passed, Site.catalogHandler_passed passed]
    rfl

/-- The replicas that a stack shows are those of the innermost node of its catalog, as the decorators
leave them. -/
theorem catalog_replicas (wired : s.stack.catalog = some ⟨outer, base⟩) (path : String) :
    catalog (.replicas path) s = Action.ofExcept
      (((Site.catalogNodeHandler base (.replicas path)).outcome ⟨base.session, s.site⟩).1.map
        (s.stack.excluded.through outer)) s := by
  have reads : Action.Reads (catalog (.replicas path)) := reads_catalog rfl
  obtain ⟨answer, run⟩ := reads s
  have outcome := outcome_catalog wired (.replicas path)
  rw [Site.outcome_replicas] at outcome
  rw [run]
  congr 1
  have same : answer = ((catalog (.replicas path)).outcome s).1 := by
    unfold Action.outcome
    rw [run]
    cases answer <;> rfl
  rw [same, outcome]

end StackM

namespace Resolution

open OnSite

/-- The resolution sees of the decorators of a catalog only what they leave of the replicas. -/
theorem overlooks_redecorated (decorators : List Decorator) : Overlooks (redecorated decorators) where
  excluded _ := rfl
  wired s := by
    unfold redecorated
    cases s.stack.catalog <;> rfl
  directory := StackM.mirrors_catalog_passed decorators rfl
  pools r := by
    have kept : ∀ s : OnSite, (redecorated decorators s).stack.pools = s.stack.pools.map id :=
      fun s => by simp [redecorated]
    refine StackM.mirrors_need_bind kept fun chain => ?_
    exact StackM.mirrors_onSite _ (fun _ => rfl) fun _ _ => rfl
  driver type := StackM.mirrors_driver type (fun _ => rfl) (fun _ => rfl) fun _ _ _ => rfl
  asks node r := StackM.mirrors_onSite _ (fun _ => rfl) fun _ _ => rfl
  turns free := fun _ => rfl

/-- What is excluded is no candidate, hidden or not. -/
theorem readCandidates_hide (rows : List Replica) (s : OnSite) :
    readCandidates (s.stack.excluded.hide rows) s = readCandidates rows s := by
  induction rows generalizing s with
  | nil => rfl
  | cons row rest ih =>
    cases excluded : s.stack.excluded.contains row.id with
    | true =>
      have hidden : s.stack.excluded.hide (row :: rest) = s.stack.excluded.hide rest := by
        simp [Exclusions.hide, excluded]
      have passed : ¬ Offered s row := fun offered => by simp [Offered, excluded] at offered
      rw [hidden, ih, readCandidates_passed rest passed]
    | false =>
      have shown : s.stack.excluded.hide (row :: rest) = row :: s.stack.excluded.hide rest := by
        simp [Exclusions.hide, excluded]
      rw [shown]
      by_cases offered : Offered s row
      · rw [readCandidates_offered _ offered, readCandidates_offered _ offered]
        cases tried : readCandidate row s with
        | error e u => rw [Action.bind_of_error tried, Action.bind_of_error tried]
        | ok candidate u =>
          -- Looking for a candidate excludes nothing, so the rest is filtered as before.
          have same := ((keeps_readCandidate StackM.keeps_driver row).of_ok tried).excluded
          rw [Action.bind_of_ok tried, Action.bind_of_ok tried, Action.bind_apply,
            Action.bind_apply, ← same, ih]
      · rw [readCandidates_passed _ offered, readCandidates_passed _ offered, ih]

/-- What follows once the catalog has shown some replicas, or none. -/
def settle (path : String) (rows : List Replica) : StackM Location := do
  if rows = [] then
    let s ← get
    throw (if s.stack.excluded.isEmpty then .noSuchReplica (path ++ " has no replicas")
      else .noReplicaAvailable ("every replica of " ++ path ++ " has been excluded"))
  else readAmong path rows

theorem whereToRead_eq (path : String) :
    whereToRead path =
      absolute path >>= fun target => StackM.catalog (.replicas target) >>= settle target := by
  unfold whereToRead
  refine bind_congr fun target => bind_congr fun rows => ?_
  cases rows with
  | cons row rest => rfl
  | nil =>
    funext s
    change (if s.stack.excluded.isEmpty = true then (_ : StackM Location) else _) s =
      (throw (if s.stack.excluded.isEmpty = true then _ else _) : StackM Location) s
    cases s.stack.excluded.isEmpty <;> rfl

theorem Overlooks.settle {view : OnSite → OnSite} (overlooks : Overlooks view) (path : String)
    (rows : List Replica) : Action.Mirrors view (settle path rows) (settle path rows) := by
  refine .ite (Action.mirrors_get_bind fun s => ?_) (overlooks.readAmong path rows)
  rw [overlooks.excluded]
  exact Action.mirrors_throw _

/-- Where there is nothing to choose from, no turn is taken. -/
theorem select_nil (s : OnSite) : select [] s = .ok none s := by
  unfold select
  rw [Placement.select_nil]

theorem readAmong_of_none {path : String} {rows : List Replica} {s : OnSite}
    (none_ : readCandidates rows s = .ok [] s) :
    readAmong path rows s =
      .error (.noReplicaAvailable ("no replica of " ++ path ++ " is available")) s := by
  refine (Action.bind_of_ok none_).trans ?_
  exact (Action.bind_of_ok (select_nil s)).trans rfl

/-- Without the excluded replicas the end is the same, but for the text of a failure. -/
theorem settle_hide (path : String) (rows : List Replica) (s : OnSite) :
    Alike ((settle path (s.stack.excluded.hide rows)).outcome s).1 ((settle path rows).outcome s).1 ∧
      ((settle path (s.stack.excluded.hide rows)).outcome s).2 = ((settle path rows).outcome s).2 := by
  by_cases none_ : rows = []
  · subst none_
    exact ⟨.refl _, rfl⟩
  by_cases hidden : s.stack.excluded.hide rows = []
  · -- The catalog says that all are excluded, the resolution that none can be read.
    have candidates : readCandidates rows s = .ok [] s := by
      rw [← readCandidates_hide, hidden]
      rfl
    have excluding : settle path [] s = .error
        (.noReplicaAvailable ("every replica of " ++ path ++ " has been excluded")) s := by
      change EStateM.Result.error (if s.stack.excluded.isEmpty then _ else _) s = _
      rw [Exclusions.isEmpty_of_hidden none_ hidden]
      rfl
    have missing : settle path rows s =
        .error (.noReplicaAvailable ("no replica of " ++ path ++ " is available")) s := by
      unfold settle
      rw [if_neg none_, readAmong_of_none candidates]
    rw [hidden, Action.outcome_of_error excluding, Action.outcome_of_error missing]
    exact ⟨⟨rfl, rfl⟩, rfl⟩
  · have same : readAmong path (s.stack.excluded.hide rows) s = readAmong path rows s := by
      unfold readAmong
      rw [Action.bind_apply, Action.bind_apply, readCandidates_hide]
    unfold settle Action.outcome
    rw [if_neg none_, if_neg hidden, same]
    exact ⟨.refl _, rfl⟩

/-- What decorators leave of the replicas settles the read as all of them do. -/
theorem settle_through (path : String) (rows : List Replica) (outer : List Decorator) (s : OnSite) :
    Alike ((settle path (s.stack.excluded.through outer rows)).outcome s).1
        ((settle path rows).outcome s).1 ∧
      ((settle path (s.stack.excluded.through outer rows)).outcome s).2 =
        ((settle path rows).outcome s).2 := by
  rcases s.stack.excluded.through_eq_or outer rows with same | hidden
  · rw [same]
    exact ⟨.refl _, rfl⟩
  · rw [hidden]
    exact settle_hide path rows s

/-- From a state and from its view the action ends alike, and leaves the view of what it leaves. -/
structure Echoes {α : Type} (view : OnSite → OnSite) (act : StackM α) (s : OnSite) : Prop where
  result : Alike (act.outcome s).1 (act.outcome (view s)).1
  state : (act.outcome (view s)).2 = view (act.outcome s).2

section Echoes

variable {α β : Type} {view : OnSite → OnSite} {act : StackM α} {next : α → StackM β} {s : OnSite}

theorem Echoes.bind (mirrors : Action.Mirrors view act act)
    (rest : ∀ a t, act s = .ok a t → Echoes view (next a) t) : Echoes view (act >>= next) s := by
  cases run : act s with
  | ok a t =>
    obtain ⟨alike, left⟩ := rest a t run
    refine ⟨?_, ?_⟩ <;>
      rw [Action.outcome_bind_of_ok run, Action.outcome_bind_of_ok (mirrors.of_ok run)]
    · exact alike
    · exact left
  | error e t =>
    refine ⟨?_, ?_⟩ <;>
      rw [Action.outcome_of_error (Action.bind_of_error run),
        Action.outcome_of_error (Action.bind_of_error (mirrors.of_error run))]
    exact .refl _

theorem Echoes.of_ok (echoes : Echoes view act s) {t : OnSite} {a : α} (done : act s = .ok a t) :
    act (view s) = .ok a (view t) := by
  obtain ⟨alike, left⟩ := echoes
  rw [Action.outcome_of_ok done] at alike left
  cases run : act (view s) with
  | ok b u =>
    rw [Action.outcome_of_ok run] at alike left
    cases alike
    cases left
    rfl
  | error e u =>
    rw [Action.outcome_of_error run] at alike
    cases alike

theorem Echoes.of_error (echoes : Echoes view act s) {t : OnSite} {e : Error}
    (failed : act s = .error e t) :
    ∃ fault, act (view s) = .error fault (view t) ∧ e.category = fault.category ∧
      e.subcode = fault.subcode := by
  obtain ⟨alike, left⟩ := echoes
  rw [Action.outcome_of_error failed] at alike left
  cases run : act (view s) with
  | ok b u =>
    rw [Action.outcome_of_ok run] at alike
    cases alike
  | error fault u =>
    rw [Action.outcome_of_error run] at alike left
    cases left
    exact ⟨fault, rfl, alike⟩

end Echoes

/-- However the catalog of a stack is decorated, it finds the same location to read from, or fails for
the same reason. -/
theorem echoes_whereToRead (decorators : List Decorator) (path : String) (s : OnSite) :
    Echoes (redecorated decorators) (whereToRead path) s := by
  have overlooks := overlooks_redecorated decorators
  rw [whereToRead_eq]
  refine .bind (overlooks.absolute path) fun target s _ => ?_
  cases wired : s.stack.catalog with
  | none =>
    have unwired : (redecorated decorators s).stack.catalog = none := by simp [redecorated, wired]
    have failed : (StackM.catalog (.replicas target) >>= settle target) s =
        .error (.noFactory .catalog) s :=
      Action.bind_of_error (StackM.catalog_of_unwired wired _)
    have failedAlso : (StackM.catalog (.replicas target) >>= settle target)
        (redecorated decorators s) = .error (.noFactory .catalog) (redecorated decorators s) :=
      Action.bind_of_error (StackM.catalog_of_unwired unwired _)
    refine ⟨?_, ?_⟩ <;> rw [Action.outcome_of_error failed, Action.outcome_of_error failedAlso]
    exact .refl _
  | some chain =>
    obtain ⟨outer, base⟩ := chain
    have shown := StackM.catalog_replicas wired target
    have shownAlso : StackM.catalog (.replicas target) (redecorated decorators s) = Action.ofExcept
        (((Site.catalogNodeHandler base (.replicas target)).outcome ⟨base.session, s.site⟩).1.map
          (s.stack.excluded.through decorators)) (redecorated decorators s) :=
      StackM.catalog_replicas (StackM.catalog_redecorated decorators wired) target
    cases answer : ((Site.catalogNodeHandler base (.replicas target)).outcome
        ⟨base.session, s.site⟩).1 with
    | error e =>
      rw [answer] at shown shownAlso
      refine ⟨?_, ?_⟩ <;>
        rw [Action.outcome_of_error (Action.bind_of_error shown),
          Action.outcome_of_error (Action.bind_of_error shownAlso)]
      exact .refl _
    | ok all =>
      rw [answer] at shown shownAlso
      obtain ⟨alike, left⟩ := settle_through target all outer s
      obtain ⟨alikeAlso, leftAlso⟩ := settle_through target all decorators s
      have mirrored := overlooks.settle target (s.stack.excluded.through decorators all) s
      refine ⟨?_, ?_⟩ <;>
        rw [Action.outcome_bind_of_ok shown, Action.outcome_bind_of_ok shownAlso, mirrored]
      · exact alike.trans alikeAlso.symm
      · exact congrArg (redecorated decorators) (leftAlso.trans left.symm)

section Retries

variable {α τ : Type} {attempt : Location → τ → Except Error α × τ} {path : String}

/-- The attempt, noting the replicas that it tries. -/
def noting (attempt : Location → τ → Except Error α × τ) :
    Location → List (Option Int) × τ → Except Error α × (List (Option Int) × τ) :=
  fun location (tried, t) =>
    ((attempt location t).1, (tried ++ [location.replicaId?], (attempt location t).2))

/-- Noting what is tried changes nothing else. -/
theorem readRounds_of_noting {rounds : Nat} {tried all : List (Option Int)} {t last : τ}
    {s after : OnSite} {result : Except Error α}
    (noted : readRounds path (noting attempt) rounds (tried, t) s = .ok (result, all, last) after) :
    readRounds path attempt rounds t s = .ok (result, last) after := by
  induction rounds generalizing tried t s with
  | zero =>
    cases noted
    rfl
  | succ rounds ih =>
    cases found : whereToRead path s with
    | error e u =>
      rw [readRounds_refused found] at noted
      cases noted
      exact readRounds_refused found
    | ok location u =>
      rcases outcome : attempt location t with ⟨e | a, next⟩
      · have notes : noting attempt location (tried, t) =
            (.error e, tried ++ [location.replicaId?], next) := by simp [noting, outcome]
        cases known : location.replicaId? with
        | none =>
          rw [readRounds_lost found notes known] at noted
          cases noted
          exact readRounds_lost found outcome known
        | some id =>
          rw [readRounds_again found notes known] at noted
          rw [readRounds_again found outcome known]
          exact ih noted
      · have notes : noting attempt location (tried, t) =
            (.ok a, tried ++ [location.replicaId?], next) := by simp [noting, outcome]
        rw [readRounds_used found notes] at noted
        cases noted
        exact readRounds_used found outcome

/-- A stack with other decorators tries the same locations, and ends alike. -/
theorem echoes_readRounds (decorators : List Decorator) (path : String)
    (attempt : Location → τ → Except Error α × τ) (rounds : Nat) (t : τ) (s : OnSite) :
    ∃ result resultAlso last after,
      readRounds path attempt rounds t s = .ok (result, last) after ∧
      readRounds path attempt rounds t (redecorated decorators s) =
        .ok (resultAlso, last) (redecorated decorators after) ∧ Alike result resultAlso := by
  induction rounds generalizing t s with
  | zero => exact ⟨_, _, t, s, rfl, rfl, .refl _⟩
  | succ rounds ih =>
    have echoes := echoes_whereToRead decorators path s
    cases found : whereToRead path s with
    | error e u =>
      obtain ⟨fault, foundAlso, alike⟩ := echoes.of_error found
      exact ⟨_, _, t, u, readRounds_refused found, readRounds_refused foundAlso, alike⟩
    | ok location u =>
      have foundAlso := echoes.of_ok found
      rcases tried : attempt location t with ⟨e | a, next⟩
      · cases known : location.replicaId? with
        | none =>
          exact ⟨_, _, next, u, readRounds_lost found tried known,
            readRounds_lost foundAlso tried known, .refl _⟩
        | some id =>
          rw [readRounds_again found tried known, readRounds_again foundAlso tried known]
          exact ih next (u.excluding id)
      · exact ⟨_, _, next, u, readRounds_used found tried, readRounds_used foundAlso tried,
          .refl _⟩

/-- At the beginning of an operation nothing is hidden, so decorators do not matter to the replicas
that the stack shows. -/
theorem replicas_begun (decorators : List Decorator) (target : String) (s : OnSite) :
    ∃ answer : Except Error (List Replica),
      StackM.catalog (.replicas target) s.begun = Action.ofExcept answer s.begun ∧
      StackM.catalog (.replicas target) (redecorated decorators s.begun) =
        Action.ofExcept answer (redecorated decorators s.begun) := by
  cases wired : s.begun.stack.catalog with
  | none =>
    have unwired : (redecorated decorators s.begun).stack.catalog = none := by
      simp [redecorated, wired]
    exact ⟨.error _, StackM.catalog_of_unwired wired _, StackM.catalog_of_unwired unwired _⟩
  | some chain =>
    obtain ⟨outer, base⟩ := chain
    have all : ∀ given, s.begun.stack.excluded.through given = (id : List Replica → List Replica) :=
      fun given => funext (Exclusions.through_none given)
    have shown := StackM.catalog_replicas wired target
    have shownAlso := StackM.catalog_replicas (StackM.catalog_redecorated decorators wired) target
    rw [all] at shown
    exact ⟨_, shown, shownAlso.trans (by rw [(overlooks_redecorated decorators).excluded, all]; rfl)⟩

theorem replicaCount_begun (decorators : List Decorator) (path : String) (s : OnSite) :
    ∃ count, replicaCount path s.begun = .ok count s.begun ∧
      replicaCount path (redecorated decorators s.begun) =
        .ok count (redecorated decorators s.begun) := by
  have absolute_ := (overlooks_redecorated decorators).absolute path
  cases seen : absolute path s.begun with
  | error e u =>
    obtain rfl := (reads_absolute path).of_error seen
    exact ⟨0, Action.bind_of_ok (Action.attempt_of_error (Action.bind_of_error seen)),
      Action.bind_of_ok (Action.attempt_of_error (Action.bind_of_error (absolute_.of_error seen)))⟩
  | ok target u =>
    obtain rfl := (reads_absolute path).of_ok seen
    have seenAlso := absolute_.of_ok seen
    obtain ⟨answer, shown, shownAlso⟩ := replicas_begun decorators target s
    cases answer with
    | error e =>
      exact ⟨0, Action.bind_of_ok (Action.attempt_of_error ((Action.bind_of_ok seen).trans shown)),
        Action.bind_of_ok (Action.attempt_of_error ((Action.bind_of_ok seenAlso).trans shownAlso))⟩
    | ok rows =>
      exact ⟨rows.length,
        Action.bind_of_ok (Action.attempt_of_ok ((Action.bind_of_ok seen).trans shown)),
        Action.bind_of_ok (Action.attempt_of_ok ((Action.bind_of_ok seenAlso).trans shownAlso))⟩

theorem readWithRetries_of_noting {t last : τ} {all : List (Option Int)} {s after : OnSite}
    {result : Except Error α}
    (noted : readWithRetries path (noting attempt) ([], t) s = .ok (result, all, last) after) :
    readWithRetries path attempt t s = .ok (result, last) after := by
  obtain ⟨⟨⟩, begun, cleared, counting⟩ := Action.bind_eq_ok_iff.1 noted
  obtain ⟨count, u, counted, rounds⟩ := Action.bind_eq_ok_iff.1 counting
  exact (Action.bind_of_ok cleared).trans ((Action.bind_of_ok counted).trans
    (readRounds_of_noting rounds))

theorem echoes_readWithRetries (decorators : List Decorator) (path : String)
    (attempt : Location → τ → Except Error α × τ) (t : τ) (s : OnSite) :
    ∃ result resultAlso last after,
      readWithRetries path attempt t s = .ok (result, last) after ∧
      readWithRetries path attempt t (redecorated decorators s) =
        .ok (resultAlso, last) (redecorated decorators after) ∧ Alike result resultAlso := by
  obtain ⟨count, counted, countedAlso⟩ := replicaCount_begun decorators path s
  obtain ⟨result, resultAlso, last, after, run, runAlso, alike⟩ :=
    echoes_readRounds decorators path attempt (count + 1) t s.begun
  have cleared : ∀ s : OnSite, StackM.onStack (modify Stack.beginOperation) s = .ok () s.begun :=
    fun _ => rfl
  refine ⟨result, resultAlso, last, after, ?_, ?_, alike⟩
  · exact (Action.bind_of_ok (cleared s)).trans ((Action.bind_of_ok counted).trans run)
  · exact (Action.bind_of_ok (cleared _)).trans ((Action.bind_of_ok countedAlso).trans runAlso)

/-- However the catalog of a stack is decorated, a read finds the same location or fails for the same
reason, and reading with retries tries the same replicas in the same order, ends with the same value or
for the same reason, and leaves the same replicas excluded. -/
theorem reading_ignores_decorators (decorators : List Decorator) (path : String)
    (attempt : Location → τ → Except Error α × τ) (t : τ) (s : OnSite) :
    (Alike ((whereToRead path).outcome s).1
        ((whereToRead path).outcome (redecorated decorators s)).1 ∧
      ((whereToRead path).outcome (redecorated decorators s)).2 =
        redecorated decorators ((whereToRead path).outcome s).2) ∧
    ∃ result resultAlso tried last after afterAlso,
      readWithRetries path (noting attempt) ([], t) s = .ok (result, tried, last) after ∧
      readWithRetries path (noting attempt) ([], t) (redecorated decorators s) =
        .ok (resultAlso, tried, last) afterAlso ∧
      readWithRetries path attempt t s = .ok (result, last) after ∧
      readWithRetries path attempt t (redecorated decorators s) = .ok (resultAlso, last) afterAlso ∧
      Alike result resultAlso ∧
      afterAlso.stack.excluded = after.stack.excluded ∧
      afterAlso = redecorated decorators after := by
  have echoes := echoes_whereToRead decorators path s
  obtain ⟨result, resultAlso, ⟨tried, last⟩, after, run, runAlso, alike⟩ :=
    echoes_readWithRetries decorators path (noting attempt) ([], t) s
  exact ⟨⟨echoes.result, echoes.state⟩, result, resultAlso, tried, last, after, _, run, runAlso,
    readWithRetries_of_noting run, readWithRetries_of_noting runAlso, alike, rfl, rfl⟩

end Retries

end Resolution
end Stowage
