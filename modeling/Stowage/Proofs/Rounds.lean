import Stowage.Proofs.ProfiledSettings

/-! Rounds of an option. An option goes from one factory to the next, in the order in which these were
first accepted, up to the first that refuses its value. Whoever it reaches is asked once, and is another
factory afterwards only if it takes the value; what comes of the option follows from who took it and from
whether somebody refused. -/
namespace Stowage

/-- The factory knows the option, and does not take the value. -/
def Factory.Refuses (key value : String) (factory : Factory) : Prop :=
  ∃ e, factory.configure key value = .error e ∧ e.kind ≠ .unknownOption

namespace Manager

/-- How a round of an option goes. -/
structure Course where
  /-- Those that are asked, in order. -/
  asked : List FactoryId
  /-- Those of them that take the value. -/
  takers : List FactoryId
  /-- The refusal that ends the round, if there is one. -/
  refusal : Option Error
  /-- The factories as they are afterwards. -/
  left : List (FactoryId × Factory)

/-- The course that a round of an option takes among factories. -/
inductive Round (isFor : Factory → Bool) (key value : String) :
    List (FactoryId × Factory) → Course → Prop where
  | ended : Round isFor key value [] ⟨[], [], none, []⟩
  /-- The option is not for the factory. -/
  | passed {id : FactoryId} {factory : Factory} {rest : List (FactoryId × Factory)} {course : Course}
      (other : isFor factory = false) (round : Round isFor key value rest course) :
      Round isFor key value ((id, factory) :: rest)
        { course with left := (id, factory) :: course.left }
  | taken {id : FactoryId} {factory changed : Factory} {rest : List (FactoryId × Factory)}
      {course : Course} (own : isFor factory = true)
      (takes : factory.configure key value = .ok changed)
      (round : Round isFor key value rest course) :
      Round isFor key value ((id, factory) :: rest)
        { course with
          asked := id :: course.asked
          takers := id :: course.takers
          left := (id, changed) :: course.left }
  /-- The factory does not know the key. -/
  | unknown {id : FactoryId} {factory : Factory} {e : Error} {rest : List (FactoryId × Factory)}
      {course : Course} (own : isFor factory = true)
      (declines : factory.configure key value = .error e) (kind : e.kind = .unknownOption)
      (round : Round isFor key value rest course) :
      Round isFor key value ((id, factory) :: rest)
        { course with asked := id :: course.asked, left := (id, factory) :: course.left }
  | refused {id : FactoryId} {factory : Factory} {e : Error} {rest : List (FactoryId × Factory)}
      (own : isFor factory = true) (refuses : factory.configure key value = .error e)
      (kind : e.kind ≠ .unknownOption) :
      Round isFor key value ((id, factory) :: rest)
        ⟨[id], [], some (e.withContext ("plugin " ++ factory.plugin)), (id, factory) :: rest⟩

/-- What a manager answers after a round, and what it is then. -/
def conclude (key value : String) (unknown : Error) (course : Course) (m : Manager) :
    Except Error Unit × Manager :=
  match course.refusal with
  | some e => (.error e, { m with factories := course.left })
  | none =>
    if course.takers = [] then (.error unknown, { m with factories := course.left })
    else (.ok (), { m with factories := course.left, options := m.options.insert key value })

variable {isFor : Factory → Bool} {key value : String} {factories : List (FactoryId × Factory)}
  {course : Course}

/-- The option reaches a factory that takes it and is another one then. -/
def Alters (isFor : Factory → Bool) (key value : String) (factories : List (FactoryId × Factory)) :
    Prop :=
  ∃ front id factory back changed, factories = front ++ (id, factory) :: back ∧
    (∀ pair ∈ front, isFor pair.2 = true → ¬ pair.2.Refuses key value) ∧
    isFor factory = true ∧ factory.configure key value = .ok changed ∧ changed ≠ factory

theorem not_alters_nil : ¬ Alters isFor key value [] := by
  rintro ⟨front, id, factory, back, changed, missing, -⟩
  simp at missing

theorem alters_cons {id : FactoryId} {factory : Factory} {rest : List (FactoryId × Factory)} :
    Alters isFor key value ((id, factory) :: rest) ↔
      (isFor factory = true ∧ ∃ changed, factory.configure key value = .ok changed ∧ changed ≠ factory) ∨
      ((isFor factory = true → ¬ factory.Refuses key value) ∧ Alters isFor key value rest) := by
  constructor
  · rintro ⟨front, n, other, back, changed, all, spared, own, takes, differs⟩
    cases front with
    | nil =>
      cases all
      exact .inl ⟨own, changed, takes, differs⟩
    | cons pair front =>
      cases all
      obtain ⟨here, later⟩ := List.forall_mem_cons.1 spared
      exact .inr ⟨here, front, n, other, back, changed, rfl, later, own, takes, differs⟩
  · rintro (⟨own, changed, takes, differs⟩ |
      ⟨here, front, n, other, back, changed, rfl, later, own, takes, differs⟩)
    · exact ⟨[], id, factory, rest, changed, rfl, nofun, own, takes, differs⟩
    · exact ⟨(id, factory) :: front, n, other, back, changed, rfl,
        List.forall_mem_cons.2 ⟨here, later⟩, own, takes, differs⟩

/-- Every option has its round. -/
theorem exists_round (isFor : Factory → Bool) (key value : String)
    (factories : List (FactoryId × Factory)) : ∃ course, Round isFor key value factories course := by
  induction factories with
  | nil => exact ⟨_, .ended⟩
  | cons pair rest ih =>
    obtain ⟨id, factory⟩ := pair
    obtain ⟨course, round⟩ := ih
    cases own : isFor factory with
    | false => exact ⟨_, .passed own round⟩
    | true =>
      cases made : factory.configure key value with
      | ok changed => exact ⟨_, .taken own made round⟩
      | error e =>
        by_cases kind : e.kind = .unknownOption
        · exact ⟨_, .unknown own made kind round⟩
        · exact ⟨_, .refused own made kind⟩

namespace Round

/-- The manager offers an option in a round. -/
theorem offer_eq (round : Round isFor key value factories course) (before : Bool) :
    offer isFor key value before factories =
      (course.refusal.elim (.ok (before || !course.takers.isEmpty)) .error, course.left) := by
  induction round generalizing before with
  | ended => simp [offer]
  | passed other round ih => simp [offer_cons, other, ih]
  | taken own takes round ih => simp [offer_cons, own, takes, ih]
  | unknown own declines kind round ih => simp [offer_cons, own, declines, kind, ih]
  | refused own refuses kind => simp [offer_cons, own, refuses, kind]

theorem concludes {m : Manager} (round : Round isFor key value m.factories course) (unknown : Error) :
    (offerOption isFor key value unknown).outcome m = m.conclude key value unknown course := by
  rw [outcome_offerOption, round.offer_eq]
  unfold conclude
  obtain ⟨asked, takers, refusal, left⟩ := course
  cases refusal with
  | some e => rfl
  | none => cases takers <;> rfl

/-- Those that an option is for are asked in order, all of them if none refuses. -/
theorem asked_prefix (round : Round isFor key value factories course) :
    course.asked <+: (factories.filter fun pair => isFor pair.2).map Prod.fst ∧
      (course.refusal = none →
        course.asked = (factories.filter fun pair => isFor pair.2).map Prod.fst) := by
  induction round with
  | ended => simp
  | passed other round ih => simpa [other] using ih
  | taken own takes round ih => simpa [own] using ih
  | unknown own declines kind round ih => simpa [own] using ih
  | refused own refuses kind => simp [own]

/-- A round in which nobody takes the option changes no factory. -/
theorem left_of_untaken (round : Round isFor key value factories course)
    (untaken : course.takers = []) : course.left = factories := by
  induction round with
  | ended | refused => rfl
  | passed other round ih | unknown own declines kind round ih => simp [ih untaken]
  | taken own takes round ih => cases untaken

/-- Where nobody refuses, no refusal ends the round. -/
theorem refusal_of_unrefused (round : Round isFor key value factories course)
    (sound : ∀ pair ∈ factories, ¬ pair.2.Refuses key value) : course.refusal = none := by
  induction round with
  | ended => rfl
  | passed other round ih | taken own takes round ih | unknown own declines kind round ih =>
    exact ih (List.forall_mem_cons.1 sound).2
  | refused own refuses kind => exact absurd ⟨_, refuses, kind⟩ (List.forall_mem_cons.1 sound).1

theorem exists_taker (round : Round isFor key value factories course) (taken : course.takers ≠ []) :
    ∃ pair ∈ factories, ∃ changed, pair.2.configure key value = .ok changed := by
  induction round with
  | ended | refused => exact absurd rfl taken
  | taken own takes round ih => exact ⟨_, List.mem_cons_self, _, takes⟩
  | passed other round ih | unknown own declines kind round ih =>
    obtain ⟨pair, member, takes⟩ := ih taken
    exact ⟨pair, List.mem_cons_of_mem _ member, takes⟩

/-- The factories are others after a round exactly if the option altered one of them on its way. -/
theorem left_ne_iff (round : Round isFor key value factories course) :
    course.left ≠ factories ↔ Alters isFor key value factories := by
  induction round with
  | ended => simp [not_alters_nil]
  | passed other round ih => simp [alters_cons, other, ← ih]
  | taken own takes round ih =>
    simp [alters_cons, own, takes, Factory.Refuses, ← ih, or_iff_not_imp_left]
  | unknown own declines kind round ih =>
    simp [alters_cons, own, declines, kind, Factory.Refuses, ← ih]
  | refused own refuses kind => simp [alters_cons, own, refuses, kind, Factory.Refuses]

end Round

/-- An option that fails is not noted; it was refused, or nobody took it. -/
theorem conclude_eq_error {m n : Manager} {unknown e : Error}
    (failed : m.conclude key value unknown course = (.error e, n)) :
    n = { m with factories := course.left } ∧ (course.refusal = none → course.takers = []) := by
  unfold conclude at failed
  split at failed
  · rename_i refused
    cases failed
    exact ⟨rfl, fun spared => by cases refused.symm.trans spared⟩
  · split at failed
    · cases failed
      exact ⟨rfl, fun _ => ‹_›⟩
    · cases failed

end Manager
end Stowage
