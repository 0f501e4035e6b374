import Stowage.Proofs.Preparations

/-! One identity for all of a stack. Its seats are the places in it where an identity is kept: nodes
brought by plugins, the built-in catalog, the node of local files and the pool drivers. Telling a stack
an identity is telling its seats in order (`seats_tell`), so what a switch does is a fact about a list
that is told up to its first refusal. Once the stack runs under an identity, all seats hold it, through
refused switches and new drivers. Before that, a switch that is refused behind the first seat leaves
its mark on the seats in front, since there is no identity to go back to. -/
namespace Stowage

namespace Seat

def Accepts (ctx : SecurityContext) (seat : Seat) : Prop :=
  seat.adopt ctx = .ok ()

/-- The place with the identity in it. -/
def holding (ctx : SecurityContext) (seat : Seat) : Seat :=
  { seat with security := some ctx }

theorem tell_of_accepts {ctx : SecurityContext} {seat : Seat} (accepts : seat.Accepts ctx) :
    seat.tell ctx = (.ok (), seat.holding ctx) := by
  unfold tell
  rw [accepts]
  rfl

theorem tell_of_refuses {ctx : SecurityContext} {seat : Seat} (refuses : ¬ seat.Accepts ctx) :
    ∃ e, seat.tell ctx = (.error e, seat) := by
  unfold Accepts at refuses
  unfold tell
  cases adopted : seat.adopt ctx with
  | ok u => exact absurd adopted refuses
  | error e => exact ⟨e, rfl⟩

end Seat

/-! ### Lists that are told in order -/

/-- No place holds an identity. -/
def AllUntold (seats : List Seat) : Prop :=
  ∀ seat ∈ seats, seat.security = none

theorem tellAll_append {α : Type} (tell : α → Told α) (xs ys : List α) :
    tellAll tell (xs ++ ys) = match tellAll tell xs with
      | (.error e, xs) => (.error e, xs ++ ys)
      | (.ok (), xs) => (tellAll tell ys).map (xs ++ ·) := by
  induction xs with
  | nil => rfl
  | cons x xs ih =>
    rw [List.cons_append, tellAll, tellAll]
    match tell x with
    | (.error e, x) => rfl
    | (.ok (), x) =>
      simp only [ih]
      match tellAll tell xs with
      | (.error e, xs) => rfl
      | (.ok (), xs) => rfl

section Told

variable {ctx : SecurityContext} {seats : List Seat}

theorem tellAll_single (ctx : SecurityContext) (seat : Seat) :
    tellAll (Seat.tell ctx) [seat] = (seat.tell ctx).map fun seat => [seat] := by
  unfold tellAll
  match seat.tell ctx with
  | (.error e, seat) => rfl
  | (.ok (), seat) => rfl

theorem tellAll_of_accepted (accepted : ∀ seat ∈ seats, seat.Accepts ctx) :
    tellAll (Seat.tell ctx) seats = (.ok (), seats.map (Seat.holding ctx)) := by
  induction seats with
  | nil => rfl
  | cons seat rest ih =>
    obtain ⟨here, later⟩ := List.forall_mem_cons.1 accepted
    rw [tellAll, Seat.tell_of_accepts here, ih later]
    rfl

/-- A refused identity stays with the places in front of the first one that refuses it. -/
theorem tellAll_of_refused {front : List Seat} {seat : Seat} (back : List Seat)
    (accepted : ∀ seat ∈ front, seat.Accepts ctx) (refuses : ¬ seat.Accepts ctx) :
    ∃ e, tellAll (Seat.tell ctx) (front ++ seat :: back) =
      (.error e, front.map (Seat.holding ctx) ++ seat :: back) := by
  obtain ⟨e, refused⟩ := Seat.tell_of_refuses refuses
  refine ⟨e, ?_⟩
  rw [tellAll_append, tellAll_of_accepted accepted]
  simp only [tellAll, refused]
  rfl

/-- Either all places accept an identity or there is a first one that does not. -/
theorem accepted_or_refused (ctx : SecurityContext) (seats : List Seat) :
    (∀ seat ∈ seats, seat.Accepts ctx) ∨
      ∃ front seat back, seats = front ++ seat :: back ∧ (∀ seat ∈ front, seat.Accepts ctx) ∧
        ¬ seat.Accepts ctx := by
  induction seats with
  | nil => exact .inl nofun
  | cons seat rest ih =>
    by_cases here : seat.Accepts ctx
    · rcases ih with all | ⟨front, refuser, back, same, accepted, refuses⟩
      · exact .inl (List.forall_mem_cons.2 ⟨here, all⟩)
      · exact .inr ⟨seat :: front, refuser, back, by rw [same]; rfl,
          List.forall_mem_cons.2 ⟨here, accepted⟩, refuses⟩
    · exact .inr ⟨[], seat, rest, rfl, nofun, here⟩

/-- Being told an identity does not change what a place accepts. -/
theorem adopt_tellAll (ctx : SecurityContext) (seats : List Seat) :
    (tellAll (Seat.tell ctx) seats).2.map Seat.adopt = seats.map Seat.adopt := by
  rcases accepted_or_refused ctx seats with all | ⟨front, seat, back, rfl, accepted, refuses⟩
  · rw [tellAll_of_accepted all, List.map_map]
    rfl
  · obtain ⟨e, told⟩ := tellAll_of_refused back accepted refuses
    rw [told]
    simp only [List.map_append, List.map_map, List.map_cons]
    rfl

theorem accepts_tellAll_iff (other : SecurityContext) :
    (∀ seat ∈ (tellAll (Seat.tell ctx) seats).2, seat.Accepts other) ↔
      ∀ seat ∈ seats, seat.Accepts other := by
  have adopts (seats : List Seat) : (∀ seat ∈ seats, seat.Accepts other) ↔
      ∀ adopt ∈ seats.map Seat.adopt, adopt other = .ok () := by
    simp only [List.forall_mem_map]
    rfl
  rw [adopts, adopts, adopt_tellAll]

end Told

/-! ### The seats of a stack -/

/-- Telling the whole is telling its seats. -/
def Seated {α : Type} (seats : α → List Seat) (tell : SecurityContext → α → Told α) : Prop :=
  ∀ ctx a, tellAll (Seat.tell ctx) (seats a) = (tell ctx a).map seats

def Decorator.seats : Decorator → List Seat
  | .plain node => [node.toSeat]
  | .profiler _ | .librarian _ => []

def Chain.seats {τ : Type} (baseSeats : τ → List Seat) (chain : Chain τ) : List Seat :=
  chain.decorators.flatMap Decorator.seats ++ baseSeats chain.base

def TableNode.seats : TableNode → List Seat
  | .memory _ => []
  | .plain node => [node.toSeat]

/-- The built-in catalog is in front of its own chain. -/
def CatalogNode.seats : CatalogNode → List Seat
  | .builtIn below session =>
    { security := session.security } :: below.toList.flatMap (Chain.seats TableNode.seats)
  | .plain node => [node.toSeat]

def IoNode.seats : IoNode → List Seat
  | .localFiles node => [{ security := node.security }]
  | .plain node => [node.toSeat]

def DriverNode.seat : DriverNode → Seat
  | .disk driver => { security := driver.security }
  | .plain driver => driver.toSeat

theorem tellAll_plain {α : Type} (ctx : SecurityContext) (node : PlainNode) {wrap : PlainNode → α}
    {seats : α → List Seat} (same : ∀ node, seats (wrap node) = [node.toSeat]) :
    tellAll (Seat.tell ctx) (seats (wrap node)) = ((node.tell ctx).map wrap).map seats := by
  rw [same, tellAll_single]
  have after := same { node with toSeat := (node.toSeat.tell ctx).2 }
  exact congrArg (Prod.mk _) after.symm

theorem DriverNode.seat_tell (ctx : SecurityContext) (driver : DriverNode) :
    driver.seat.tell ctx = (driver.tell ctx).map DriverNode.seat := by
  cases driver with
  | disk driver => rfl
  | plain driver => rfl

theorem Decorator.seated : Seated Decorator.seats Decorator.tell := by
  intro ctx decorator
  cases decorator with
  | plain node => exact tellAll_plain ctx node fun _ => rfl
  | profiler slowMs => rfl
  | librarian attached => rfl

theorem TableNode.seated : Seated TableNode.seats TableNode.tell := by
  intro ctx node
  cases node with
  | memory factory => rfl
  | plain node => exact tellAll_plain ctx node fun _ => rfl

theorem IoNode.seated : Seated IoNode.seats IoNode.tell := by
  intro ctx node
  cases node with
  | localFiles node => rfl
  | plain node => exact tellAll_plain ctx node fun _ => rfl

/-- A list is told by telling the seats of all that is in it. -/
theorem Seated.list {α : Type} {seats : α → List Seat} {tell : SecurityContext → α → Told α}
    (seated : Seated seats tell) :
    Seated (fun xs : List α => xs.flatMap seats) fun ctx => tellAll (tell ctx) := by
  intro ctx xs
  induction xs with
  | nil => rfl
  | cons x xs ih =>
    simp only [List.flatMap_cons]
    rw [tellAll_append, seated, tellAll]
    match tell ctx x with
    | (.error e, x) => rfl
    | (.ok (), x) =>
      change (tellAll (Seat.tell ctx) (xs.flatMap seats)).map _ = _
      rw [ih]
      rfl

theorem Seated.chain {τ : Type} {seats : τ → List Seat} {tell : SecurityContext → τ → Told τ}
    (seated : Seated seats tell) : Seated (Chain.seats seats) (Chain.tell tell) := by
  intro ctx chain
  have decorators : tellAll (Seat.tell ctx) (chain.decorators.flatMap Decorator.seats) =
      (tellAll (Decorator.tell ctx) chain.decorators).map (·.flatMap Decorator.seats) :=
    Decorator.seated.list ctx chain.decorators
  unfold Chain.seats Chain.tell
  rw [tellAll_append, decorators]
  match tellAll (Decorator.tell ctx) chain.decorators with
  | (.error e, decorators) => rfl
  | (.ok (), decorators) =>
    change (tellAll (Seat.tell ctx) (seats chain.base)).map _ = _
    rw [seated]
    rfl

theorem CatalogNode.seated : Seated CatalogNode.seats CatalogNode.tell := by
  intro ctx node
  match node with
  | .builtIn none session => rfl
  | .builtIn (some chain) session =>
    have below : tellAll (Seat.tell ctx) ([chain].flatMap (Chain.seats TableNode.seats)) =
        (chain.tell TableNode.tell ctx).map fun chain => [chain].flatMap (Chain.seats TableNode.seats) := by
      simp only [List.flatMap_singleton]
      exact TableNode.seated.chain ctx chain
    change (tellAll (Seat.tell ctx) ([chain].flatMap (Chain.seats TableNode.seats))).map _ = _
    rw [below]
    rfl
  | .plain node => exact tellAll_plain ctx node fun _ => rfl

namespace Stack

/-- The seats of a chain, if there is one. -/
def chainSeats {τ : Type} (baseSeats : τ → List Seat) (chain : Option (Chain τ)) : List Seat :=
  chain.toList.flatMap (Chain.seats baseSeats)

/-- The seats of the drivers made so far. -/
def driverSeats (drivers : List (String × DriverNode)) : List Seat :=
  drivers.map fun (_, driver) => driver.seat

/-- All seats of a stack, in the order in which they are told an identity. -/
def seats (s : Stack) : List Seat :=
  chainSeats TableNode.seats s.accounts ++ (chainSeats TableNode.seats s.inode ++
    (chainSeats CatalogNode.seats s.catalog ++ (chainSeats TableNode.seats s.pools ++
      (chainSeats IoNode.seats s.io ++ driverSeats s.drivers))))

/-- The action tells one part of the seats and leaves the rest alone. -/
def Attends {ρ : Type} (ctx : SecurityContext) (rest : Stack → ρ) (part : Stack → List Seat)
    (act : Action Stack Unit) : Prop :=
  ∀ s, tellAll (Seat.tell ctx) (part s) = Told.map part (act.outcome s) ∧
    rest (act.outcome s).2 = rest s

section Attends

variable {ρ : Type} {ctx : SecurityContext} {rest : Stack → ρ} {part next : Stack → List Seat}

/-- Attending to one part and then to the next is attending to both. -/
theorem Attends.followed {first second : Action Stack Unit}
    (one : Attends ctx (fun s => (next s, rest s)) part first)
    (two : Attends ctx (fun s => (part s, rest s)) next second) :
    Attends ctx rest (fun s => part s ++ next s) (first >>= fun _ => second) := by
  intro s
  obtain ⟨told, left⟩ := one s
  obtain ⟨nextSame, restSame⟩ := Prod.mk.inj left
  cases run : first s with
  | error e t =>
    rw [Action.outcome_of_error run] at told nextSame restSame
    rw [Action.outcome_of_error (Action.bind_of_error run)]
    refine ⟨?_, restSame⟩
    rw [tellAll_append, told]
    exact congrArg (fun ys => (Except.error e, part t ++ ys)) nextSame.symm
  | ok u t =>
    rw [Action.outcome_of_ok run] at told nextSame restSame
    rw [Action.outcome_bind_of_ok run]
    obtain ⟨toldNext, leftNext⟩ := two t
    obtain ⟨partSame, restSameNext⟩ := Prod.mk.inj leftNext
    refine ⟨?_, restSameNext.trans restSame⟩
    rw [tellAll_append, told, ← nextSame]
    change (tellAll (Seat.tell ctx) (next t)).map (part t ++ ·) = _
    rw [toldNext, ← partSame]
    rfl

theorem attends_tellChain {τ : Type} {baseSeats : τ → List Seat}
    {tell : SecurityContext → τ → Told τ} (seated : Seated baseSeats tell)
    {get : Stack → Option (Chain τ)} {put : Chain τ → Stack → Stack}
    (held : ∀ chain s, get (put chain s) = some chain)
    (kept : ∀ chain s, rest (put chain s) = rest s) :
    Attends ctx rest (fun s => chainSeats baseSeats (get s)) (tellChain tell ctx get put) := by
  intro s
  unfold tellChain
  rw [Action.outcome_ofOutcome]
  cases found : get s with
  | none => simp [chainSeats, found, tellAll, Told.map]
  | some chain =>
    have told := seated.chain ctx chain
    refine ⟨?_, kept _ s⟩
    simp [chainSeats, found, told, held, Told.map]

theorem tellAll_driverSeats (ctx : SecurityContext) (drivers : List (String × DriverNode)) :
    tellAll (Seat.tell ctx) (driverSeats drivers) =
      (tellAll (fun (type, driver) => (DriverNode.tell ctx driver).map (type, ·)) drivers).map
        driverSeats := by
  have seated : Seated (fun pair : String × DriverNode => [pair.2.seat])
      fun ctx pair => (DriverNode.tell ctx pair.2).map (pair.1, ·) := by
    intro ctx pair
    rw [tellAll_single, DriverNode.seat_tell]
    rfl
  have told := seated.list ctx drivers
  simp only [← List.map_eq_flatMap] at told
  exact told

theorem attends_tellDrivers (kept : ∀ drivers s, rest { s with drivers } = rest s) :
    Attends ctx rest (fun s => driverSeats s.drivers) (tellDrivers ctx) := by
  intro s
  unfold tellDrivers
  rw [Action.outcome_ofOutcome]
  exact ⟨tellAll_driverSeats ctx s.drivers, kept _ s⟩

end Attends

/-- Telling a stack an identity is telling its seats, and nothing else. -/
theorem attends_tell (ctx : SecurityContext) : Attends ctx Stack.security seats (tell ctx) := by
  unfold seats tell
  exact .followed (attends_tellChain TableNode.seated (fun _ _ => rfl) fun _ _ => rfl) <|
    .followed (attends_tellChain TableNode.seated (fun _ _ => rfl) fun _ _ => rfl) <|
    .followed (attends_tellChain CatalogNode.seated (fun _ _ => rfl) fun _ _ => rfl) <|
    .followed (attends_tellChain TableNode.seated (fun _ _ => rfl) fun _ _ => rfl) <|
    .followed (attends_tellChain IoNode.seated (fun _ _ => rfl) fun _ _ => rfl) <|
    attends_tellDrivers fun _ _ => rfl

/-! ### Switches -/

section Switch

variable {ctx : SecurityContext} {s : Stack}

theorem tell_of_accepted (accepted : ∀ seat ∈ s.seats, seat.Accepts ctx) :
    ∃ t, tell ctx s = .ok () t ∧ t.security = s.security ∧
      t.seats = s.seats.map (Seat.holding ctx) := by
  obtain ⟨told, same⟩ := attends_tell ctx s
  rw [tellAll_of_accepted accepted] at told
  cases run : tell ctx s with
  | ok u t =>
    rw [Action.outcome_of_ok run] at told same
    exact ⟨t, rfl, same, (Prod.mk.inj told).2.symm⟩
  | error e t =>
    rw [Action.outcome_of_error run] at told
    cases (Prod.mk.inj told).1

theorem tell_of_refused {front back : List Seat} {seat : Seat}
    (split : s.seats = front ++ seat :: back) (accepted : ∀ seat ∈ front, seat.Accepts ctx)
    (refuses : ¬ seat.Accepts ctx) :
    ∃ e t, tell ctx s = .error e t ∧ t.security = s.security ∧
      t.seats = front.map (Seat.holding ctx) ++ seat :: back := by
  obtain ⟨told, same⟩ := attends_tell ctx s
  obtain ⟨e, refused⟩ := tellAll_of_refused back accepted refuses
  rw [split, refused] at told
  cases run : tell ctx s with
  | ok u t =>
    rw [Action.outcome_of_ok run] at told
    cases (Prod.mk.inj told).1
  | error e t =>
    rw [Action.outcome_of_error run] at told same
    exact ⟨e, t, rfl, same, (Prod.mk.inj told).2.symm⟩

/-- An identity that all accept becomes that of the stack and of all seats. -/
theorem setSecurity_of_accepted (accepted : ∀ seat ∈ s.seats, seat.Accepts ctx) :
    ∃ t, setSecurity ctx s = .ok () t ∧ t.security = some ctx ∧
      t.seats = s.seats.map (Seat.holding ctx) := by
  obtain ⟨t, told, -, seats⟩ := tell_of_accepted accepted
  refine ⟨{ t with security := some ctx }, ?_, rfl, seats⟩
  unfold setSecurity
  rw [Action.bind_of_ok (Action.attempt_of_ok told)]
  rfl

/-- Without an identity to go back to, a refused one stays where it was accepted. -/
theorem setSecurity_of_refused {front back : List Seat} {seat : Seat} (fresh : s.security = none)
    (split : s.seats = front ++ seat :: back) (accepted : ∀ seat ∈ front, seat.Accepts ctx)
    (refuses : ¬ seat.Accepts ctx) :
    ∃ e t, setSecurity ctx s = .error e t ∧ t.security = none ∧
      t.seats = front.map (Seat.holding ctx) ++ seat :: back := by
  obtain ⟨e, t, told, same, seats⟩ := tell_of_refused split accepted refuses
  refine ⟨e, t, ?_, same.trans fresh, seats⟩
  unfold setSecurity
  rw [Action.bind_of_ok (Action.attempt_of_error told)]
  dsimp only
  rw [Action.get_bind_apply, same, fresh]
  rfl

/-- A refused switch takes all seats back to the identity of the stack, which they accept. -/
theorem setSecurity_of_restored {previous : SecurityContext} (held : s.security = some previous)
    (accepted : ∀ seat ∈ s.seats, seat.Accepts previous)
    (refused : ¬ ∀ seat ∈ s.seats, seat.Accepts ctx) :
    ∃ e t, setSecurity ctx s = .error e t ∧ t.security = some previous ∧
      ∀ seat ∈ t.seats, seat.Accepts previous ∧ seat.security = some previous := by
  obtain all | ⟨front, seat, back, split, before, refuses⟩ := accepted_or_refused ctx s.seats
  · exact absurd all refused
  obtain ⟨e, t, told, same, -⟩ := tell_of_refused split before refuses
  -- Being told the refused identity has changed what the seats hold, but not what they accept.
  have willing : ∀ seat ∈ t.seats, seat.Accepts previous := by
    obtain ⟨seats, -⟩ := attends_tell ctx s
    rw [Action.outcome_of_error told] at seats
    have same : (tellAll (Seat.tell ctx) s.seats).2 = t.seats := congrArg Prod.snd seats
    rw [← same, accepts_tellAll_iff]
    exact accepted
  obtain ⟨u, again, sameAgain, seats⟩ := tell_of_accepted willing
  refine ⟨e, u, ?_, sameAgain.trans (same.trans held), ?_⟩
  · unfold setSecurity
    rw [Action.bind_of_ok (Action.attempt_of_error told)]
    dsimp only
    rw [Action.get_bind_apply, same, held]
    exact Action.bind_of_ok (Action.attempt_of_ok again)
  · rw [seats, List.forall_mem_map]
    exact fun seat member => ⟨willing seat member, rfl⟩

end Switch

/-! ### What holds of a stack between switches -/

/-- All seats hold the identity of the stack, or none if it has none. -/
def OneIdentity (s : Stack) : Prop :=
  ∀ seat ∈ s.seats, seat.security = s.security

/-- If the stack has an identity, all its seats accepted it and hold it. -/
def Settled (s : Stack) : Prop :=
  ∀ ctx, s.security = some ctx → ∀ seat ∈ s.seats, seat.Accepts ctx ∧ seat.security = some ctx

/-- The first seat of the stack takes the identity, and one behind it refuses it. -/
def TakesInPart (s : Stack) (ctx : SecurityContext) : Prop :=
  (∃ seat ∈ s.seats.head?, seat.Accepts ctx) ∧ ∃ seat ∈ s.seats, ¬ seat.Accepts ctx

theorem takesInPart_iff {s : Stack} {ctx : SecurityContext} {front back : List Seat} {seat : Seat}
    (split : s.seats = front ++ seat :: back) (accepted : ∀ seat ∈ front, seat.Accepts ctx)
    (refuses : ¬ seat.Accepts ctx) : s.TakesInPart ctx ↔ front ≠ [] := by
  have refused : ∃ seat ∈ s.seats, ¬ seat.Accepts ctx := ⟨seat, by simp [split], refuses⟩
  unfold TakesInPart
  rw [and_iff_left refused, split]
  cases front with
  | nil => simpa using refuses
  | cons first rest => simpa using accepted first List.mem_cons_self

theorem oneIdentity_iff {s : Stack} (settled : s.Settled) :
    s.OneIdentity ↔ s.security.isSome ∨ AllUntold s.seats := by
  unfold OneIdentity AllUntold
  cases held : s.security with
  | none => simp
  | some ctx => simpa using fun seat member => (settled ctx held seat member).2

/-- What a switch makes of a settled stack. -/
inductive Switched (ctx : SecurityContext) (s t : Stack) : Prop
  | accepted (all : ∀ seat ∈ s.seats, seat.Accepts ctx) (now : t.security = some ctx)
      (seats : t.seats = s.seats.map (Seat.holding ctx))
  | restored {previous : SecurityContext} (held : s.security = some previous)
      (now : t.security = some previous)
      (kept : ∀ seat ∈ t.seats, seat.Accepts previous ∧ seat.security = some previous)
  | marked {front back : List Seat} {seat : Seat} (fresh : s.security = none)
      (split : s.seats = front ++ seat :: back) (before : ∀ seat ∈ front, seat.Accepts ctx)
      (refuses : ¬ seat.Accepts ctx) (now : t.security = none)
      (seats : t.seats = front.map (Seat.holding ctx) ++ seat :: back)

theorem Settled.switched {s : Stack} (settled : s.Settled) (ctx : SecurityContext) :
    Switched ctx s ((setSecurity ctx).outcome s).2 := by
  obtain all | ⟨front, seat, back, split, before, refuses⟩ := accepted_or_refused ctx s.seats
  · obtain ⟨t, done, now, seats⟩ := setSecurity_of_accepted all
    rw [Action.outcome_of_ok done]
    exact .accepted all now seats
  · cases held : s.security with
    | none =>
      obtain ⟨e, t, failed, now, seats⟩ := setSecurity_of_refused held split before refuses
      rw [Action.outcome_of_error failed]
      exact .marked held split before refuses now seats
    | some previous =>
      have refused : ¬ ∀ seat ∈ s.seats, seat.Accepts ctx :=
        fun all => refuses (all seat (by simp [split]))
      obtain ⟨e, t, failed, now, kept⟩ := setSecurity_of_restored held
        (fun seat member => (settled previous held seat member).1) refused
      rw [Action.outcome_of_error failed]
      exact .restored held now kept

theorem Switched.settled {ctx : SecurityContext} {s t : Stack} (switched : Switched ctx s t) :
    t.Settled := by
  intro other held
  cases switched with
  | accepted all now seats =>
    obtain rfl := Option.some.inj (now.symm.trans held)
    rw [seats, List.forall_mem_map]
    exact fun seat member => ⟨all seat member, rfl⟩
  | restored _ now kept =>
    obtain rfl := Option.some.inj (now.symm.trans held)
    exact kept
  | marked _ _ _ _ now _ => cases now.symm.trans held

/-- Where a stack has no identity after a switch, its seats are as untold as they were unless the
switch was taken in part. -/
theorem Switched.untold_iff {ctx : SecurityContext} {s t : Stack} (switched : Switched ctx s t)
    (fresh : t.security = none) :
    s.security = none ∧ (AllUntold t.seats ↔ AllUntold s.seats ∧ ¬ s.TakesInPart ctx) := by
  cases switched with
  | accepted _ now _ => cases fresh.symm.trans now
  | restored _ now _ => cases fresh.symm.trans now
  | @marked front back seat before split taken refuses _ seats =>
    refine ⟨before, ?_⟩
    rw [takesInPart_iff split taken refuses]
    unfold AllUntold
    rw [seats, split]
    cases front with
    | nil => simp
    | cons first rest => simp [Seat.holding]

/-- The seats that a new driver adds to the stack. -/
theorem seats_addDriver (s : Stack) (board : Board) (type : String) (driver : DriverNode) :
    seats { s with board, drivers := s.drivers ++ [(type, driver)] } = s.seats ++ [driver.seat] := by
  simp [seats, driverSeats]

end Stack

/-! ### New stacks -/

section New

variable {τ : Type} {baseSeats : τ → List Seat}

theorem Factory.untold_decorator {kind : ContractKind} {factory : Factory} {decorator : Decorator}
    (made : factory.decorator kind = .ok decorator) : AllUntold decorator.seats := by
  unfold Factory.decorator at made
  cases factory with
  | profiler slowMs => cases made; exact nofun
  | librarian => cases made; exact nofun
  | custom factory =>
    obtain ⟨node, -, same⟩ := Error.bind_eq_ok_iff.1 made
    cases same
    simp [AllUntold, Decorator.seats, PlainNode.untold]
  | builtInCatalog | memory | disk => cases made

theorem Manager.untold_wrapAll {kind : ContractKind} {wrappers : List (FactoryId × Factory)}
    {chain wrapped : Chain τ} (fresh : AllUntold (chain.seats baseSeats))
    (made : Manager.wrapAll kind chain wrappers = .ok wrapped) :
    AllUntold (wrapped.seats baseSeats) := by
  induction wrappers generalizing chain with
  | nil => cases made; exact fresh
  | cons wrapper rest ih =>
    obtain ⟨decorator, made, wrapped⟩ := Error.bind_eq_ok_iff.1 made
    refine ih ?_ wrapped
    unfold Chain.seats Chain.wrap AllUntold
    rw [List.flatMap_cons, List.append_assoc, List.forall_mem_append]
    exact ⟨Factory.untold_decorator made, fresh⟩

theorem Manager.untold_compose {m : Manager} {kind : ContractKind}
    {base : FactoryId → Factory → Except Error τ} {chain : Chain τ}
    (bases : ∀ {id factory node}, base id factory = .ok node → AllUntold (baseSeats node))
    (made : m.compose kind base = .ok chain) : AllUntold (chain.seats baseSeats) := by
  unfold Manager.compose at made
  split at made
  · cases made
  · obtain ⟨node, based, wrapped⟩ := Error.bind_eq_ok_iff.1 made
    exact untold_wrapAll (by simpa [Chain.seats, Chain.single] using bases based) wrapped

theorem seats_attachDecorators {board after : Board} {decorators attached : List Decorator}
    (done : Chain.attachDecorators board decorators = .ok (attached, after)) :
    attached.flatMap Decorator.seats = decorators.flatMap Decorator.seats := by
  induction decorators generalizing board attached with
  | nil => cases done; rfl
  | cons decorator rest ih =>
    obtain ⟨⟨first, notes⟩, here, later⟩ := Error.bind_eq_ok_iff.1 done
    obtain ⟨⟨others, last⟩, there, same⟩ := Error.bind_eq_ok_iff.1 later
    cases same
    rw [List.flatMap_cons, List.flatMap_cons, ih there]
    congr 1
    cases decorator with
    | plain node =>
      obtain ⟨left, -, same⟩ := Error.bind_eq_ok_iff.1 here
      cases same
      rfl
    | profiler slowMs => cases here; rfl
    | librarian attached => cases here; rfl

/-- Attaching a chain to a stack leaves its seats as they are. -/
theorem seats_attach {attachBase : Board → τ → Except Error (τ × Board)} {board after : Board}
    {chain attached : Chain τ}
    (bases : ∀ {board after base attached}, attachBase board base = .ok (attached, after) →
      baseSeats attached = baseSeats base)
    (done : chain.attach attachBase board = .ok (attached, after)) :
    attached.seats baseSeats = chain.seats baseSeats := by
  obtain ⟨⟨decorators, notes⟩, here, later⟩ := Error.bind_eq_ok_iff.1 done
  obtain ⟨⟨base, last⟩, there, same⟩ := Error.bind_eq_ok_iff.1 later
  cases same
  unfold Chain.seats
  rw [seats_attachDecorators here, bases there]

end New

theorem TableChain.seats_attachAll {board after : Board} {chain attached : TableChain}
    (done : chain.attachAll board = .ok (attached, after)) :
    attached.seats TableNode.seats = chain.seats TableNode.seats := by
  obtain ⟨⟨decorators, notes⟩, here, later⟩ := Error.bind_eq_ok_iff.1 done
  obtain ⟨last, -, same⟩ := Error.bind_eq_ok_iff.1 later
  cases same
  unfold Chain.seats
  rw [seats_attachDecorators here]

theorem CatalogNode.seats_attach {board after : Board} {node attached : CatalogNode}
    (done : node.attach board = .ok (attached, after)) : attached.seats = node.seats := by
  match node with
  | .builtIn none session => cases done; rfl
  | .builtIn (some chain) session =>
    obtain ⟨⟨below, notes⟩, there, same⟩ := Error.bind_eq_ok_iff.1 done
    cases same
    simp [CatalogNode.seats, TableChain.seats_attachAll there]
  | .plain node =>
    obtain ⟨notes, -, same⟩ := Error.bind_eq_ok_iff.1 done
    cases same
    rfl

theorem IoNode.seats_attach {board after : Board} {node attached : IoNode}
    (done : node.attach board = .ok (attached, after)) : attached.seats = node.seats := by
  cases node with
  | localFiles node => cases done; rfl
  | plain node =>
    obtain ⟨notes, -, same⟩ := Error.bind_eq_ok_iff.1 done
    cases same
    rfl

namespace Manager

variable {m : Manager}

theorem orMissing_eq_ok {α : Type} {made : Except Error α} {found : Option α}
    (done : orMissing made = .ok found) : ∀ a ∈ found, made = .ok a := by
  unfold orMissing at done
  split at done
  · cases done
    simp
  · split at done
    · cases done
      simp
    · cases done

theorem untold_createTable {kind : ContractKind} {chain : TableChain}
    (made : m.createTable kind = .ok chain) : AllUntold (chain.seats TableNode.seats) := by
  refine untold_compose (fun {id factory node} based => ?_) made
  unfold Factory.tableNode at based
  cases factory with
  | memory tables => cases based; exact nofun
  | custom factory =>
    obtain ⟨plain, -, same⟩ := Error.bind_eq_ok_iff.1 based
    cases same
    simp [AllUntold, TableNode.seats, PlainNode.untold]
  | builtInCatalog | disk | profiler | librarian => cases based

theorem untold_createCatalog {chain : Chain CatalogNode} (made : m.createCatalog = .ok chain) :
    AllUntold (chain.seats CatalogNode.seats) := by
  refine untold_compose (fun {id factory node} based => ?_) made
  unfold catalogNode at based
  cases factory with
  | builtInCatalog =>
    obtain ⟨below, found, same⟩ := Error.bind_eq_ok_iff.1 based
    cases same
    unfold CatalogNode.seats AllUntold
    rw [List.forall_mem_cons, List.forall_mem_flatMap]
    exact ⟨rfl, fun chain held =>
      untold_createTable (orMissing_eq_ok found chain (Option.mem_toList.1 held))⟩
  | custom factory =>
    obtain ⟨plain, -, same⟩ := Error.bind_eq_ok_iff.1 based
    cases same
    simp [AllUntold, CatalogNode.seats, PlainNode.untold]
  | memory | disk | profiler | librarian => cases based

theorem untold_createIo {chain : Chain IoNode} (made : m.createIo = .ok chain) :
    AllUntold (chain.seats IoNode.seats) := by
  refine untold_compose (fun {id factory node} based => ?_) made
  unfold Factory.ioNode at based
  cases factory with
  | disk options =>
    obtain ⟨settings, -, same⟩ := Error.bind_eq_ok_iff.1 based
    cases same
    simp [AllUntold, IoNode.seats]
  | custom factory =>
    obtain ⟨plain, -, same⟩ := Error.bind_eq_ok_iff.1 based
    cases same
    simp [AllUntold, IoNode.seats, PlainNode.untold]
  | builtInCatalog | memory | profiler | librarian => cases based

theorem untold_createDriver {type : String} {driver : DriverNode}
    (made : m.createDriver type = .ok driver) : driver.seat.security = none := by
  rcases m.createDriver_cases type with ⟨⟨_, factory⟩, -, -, given⟩ | missing
  · rw [given] at made
    unfold Factory.driverNode at made
    cases factory with
    | disk options =>
      obtain ⟨settings, -, same⟩ := Error.bind_eq_ok_iff.1 made
      cases same
      rfl
    | custom factory =>
      obtain ⟨plain, -, same⟩ := Error.bind_eq_ok_iff.1 made
      cases same
      rfl
    | builtInCatalog | memory | profiler | librarian => cases made
  · cases made.symm.trans missing

end Manager

namespace Stack

theorem untold_attachSome {τ : Type} {baseSeats : τ → List Seat}
    {attach : Board → Chain τ → Except Error (Chain τ × Board)} {made : Except Error (Chain τ)}
    {found attached : Option (Chain τ)} {board after : Board}
    (keeps : ∀ {board after chain attached}, attach board chain = .ok (attached, after) →
      attached.seats baseSeats = chain.seats baseSeats)
    (fresh : ∀ {chain}, made = .ok chain → AllUntold (chain.seats baseSeats))
    (composed : Manager.orMissing made = .ok found)
    (done : attachSome attach board found = .ok (attached, after)) :
    AllUntold (chainSeats baseSeats attached) := by
  cases found with
  | none =>
    cases done
    exact nofun
  | some chain =>
    obtain ⟨⟨now, notes⟩, here, same⟩ := Error.bind_eq_ok_iff.1 done
    cases same
    unfold chainSeats
    rw [Option.toList, List.flatMap_singleton, keeps here]
    exact fresh (Manager.orMissing_eq_ok composed chain rfl)

/-- A stack that was just made has no identity, and nothing in it was told one. -/
theorem create_untold {m : Manager} {s : Stack} (made : Stack.create m = .ok s) :
    s.security = none ∧ AllUntold s.seats := by
  obtain ⟨accounts, accountsMade, made⟩ := Error.bind_eq_ok_iff.1 made
  obtain ⟨inode, inodeMade, made⟩ := Error.bind_eq_ok_iff.1 made
  obtain ⟨catalog, catalogMade, made⟩ := Error.bind_eq_ok_iff.1 made
  obtain ⟨pools, poolsMade, made⟩ := Error.bind_eq_ok_iff.1 made
  obtain ⟨io, ioMade, made⟩ := Error.bind_eq_ok_iff.1 made
  obtain ⟨⟨accounts', board⟩, accountsIn, made⟩ := Error.bind_eq_ok_iff.1 made
  obtain ⟨⟨inode', board⟩, inodeIn, made⟩ := Error.bind_eq_ok_iff.1 made
  obtain ⟨⟨catalog', board⟩, catalogIn, made⟩ := Error.bind_eq_ok_iff.1 made
  obtain ⟨⟨pools', board⟩, poolsIn, made⟩ := Error.bind_eq_ok_iff.1 made
  obtain ⟨⟨io', board⟩, ioIn, made⟩ := Error.bind_eq_ok_iff.1 made
  cases made
  refine ⟨rfl, ?_⟩
  unfold seats AllUntold
  simp only [List.forall_mem_append]
  exact ⟨untold_attachSome TableChain.seats_attachAll Manager.untold_createTable accountsMade
      accountsIn,
    untold_attachSome TableChain.seats_attachAll Manager.untold_createTable inodeMade inodeIn,
    untold_attachSome (seats_attach CatalogNode.seats_attach) Manager.untold_createCatalog
      catalogMade catalogIn,
    untold_attachSome TableChain.seats_attachAll Manager.untold_createTable poolsMade poolsIn,
    untold_attachSome (seats_attach IoNode.seats_attach) Manager.untold_createIo ioMade ioIn,
    nofun⟩

end Stack

/-! ### Runs -/

/-- What is done on the site of a stack leaves the stack alone. -/
def OnSite.SameStack (s t : OnSite) : Prop :=
  t.stack = s.stack

instance : Action.Frame OnSite.SameStack where
  refl _ := rfl
  trans first second := second.trans first

/-- What requests to the accounts keep, resolving credentials keeps. -/
theorem StackM.keeps_resolve {R : OnSite → OnSite → Prop} [Action.Frame R]
    (asks : ∀ chain r, Action.Keeps R (onSite (Site.accountsHandler chain r))) (offered : Credentials) :
    Action.Keeps R (resolve offered) := by
  have tags (chain : TableChain) (names : List String) :
      Action.Keeps R (names.mapM fun name => onSite (Site.accountsHandler chain (.group name))) := by
    induction names with
    | nil => exact (Action.reads_pure _).keeps
    | cons name rest ih =>
      rw [List.mapM_cons]
      exact (asks chain _).bind fun _ => ih.bind fun _ => (Action.reads_pure _).keeps
  refine (Action.reads_query _).keeps.bind fun chain => ?_
  refine .guarded (.guarded ((asks chain _).bind fun user => ?_))
  by_cases own : offered.fqans = []
  · simp only [own, if_true]
    exact (asks chain _).bind fun _ => (Action.reads_pure _).keeps
  · simp only [own, if_false]
    exact (tags chain _).bind fun _ => (Action.reads_pure _).keeps

theorem StackM.sameStack_resolve (offered : Credentials) :
    Action.Keeps OnSite.SameStack (resolve offered) := by
  refine keeps_resolve (fun chain r s => ?_) offered
  unfold onSite
  rw [Action.outcome_zoom]
  rfl

/-- A driver that is made for a stack has accepted the identity of the stack, if there is one. -/
theorem StackM.seat_makeDriver {m : Manager} {s : Stack} {type : String} {driver : DriverNode}
    {board : Board} (made : makeDriver m s type = .ok (driver, board)) :
    (∀ ctx, s.security = some ctx → driver.seat.Accepts ctx) ∧
      driver.seat.security = s.security := by
  obtain ⟨node, created, made⟩ := Error.bind_eq_ok_iff.1 made
  obtain ⟨notes, -, made⟩ := Error.bind_eq_ok_iff.1 made
  cases held : s.security with
  | none =>
    simp only [held] at made
    cases made
    exact ⟨nofun, Manager.untold_createDriver created⟩
  | some ctx =>
    simp only [held] at made
    obtain ⟨u, told, same⟩ := Error.bind_eq_ok_iff.1 made
    cases same
    have seat := DriverNode.seat_tell ctx node
    by_cases accepts : node.seat.Accepts ctx
    · rw [Seat.tell_of_accepts accepts] at seat
      have after : (node.tell ctx).2.seat = node.seat.holding ctx := (congrArg Prod.snd seat).symm
      rw [after]
      refine ⟨fun other same => ?_, rfl⟩
      cases same
      exact accepts
    · obtain ⟨e, refused⟩ := Seat.tell_of_refuses accepts
      rw [refused] at seat
      have failed : (node.tell ctx).1 = .error e := (congrArg Prod.fst seat).symm
      cases failed.symm.trans told

/-- What a stack can be asked to do about identities. -/
inductive Turn where
  | identity (ctx : SecurityContext)
  | credentials (offered : Credentials)
  /-- Asks for the driver of a pool type. -/
  | driver (type : String)

namespace Turn

def act : Turn → StackM Unit
  | .identity ctx => StackM.setSecurity ctx
  | .credentials offered => StackM.setCredentials offered
  | .driver type => do
    let _ ← StackM.driver type

/-- The identity that the stack is told in the turn. -/
def told (s : OnSite) : Turn → Option SecurityContext
  | .identity ctx => some ctx
  | .credentials offered => ((StackM.resolve offered).outcome s).1.toOption
  | .driver _ => none

/-- The stack on its site after the turn, whether it failed or not. -/
def after (s : OnSite) (turn : Turn) : OnSite :=
  (turn.act.outcome s).2

/-- The stacks that a turn without an identity can leave. -/
inductive Idle (s : OnSite) (t : Stack) : Prop
  | same (unchanged : t = s.stack)
  | driver {type : String} {driver : DriverNode} {board : Board}
      (made : StackM.makeDriver s.site.manager s.stack type = .ok (driver, board))
      (added : t = { s.stack with board, drivers := s.stack.drivers ++ [(type, driver)] })

theorem idle_driver (s : OnSite) (type : String) : Idle s (after s (.driver type)).stack := by
  have asked : after s (.driver type) = ((StackM.driver type).outcome s).2 := by
    unfold after act
    rw [Action.outcome_bind_pure]
  rw [asked]
  rcases StackM.driver_cases type s with same | ⟨node, board, making, same⟩
  · exact .same (congrArg OnSite.stack same)
  · exact .driver making (congrArg OnSite.stack same)

/-- A turn either tells the stack an identity or leaves its seats, a new driver's apart, as they
are. -/
theorem stack_after (s : OnSite) (turn : Turn) :
    (∃ ctx, turn.told s = some ctx ∧
      (turn.after s).stack = ((Stack.setSecurity ctx).outcome s.stack).2) ∨
    turn.told s = none ∧ Idle s (turn.after s).stack := by
  have switched (ctx : SecurityContext) (s : OnSite) :
      ((StackM.setSecurity ctx).outcome s).2.stack = ((Stack.setSecurity ctx).outcome s.stack).2 := by
    unfold StackM.setSecurity StackM.onStack
    rw [Action.outcome_zoom]
  cases turn with
  | identity ctx => exact .inl ⟨ctx, rfl, switched ctx s⟩
  | driver type => exact .inr ⟨rfl, idle_driver s type⟩
  | credentials offered =>
    have kept := StackM.sameStack_resolve offered s
    have toldSame : told s (.credentials offered) =
        ((StackM.resolve offered).outcome s).1.toOption := rfl
    have afterSame : after s (.credentials offered) =
        ((StackM.resolve offered >>= StackM.setSecurity).outcome s).2 := rfl
    rw [toldSame, afterSame]
    cases run : StackM.resolve offered s with
    | ok ctx t =>
      rw [Action.outcome_of_ok run] at kept ⊢
      rw [Action.outcome_bind_of_ok run, switched, kept]
      exact .inl ⟨ctx, rfl, rfl⟩
    | error e t =>
      rw [Action.outcome_of_error run] at kept ⊢
      rw [Action.outcome_of_error (Action.bind_of_error run)]
      exact .inr ⟨rfl, .same kept⟩

theorem Idle.settled {s : OnSite} {t : Stack} (idle : Idle s t) (settled : s.stack.Settled) :
    t.Settled := by
  cases idle with
  | same unchanged =>
    rw [unchanged]
    exact settled
  | driver made added =>
    intro ctx held
    subst added
    obtain ⟨accepts, holds⟩ := StackM.seat_makeDriver made
    rw [Stack.seats_addDriver, List.forall_mem_append, List.forall_mem_singleton]
    exact ⟨settled ctx held, accepts ctx held, holds.trans held⟩

/-- A new driver of a stack without an identity is untold. -/
theorem Idle.untold_iff {s : OnSite} {t : Stack} (idle : Idle s t) (fresh : t.security = none) :
    s.stack.security = none ∧ (AllUntold t.seats ↔ AllUntold s.stack.seats) := by
  cases idle with
  | same unchanged =>
    rw [unchanged] at fresh ⊢
    exact ⟨fresh, Iff.rfl⟩
  | driver made added =>
    subst added
    obtain ⟨-, holds⟩ := StackM.seat_makeDriver made
    refine ⟨fresh, ?_⟩
    unfold AllUntold
    rw [Stack.seats_addDriver, List.forall_mem_append, List.forall_mem_singleton]
    exact and_iff_left (holds.trans fresh)

/-- What a run of turns leaves. -/
def run (turns : List Turn) (s : OnSite) : OnSite :=
  turns.foldl after s

/-- No turn of the run tells the stack an identity that its first seat takes and another one
refuses. -/
def NeverInPart : List Turn → OnSite → Prop
  | [], _ => True
  | turn :: rest, s =>
    (∀ ctx ∈ turn.told s, ¬ s.stack.TakesInPart ctx) ∧ NeverInPart rest (turn.after s)

theorem settled_after {s : OnSite} (settled : s.stack.Settled) (turn : Turn) :
    (turn.after s).stack.Settled := by
  rcases stack_after s turn with ⟨ctx, -, same⟩ | ⟨-, idle⟩
  · rw [same]
    exact (settled.switched ctx).settled
  · exact idle.settled settled

theorem untold_after_iff {s : OnSite} (settled : s.stack.Settled) {turn : Turn}
    (fresh : (turn.after s).stack.security = none) :
    s.stack.security = none ∧ (AllUntold (turn.after s).stack.seats ↔
      AllUntold s.stack.seats ∧ ∀ ctx ∈ turn.told s, ¬ s.stack.TakesInPart ctx) := by
  rcases stack_after s turn with ⟨ctx, told, same⟩ | ⟨told, idle⟩
  · rw [same] at fresh ⊢
    simpa [told] using (settled.switched ctx).untold_iff fresh
  · simpa [told] using idle.untold_iff fresh

theorem settled_run {s : OnSite} (settled : s.stack.Settled) (turns : List Turn) :
    (run turns s).stack.Settled := by
  induction turns generalizing s with
  | nil => exact settled
  | cons turn rest ih => exact ih (settled_after settled turn)

theorem untold_run_iff {s : OnSite} (settled : s.stack.Settled) {turns : List Turn}
    (fresh : (run turns s).stack.security = none) :
    s.stack.security = none ∧ (AllUntold (run turns s).stack.seats ↔
      AllUntold s.stack.seats ∧ NeverInPart turns s) := by
  induction turns generalizing s with
  | nil => exact ⟨fresh, (and_iff_left trivial).symm⟩
  | cons turn rest ih =>
    obtain ⟨then_, later⟩ := ih (settled_after settled turn) fresh
    obtain ⟨now, first⟩ := untold_after_iff settled then_
    refine ⟨now, ?_⟩
    change AllUntold (run rest (turn.after s)).stack.seats ↔ _
    rw [later, first, and_assoc]
    rfl

/-- From a new stack, all seats hold the stack's identity after a run exactly if the stack has one
or no turn told it one that was taken in part. -/
theorem oneIdentity_run_iff {site : Site} {stack : Stack} (made : Stack.create site.manager = .ok stack)
    (turns : List Turn) :
    (run turns ⟨stack, site⟩).stack.OneIdentity ↔
      (run turns ⟨stack, site⟩).stack.security.isSome ∨ NeverInPart turns ⟨stack, site⟩ := by
  obtain ⟨fresh, untold⟩ := Stack.create_untold made
  have settled : Stack.Settled stack := fun ctx held => by cases fresh.symm.trans held
  rw [Stack.oneIdentity_iff (settled_run (s := ⟨stack, site⟩) settled turns)]
  cases held : (run turns ⟨stack, site⟩).stack.security with
  | some ctx => simp
  | none =>
    obtain ⟨-, same⟩ := untold_run_iff (s := ⟨stack, site⟩) settled held
    rw [same]
    simp [untold]

/-- A node that lets everyone but one user in. -/
def gatekeeper (refused : String) : PlainNode where
  implId := "Gatekeeper"
  adopt ctx := if ctx.user.name = refused then .error (.permissionDenied "not let in") else .ok ()

/-- A site with a gatekeeper in front of its pools. -/
def guarded (refused : String) : Site where
  manager := { Manager.initial with
    factories := [(0, .builtInCatalog), (1, .memory {}),
      (2, .custom { plugin := "gatekeeper", decorates := true, node := fun _ => .ok (gatekeeper refused) })]
    registrations := [(.catalog, 0), (.accounts, 1), (.inode, 1), (.pools, 1), (.pools, 2)]
    nextFactory := 3 }

/-- The gatekeeper refuses the identity, but the catalog in front of it keeps what it was told. -/
theorem identity_left_by_refusal :
    ∃ stack, Stack.create (guarded "nobody").manager = .ok stack ∧
      ¬ (run [.identity .nobody] ⟨stack, guarded "nobody"⟩).stack.OneIdentity := by
  refine ⟨_, rfl, fun one => ?_⟩
  rcases (oneIdentity_run_iff rfl [.identity .nobody]).1 one with held | ⟨whole, -⟩
  · cases held
  · refine whole .nobody rfl ⟨⟨_, rfl, rfl⟩, (gatekeeper "nobody").toSeat, ?_, nofun⟩
    exact List.mem_cons_of_mem _ List.mem_cons_self

end Turn
end Stowage
