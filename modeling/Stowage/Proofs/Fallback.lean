import Stowage.Proofs.ExclusionFilters
import Stowage.Proofs.WriteOutcome

/-! Which pools a write asks, and in which order. The loop that places a write is stated without a counter:
the policy chooses a candidate, whose driver gives a location or refuses, and a candidate that refused is
dropped. Every round leaves one candidate less, so the loop ends, and as many rounds as there are candidates
are enough for it. No candidate is asked before one with more space, and a write is given up for want of
pools after all of them have refused. -/
namespace Stowage

namespace OnSite

/-- The stack has made a driver for pools of this type. -/
def HasMade (s : OnSite) (type : String) : Prop :=
  ∃ pair ∈ s.stack.drivers, pair.1 = type

variable {s t : OnSite} {type : String}

/-- A driver that was made is the one that is given when it is asked for, and nothing changes. -/
theorem HasMade.driver (made : s.HasMade type) :
    ∃ node, ∀ t : OnSite, t.stack = s.stack →
      t.driverFor type = .ok node ∧ StackM.driver type t = .ok node t := by
  obtain ⟨pair, member, same⟩ := made
  have passes : ∃ x ∈ s.stack.drivers, decide (x.1 = type) = true := ⟨pair, member, decide_eq_true same⟩
  obtain ⟨⟨kept, node⟩, cached⟩ := Option.isSome_iff_exists.1 (List.find?_isSome.2 passes)
  refine ⟨node, fun t stack => ?_⟩
  rw [← stack] at cached
  unfold driverFor StackM.driver Action.update
  constructor <;> simp only [cached]

/-- No driver that was made is lost. -/
def Retains (s t : OnSite) : Prop :=
  ∀ type, s.HasMade type → t.HasMade type

instance : Action.Frame Retains where
  refl _ _ := id
  trans first second type made := second type (first type made)

end OnSite

namespace Resolution

open OnSite StackM

variable {s t after : OnSite} {path : String} {last : Option Error} {candidates : List WriteCandidate}
  {trace : List (WriteCandidate × Except Error Location)} {out : Except Error (Pool × Location)}

/-- A stack that gives a driver has made it. -/
theorem hasMade_of_driver {type : String} {node : DriverNode} (served : driver type s = .ok node t) :
    t.HasMade type := by
  have updated := Action.update_eq_ok served
  split at updated
  · rename_i cached
    cases updated
    exact ⟨_, List.mem_of_find?_eq_some cached, by simpa using List.find?_some cached⟩
  · obtain ⟨made, -, same⟩ := Error.bind_eq_ok_iff.1 updated
    cases same
    exact ⟨(type, _), List.mem_append_right _ List.mem_cons_self, rfl⟩

theorem retains_driver (type : String) : Action.Keeps Retains (driver type) := by
  apply keeps_driver_of_made
  rintro s node board - other ⟨pair, member, same⟩
  exact ⟨pair, List.mem_append_left _ member, same⟩

/-- A pool whose space is told has a driver then. -/
theorem hasMade_of_freeSpace? {pool : Pool} {forWrite : Bool} {free : Nat}
    (told : freeSpace? pool forWrite s = .ok (some free) t) : t.HasMade pool.type := by
  unfold freeSpace? at told
  obtain ⟨driver, u, driven, asked⟩ := Action.bind_eq_ok_iff.1 told
  rcases orNone_eq_ok_iff.1 driven with ⟨node, rfl, served⟩ | ⟨rfl, -⟩
  · obtain ⟨serves, v, answered, spaced⟩ := Action.bind_eq_ok_iff.1 asked
    obtain rfl := (reads_askDriver node rfl).of_ok answered
    have made := hasMade_of_driver served
    cases serves with
    | false => cases spaced
    | true =>
      have spaces : Action.Reads (askDriver node (.freeSpace pool)) := reads_askDriver node rfl
      obtain ⟨result, w, attempted, given⟩ := Action.bind_eq_ok_iff.1 spaced
      obtain rfl := spaces.attempt.of_ok attempted
      cases result <;> cases given
      exact made
  · cases asked

/-- The drivers of the candidates that are gathered for a write are made on the way, so that all of them are
there when the loop starts. -/
theorem hasMade_of_gathered {pools : List Pool} (gathered : writeCandidates pools s = .ok candidates t) :
    ∀ c ∈ candidates, t.HasMade c.pool.type := by
  induction pools generalizing s candidates with
  | nil =>
    cases gathered
    exact nofun
  | cons pool rest ih =>
    obtain ⟨found, u, told, more⟩ := Action.bind_eq_ok_iff.1 gathered
    obtain ⟨others, v, later, returned⟩ := Action.bind_eq_ok_iff.1 more
    cases returned
    intro c member
    rcases List.mem_append.1 member with here | there
    · refine (keeps_writeCandidates retains_driver rest).of_ok later _ ?_
      obtain ⟨free, rfl, rfl⟩ := Option.map_eq_some_iff.1 (Option.mem_toList.1 here)
      exact hasMade_of_freeSpace? told
    · exact ih later c there

/-- A run of the loop that places a write, with the refusal that came before it. The trace holds whom it asks
and what it is told. -/
inductive Places (path : String) : OnSite → Option Error → List WriteCandidate →
    List (WriteCandidate × Except Error Location) → Except Error (Pool × Location) → OnSite → Prop where
  /-- There is nobody to ask. -/
  | exhausted {s after : OnSite} {last : Option Error} {candidates : List WriteCandidate}
      (none_ : select (candidates.map (·.free)) s = .ok none after) :
      Places path s last candidates [] (.error (noPoolLeft path last)) after
  /-- There is no driver for the pool of the candidate. -/
  | unserved {s t after : OnSite} {last : Option Error} {candidates : List WriteCandidate} {i : Nat}
      {c : WriteCandidate} {e : Error} (chosen : select (candidates.map (·.free)) s = .ok (some i) t)
      (found : candidates[i]? = some c) (failed : driver c.pool.type t = .error e after) :
      Places path s last candidates [] (.error e) after
  /-- The driver has a location. -/
  | accepted {s t u after : OnSite} {last : Option Error} {candidates : List WriteCandidate} {i : Nat}
      {c : WriteCandidate} {node : DriverNode} {location : Location}
      (chosen : select (candidates.map (·.free)) s = .ok (some i) t) (found : candidates[i]? = some c)
      (served : driver c.pool.type t = .ok node u)
      (given : askDriver node (.writeLocation c.pool path) u = .ok location after) :
      Places path s last candidates [(c, .ok location)] (.ok (c.pool, location)) after
  /-- The driver refuses: the loop goes on without the candidate. -/
  | refused {s t u v after : OnSite} {last : Option Error} {candidates : List WriteCandidate} {i : Nat}
      {c : WriteCandidate} {node : DriverNode} {e : Error}
      {trace : List (WriteCandidate × Except Error Location)} {out : Except Error (Pool × Location)}
      (chosen : select (candidates.map (·.free)) s = .ok (some i) t) (found : candidates[i]? = some c)
      (served : driver c.pool.type t = .ok node u)
      (lost : askDriver node (.writeLocation c.pool path) u = .error e v)
      (rest : Places path v (some e) (candidates.eraseIdx i) trace out after) :
      Places path s last candidates ((c, .error e) :: trace) out after

/-- The loop ends, whatever the drivers do: every round but the last leaves one candidate less. -/
theorem places_end (path : String) (candidates : List WriteCandidate) (s : OnSite) (last : Option Error) :
    ∃ trace out after, Places path s last candidates trace out after := by
  induction size : candidates.length generalizing s last candidates with
  | zero =>
    obtain rfl := List.length_eq_zero_iff.1 size
    exact ⟨[], _, s, .exhausted (select_nil s)⟩
  | succ n ih =>
    have some_ : candidates ≠ [] := List.ne_nil_of_length_eq_add_one size
    obtain ⟨i, t, inside, chosen, found⟩ := select_candidate some_ s
    cases served : driver candidates[i].pool.type t with
    | error e u => exact ⟨[], _, u, .unserved chosen found served⟩
    | ok node u =>
      cases asked : askDriver node (.writeLocation candidates[i].pool path) u with
      | ok location v => exact ⟨_, _, v, .accepted chosen found served asked⟩
      | error e v =>
        have fewer : (candidates.eraseIdx i).length = n := by
          rw [List.length_eraseIdx_of_lt inside, size]
          rfl
        obtain ⟨trace, out, after, rest⟩ := ih _ v (some e) fewer
        exact ⟨_, out, after, .refused chosen found served asked rest⟩

/-- A candidate that is found costs one of the rounds, and one is enough for it. -/
theorem rounds_of_found {i rounds : Nat} {c : WriteCandidate} (found : candidates[i]? = some c)
    (enough : candidates.length ≤ rounds) :
    ∃ fewer, rounds = fewer + 1 ∧ (candidates.eraseIdx i).length ≤ fewer := by
  obtain ⟨inside, -⟩ := List.getElem?_eq_some_iff.1 found
  have erased := List.length_eraseIdx_of_lt inside
  exact ⟨rounds - 1, by omega, by omega⟩

/-- A round is about the candidate that the policy chooses. -/
theorem placeWrite_chosen {i rounds : Nat} {c : WriteCandidate}
    (chosen : select (candidates.map (·.free)) s = .ok (some i) t) (found : candidates[i]? = some c) :
    placeWrite path last (rounds + 1) candidates s = (do
      let node ← driver c.pool.type
      match ← Action.attempt (askDriver node (.writeLocation c.pool path)) with
      | .ok location => return (c.pool, location)
      | .error e => placeWrite path (some e) rounds (candidates.eraseIdx i)) t := by
  refine (Action.bind_of_ok chosen).trans ?_
  dsimp only
  generalize candidates[i]? = entry at found ⊢
  subst found
  rfl

/-- With as many rounds as candidates, the rounds do what the loop does. -/
theorem placeWrite_of_places (run : Places path s last candidates trace out after) {rounds : Nat}
    (enough : candidates.length ≤ rounds) :
    (placeWrite path last rounds candidates).outcome s = (out, after) := by
  induction run generalizing rounds with
  | exhausted none_ =>
    cases rounds with
    | zero =>
      obtain rfl := List.length_eq_zero_iff.1 (Nat.le_zero.1 enough)
      cases (select_nil _).symm.trans none_
      rfl
    | succ rounds => exact Action.outcome_of_error (Action.bind_of_ok none_)
  | unserved chosen found failed =>
    obtain ⟨rounds, rfl, -⟩ := rounds_of_found found enough
    exact Action.outcome_of_error ((placeWrite_chosen chosen found).trans (Action.bind_of_error failed))
  | accepted chosen found served given =>
    obtain ⟨rounds, rfl, -⟩ := rounds_of_found found enough
    exact Action.outcome_of_ok ((placeWrite_chosen chosen found).trans
      ((Action.bind_of_ok served).trans (Action.bind_of_ok (Action.attempt_of_ok given))))
  | refused chosen found served lost rest ih =>
    obtain ⟨rounds, rfl, fewer⟩ := rounds_of_found found enough
    rw [← ih fewer]
    unfold Action.outcome
    rw [placeWrite_chosen chosen found, Action.bind_of_ok served,
      Action.bind_of_ok (Action.attempt_of_error lost)]

/-- What was asked of the candidates in a run that ends like this, and of whom nothing was asked. -/
structure Asked (s : OnSite) (path : String) (last : Option Error) (candidates : List WriteCandidate)
    (trace : List (WriteCandidate × Except Error Location)) (left : List WriteCandidate)
    (out : Except Error (Pool × Location)) : Prop where
  /-- Every candidate is asked once, or is left. -/
  once : (trace.map Prod.fst ++ left).Perm candidates
  /-- Each is told what its driver tells. -/
  told : ∀ c answer, (c, answer) ∈ trace → ∃ node, s.driverFor c.pool.type = .ok node ∧
    s.tells node (.writeLocation c.pool path) = answer
  /-- Nobody is asked before one with more space. -/
  greedy : ∀ before c answer later, trace = before ++ (c, answer) :: later →
    ∀ d ∈ later.map Prod.fst ++ left, d.free ≤ c.free
  /-- A location is that of the last who was asked, and all before refused. -/
  accepted : ∀ placed, out = .ok placed → ∃ before c location, trace = before ++ [(c, .ok location)] ∧
    (∀ pair ∈ before, ∃ e, pair.2 = .error e) ∧ placed = (c.pool, location)
  /-- Given up is for want of candidates, and quotes the last who refused. -/
  failed : ∀ e, out = .error e → left = [] ∧ (∀ pair ∈ trace, ∃ e, pair.2 = .error e) ∧
    (trace = [] ∧ e = noPoolLeft path last ∨
      ∃ before c fault, trace = before ++ [(c, .error fault)] ∧ e = noPoolLeft path (some fault))

/-- What the policy chooses has the most space. -/
theorem free_le_of_chosen {i : Nat} {c : WriteCandidate}
    (chosen : select (candidates.map (·.free)) s = .ok (some i) t) (found : candidates[i]? = some c) :
    ∀ d ∈ candidates, d.free ≤ c.free := by
  intro d member
  obtain ⟨u, turned⟩ := select_apply (candidates.map (·.free)) s
  have index := (EStateM.Result.ok.inj (turned.symm.trans chosen)).1
  have best := Placement.mem_tied.1 (Placement.mem_tied_of_select index)
  rw [List.getElem?_map, found] at best
  have most : c.free = Placement.best (candidates.map (·.free)) := Option.some.inj best
  rw [most]
  exact Placement.le_best (List.mem_map_of_mem member)

theorem perm_of_found {i : Nat} {c : WriteCandidate} (found : candidates[i]? = some c) :
    (c :: candidates.eraseIdx i).Perm candidates := by
  obtain ⟨inside, rfl⟩ := List.getElem?_eq_some_iff.1 found
  exact List.getElem_cons_eraseIdx_perm inside

/-- Choosing is nothing to the stack and to what drivers tell. -/
theorem stack_of_chosen {i : Option Nat} {free : List Nat} (chosen : select free s = .ok i t) :
    t.stack = s.stack :=
  (congrArg OnSite.stack (EStateM.Result.ok.inj chosen).2).symm

theorem driverFor_of_chosen {i : Option Nat} {free : List Nat} {type : String}
    (chosen : select free s = .ok i t) (made : s.HasMade type) : t.driverFor type = s.driverFor type := by
  obtain ⟨node, serves⟩ := made.driver
  rw [(serves t (stack_of_chosen chosen)).1, (serves s rfl).1]

theorem tells_of_chosen {i : Option Nat} {free : List Nat} (chosen : select free s = .ok i t)
    (node : DriverNode) (r : DriverRequest) : t.tells node r = s.tells node r :=
  ((readies_select _).of_ok chosen).toDrifts.tells node r

/-- The driver of a candidate that is chosen gives the answer that it would have given before. -/
theorem answer_of_chosen {i : Option Nat} {free : List Nat} {c : WriteCandidate}
    (chosen : select free s = .ok i t) (made : s.HasMade c.pool.type) (path : String) :
    ∃ node, s.driverFor c.pool.type = .ok node ∧ driver c.pool.type t = .ok node t ∧
      askDriver node (.writeLocation c.pool path) t =
        Action.ofExcept (s.tells node (.writeLocation c.pool path)) t := by
  obtain ⟨node, serves⟩ := made.driver
  refine ⟨node, (serves s rfl).1, (serves t (stack_of_chosen chosen)).2, ?_⟩
  rw [askDriver_looks node rfl, tells_of_chosen chosen]

/-- Where nobody is chosen, there was nobody. -/
theorem nil_of_unchosen (none_ : select (candidates.map (·.free)) s = .ok none t) : candidates = [] := by
  by_contra some_
  obtain ⟨i, u, -, chosen, -⟩ := select_candidate some_ s
  cases none_.symm.trans chosen

/-- The one that is chosen refuses, and the others are asked. -/
theorem Asked.cons {i : Nat} {c : WriteCandidate} {e : Error} {node : DriverNode}
    {left : List WriteCandidate} (asked : Asked t path (some e) (candidates.eraseIdx i) trace left out)
    (chosen : select (candidates.map (·.free)) s = .ok (some i) t) (found : candidates[i]? = some c)
    (made : ∀ c ∈ candidates, s.HasMade c.pool.type) (served : s.driverFor c.pool.type = .ok node)
    (lost : s.tells node (.writeLocation c.pool path) = .error e) :
    Asked s path last candidates ((c, .error e) :: trace) left out := by
  have others : ∀ d ∈ trace.map Prod.fst ++ left, d ∈ candidates := fun d member =>
    (perm_of_found found).subset (List.mem_cons_of_mem _ (asked.once.subset member))
  refine ⟨(asked.once.cons c).trans (perm_of_found found), ?_, ?_, ?_, ?_⟩
  · intro d answer member
    rcases List.mem_cons.1 member with here | later
    · cases here
      exact ⟨node, served, lost⟩
    · obtain ⟨other, there, said⟩ := asked.told d answer later
      have among := others d (List.mem_append_left _ (List.mem_map_of_mem later))
      exact ⟨other, (driverFor_of_chosen chosen (made d among)).symm.trans there,
        (tells_of_chosen chosen _ _).symm.trans said⟩
  · intro before d answer later same other member
    cases before with
    | nil =>
      obtain ⟨head, rfl⟩ := List.cons.inj same
      cases head
      exact free_le_of_chosen chosen found other (others other member)
    | cons first before => exact asked.greedy before d answer later (List.cons.inj same).2 other member
  · intro placed ended
    obtain ⟨before, d, location, rfl, refused, given⟩ := asked.accepted placed ended
    exact ⟨(c, .error e) :: before, d, location, rfl, List.forall_mem_cons.2 ⟨⟨e, rfl⟩, refused⟩, given⟩
  · intro fault ended
    obtain ⟨none_, refused, quoted⟩ := asked.failed fault ended
    refine ⟨none_, List.forall_mem_cons.2 ⟨⟨e, rfl⟩, refused⟩, .inr ?_⟩
    rcases quoted with ⟨rfl, quoted⟩ | ⟨before, d, other, rfl, quoted⟩
    · exact ⟨[], c, e, rfl, quoted⟩
    · exact ⟨(c, .error e) :: before, d, other, rfl, quoted⟩

/-- The one that is chosen accepts, and no other is asked. -/
theorem asked_accepted {i : Nat} {c : WriteCandidate} {node : DriverNode} {location : Location}
    (chosen : select (candidates.map (·.free)) s = .ok (some i) t) (found : candidates[i]? = some c)
    (served : s.driverFor c.pool.type = .ok node)
    (given : s.tells node (.writeLocation c.pool path) = .ok location) :
    Asked s path last candidates [(c, .ok location)] (candidates.eraseIdx i) (.ok (c.pool, location)) := by
  refine ⟨perm_of_found found, fun d answer member => ?_, fun before d answer later same other member => ?_,
    fun placed ended => ⟨[], c, location, rfl, nofun, (Except.ok.inj ended).symm⟩, nofun⟩
  · cases List.mem_singleton.1 member
    exact ⟨node, served, given⟩
  · cases before with
    | nil =>
      obtain ⟨head, rfl⟩ := List.cons.inj same
      cases head
      exact free_le_of_chosen chosen found other
        ((perm_of_found found).subset (List.mem_cons_of_mem _ member))
    | cons first before => exact absurd (List.cons.inj same).2 (by simp)

/-- How a run asks candidates whose drivers were made. -/
theorem Places.asked (run : Places path s last candidates trace out after)
    (made : ∀ c ∈ candidates, s.HasMade c.pool.type) :
    ∃ left, Asked s path last candidates trace left out := by
  induction run with
  | exhausted none_ =>
    obtain rfl := nil_of_unchosen none_
    refine ⟨[], .refl _, nofun, by simp, nofun, fun e ended => ?_⟩
    exact ⟨rfl, nofun, .inl ⟨rfl, (Except.error.inj ended).symm⟩⟩
  | unserved chosen found failed =>
    have drives := made _ (List.mem_of_getElem? found)
    obtain ⟨node, -, served, -⟩ := answer_of_chosen chosen drives path
    cases served.symm.trans failed
  | accepted chosen found served given =>
    have drives := made _ (List.mem_of_getElem? found)
    obtain ⟨node, serves, gave, answer⟩ := answer_of_chosen chosen drives path
    cases gave.symm.trans served
    obtain ⟨told, -⟩ := Action.eq_ok_of_ofExcept (answer.symm.trans given)
    exact ⟨_, asked_accepted chosen found serves told⟩
  | @refused s t u v after last candidates i c _ e trace out chosen found served lost rest ih =>
    have drives := made _ (List.mem_of_getElem? found)
    obtain ⟨node, serves, gave, answer⟩ := answer_of_chosen chosen drives path
    cases gave.symm.trans served
    obtain ⟨told, rfl⟩ := Action.eq_error_of_ofExcept (answer.symm.trans lost)
    have still : ∀ d ∈ candidates.eraseIdx i, v.HasMade d.pool.type := by
      intro d member
      unfold HasMade
      rw [stack_of_chosen chosen]
      exact made d (List.mem_of_mem_eraseIdx member)
    obtain ⟨left, asked⟩ := ih still
    exact ⟨left, asked.cons chosen found made serves told⟩

theorem kind_noPoolLeft (path : String) (last : Option Error) :
    (noPoolLeft path last).kind = .noReplicaAvailable := by
  cases last <;> rfl

/-- A write is given up exactly if the drivers of all candidates refuse. -/
theorem Asked.failed_iff {left : List WriteCandidate} (asked : Asked s path last candidates trace left out) :
    (∃ e, out = .error e) ↔ ∀ c ∈ candidates, ∃ node e, s.driverFor c.pool.type = .ok node ∧
      s.tells node (.writeLocation c.pool path) = .error e := by
  constructor
  · rintro ⟨e, ended⟩ c member
    obtain ⟨rfl, refused, -⟩ := asked.failed e ended
    have named := asked.once.symm.subset member
    rw [List.append_nil] at named
    obtain ⟨⟨_, answer⟩, there, rfl⟩ := List.mem_map.1 named
    obtain ⟨fault, rfl⟩ := refused _ there
    obtain ⟨node, served, said⟩ := asked.told _ _ there
    exact ⟨node, fault, served, said⟩
  · intro refuse
    cases ended : out with
    | error e => exact ⟨e, rfl⟩
    | ok placed =>
      obtain ⟨before, c, location, rfl, -, -⟩ := asked.accepted placed ended
      have there : (c, .ok location) ∈ before ++ [(c, Except.ok location)] := by simp
      have among := asked.once.subset (List.mem_append_left left (List.mem_map_of_mem there))
      obtain ⟨node, served, said⟩ := asked.told _ _ there
      obtain ⟨again, e, gave, lost⟩ := refuse c among
      cases served.symm.trans gave
      cases said.symm.trans lost

/-- Where the drivers of all candidates were made, the loop ends, and as many rounds as there are candidates do
what it does. It asks no candidate twice, and none before one with more space; the first to accept is taken,
with the location that its driver has. A write is given up exactly if all refuse, or there are none, and then
for want of replicas: the failure quotes the last refusal. -/
theorem placeWrite_asks_best_first (made : ∀ c ∈ candidates, s.HasMade c.pool.type) (path : String) :
    (∃ trace out after, Places path s none candidates trace out after) ∧
      ∀ trace out after, Places path s none candidates trace out after →
        (∀ rounds, candidates.length ≤ rounds →
          (placeWrite path none rounds candidates).outcome s = (out, after)) ∧
        (∃ left, Asked s path none candidates trace left out) ∧
        ((∃ e, out = .error e) ↔ ∀ c ∈ candidates, ∃ node e, s.driverFor c.pool.type = .ok node ∧
          s.tells node (.writeLocation c.pool path) = .error e) ∧
        ∀ e, out = .error e → e.kind = .noReplicaAvailable := by
  refine ⟨places_end path candidates s none, fun trace out after run => ?_⟩
  obtain ⟨left, asked⟩ := run.asked made
  refine ⟨fun rounds enough => placeWrite_of_places run enough, ⟨left, asked⟩, asked.failed_iff,
    fun e ended => ?_⟩
  obtain ⟨-, -, ⟨-, rfl⟩ | ⟨-, -, fault, -, rfl⟩⟩ := asked.failed e ended
  · exact kind_noPoolLeft path none
  · exact kind_noPoolLeft path (some fault)

/-- A candidate with much space, which became read-only after it was gathered. -/
def frozen : WriteCandidate where
  pool := ({ name := "large", type := DiskDriver.poolType } : Pool).withFilesystems
    [{ server := "localhost", path := "srv/a", free := 2000, total := 2000, status := .readOnly }]
  free := 2000

/-- One with less. -/
def modest : WriteCandidate where
  pool := diskPool "small" "srv/b" 1000
  free := 1000

/-- The driver that a stack of root's makes for disk pools. -/
def rootDisk : DriverNode :=
  .disk ⟨⟨"secret", .user, 600⟩, some .root⟩

/-- A stack that has made it. -/
def supplied : OnSite :=
  let bare := desk .root .initial ∅ .initial
  { bare with stack := { bare.stack with drivers := [(DiskDriver.poolType, rootDisk)] } }

/-- The larger pool is asked although it is listed last, refuses, and the smaller one is taken. -/
theorem smaller_pool_taken :
    (∀ c ∈ [modest, frozen], supplied.HasMade c.pool.type) ∧
      ∃ trace out after location fault, Places "/f" supplied none [modest, frozen] trace out after ∧
        (placeWrite "/f" none 2 [modest, frozen]).outcome supplied = (out, after) ∧
        (frozen, .error fault) ∈ trace ∧ out = .ok (modest.pool, location) := by
  have types : ∀ c ∈ [modest, frozen], c.pool.type = DiskDriver.poolType :=
    List.forall_mem_cons.2 ⟨rfl, List.forall_mem_singleton.2 rfl⟩
  have made : ∀ c ∈ [modest, frozen], supplied.HasMade c.pool.type :=
    fun c member => ⟨_, List.mem_cons_self, (types c member).symm⟩
  have served : supplied.driverFor DiskDriver.poolType = .ok rootDisk := rfl
  have refuses : ∃ e, supplied.tells rootDisk (.writeLocation frozen.pool "/f") = .error e := ⟨_, rfl⟩
  have accepts : ∃ location, supplied.tells rootDisk (.writeLocation modest.pool "/f") = .ok location :=
    ⟨_, rfl⟩
  obtain ⟨⟨trace, out, after, run⟩, runs⟩ := placeWrite_asks_best_first made "/f"
  obtain ⟨rounds, ⟨left, asked⟩, failed, -⟩ := runs trace out after run
  -- What a candidate of the two is told is what the one driver tells.
  have told : ∀ c answer, (c, answer) ∈ trace → c ∈ [modest, frozen] ∧
      supplied.tells rootDisk (.writeLocation c.pool "/f") = answer := by
    intro c answer member
    have among := asked.once.subset (List.mem_append_left left (List.mem_map_of_mem member))
    obtain ⟨node, gave, said⟩ := asked.told c answer member
    cases served.symm.trans ((types c among) ▸ gave)
    exact ⟨among, said⟩
  cases ended : out with
  | error e =>
    obtain ⟨node, fault, gave, lost⟩ := failed.1 ⟨e, ended⟩ modest List.mem_cons_self
    obtain ⟨location, given⟩ := accepts
    cases served.symm.trans gave
    cases given.symm.trans lost
  | ok placed =>
    obtain ⟨before, c, location, same, -, rfl⟩ := asked.accepted placed ended
    obtain ⟨among, given⟩ := told c (.ok location) (by simp [same])
    obtain ⟨fault, lost⟩ := refuses
    rcases List.mem_cons.1 among with rfl | other
    · have listed : frozen ∈ [modest, frozen] := List.mem_cons_of_mem _ List.mem_cons_self
      have named := asked.once.symm.subset listed
      rcases List.mem_append.1 named with there | unasked
      · obtain ⟨⟨_, answer⟩, member, rfl⟩ := List.mem_map.1 there
        obtain rfl := lost.symm.trans (told _ answer member).2
        exact ⟨made, trace, out, after, location, fault, run, rounds 2 le_rfl, member, ended⟩
      · have less := asked.greedy before modest (.ok location) [] same frozen unasked
        exact absurd less (by decide)
    · obtain rfl := List.mem_singleton.1 other
      cases given.symm.trans lost

end Resolution
end Stowage
