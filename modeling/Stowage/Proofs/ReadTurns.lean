import Stowage.Proofs.Restocking
import Stowage.Proofs.SharedSettings

/-! What reads leave for the calls after them. Finding a location to read from makes drivers, which are the
ones that would be made later anyway, and one placement policy serves reads and writes, so that under round
robin a read that gets as far as a choice takes a turn. Nothing else of it is left. -/
namespace Stowage

/-- The candidates that a read of the path chooses among. -/
def Resolution.candidatesOf (path : String) : StackM (List ReadCandidate) := do
  let target ← absolute path
  let rows ← StackM.catalog (.replicas target)
  readCandidates rows

namespace OnSite

/-- The policy of the site has taken one more turn. -/
def turnTaken (s : OnSite) : OnSite :=
  { s with site := { s.site with manager := { s.site.manager with placement :=
    { s.site.manager.placement with turn := s.site.manager.placement.turn + 1 } } } }

/-- The policy rotates ties, and a read of the path gets as far as choosing among some candidates. -/
def takesTurn (s : OnSite) (path : String) : Bool :=
  s.site.manager.placement.policy = .roundRobin &&
    match Resolution.candidatesOf path s with
    | .ok (_ :: _) _ => true
    | _ => false

/-- What a read of the path leaves, but for the drivers that it has made. -/
def afterRead (path : String) (s : OnSite) : OnSite :=
  if s.takesTurn path then s.turnTaken else s

variable (path : String) (s : OnSite)

theorem stocks_afterRead : Stocks s (s.afterRead path) := by
  unfold afterRead
  split
  · exact ⟨fun _ => ⟨_, rfl⟩, id, fun _ _ => rfl⟩
  · exact Action.Frame.refl s

theorem policy_afterRead :
    (s.afterRead path).site.manager.placement.policy = s.site.manager.placement.policy := by
  unfold afterRead
  split <;> rfl

end OnSite

/-! ### What a read leaves of the site -/

namespace Resolution

open OnSite StackM

/-- Once a location is chosen, the site stays as it is. -/
theorem sameSite_located (path : String) (all : List ReadCandidate) (chosen : Option Nat) :
    Action.Keeps SameSite (do
      let some candidate := chosen.bind (all[·]?)
        | throw (.noReplicaAvailable ("no replica of " ++ path ++ " is available"))
      let driver ← StackM.driver candidate.pool.type
      let location ← StackM.askDriver driver (.readLocation candidate.pool candidate.replica)
      return tagRead location path candidate) := by
  cases chosen.bind (all[·]?) with
  | none => exact (Action.reads_throw _).keeps
  | some c =>
    refine (sameSite_driver c.pool.type).bind fun node => ?_
    have asks : Action.Reads (askDriver node (.readLocation c.pool c.replica)) := reads_askDriver node rfl
    exact asks.keeps.bind fun _ => (Action.reads_pure _).keeps

/-- The one thing that a choice does to a site is to take its turn. -/
theorem site_readAmong {s t : OnSite} {rows : List Replica} {all : List ReadCandidate}
    (gathered : readCandidates rows s = .ok all t) (path : String) :
    ((readAmong path rows).outcome s).2.site = { s.site with manager := { s.site.manager with placement :=
      (s.site.manager.placement.select (all.map (·.free))).2 } } := by
  unfold readAmong
  rw [Action.outcome_bind_of_ok gathered, ← site_of_gathered gathered]
  obtain ⟨u, chosen⟩ := select_apply (all.map (·.free)) t
  rw [Action.outcome_bind_of_ok chosen]
  cases chosen
  exact sameSite_located path all _ _

theorem afterRead_of_error {s t : OnSite} {path : String} {e : Error}
    (lost : candidatesOf path s = .error e t) : s.afterRead path = s := by
  unfold afterRead takesTurn
  simp [lost]

theorem afterRead_of_ok {s t : OnSite} {path : String} {all : List ReadCandidate}
    (found : candidatesOf path s = .ok all t) :
    s.afterRead path =
      if s.site.manager.placement.policy = .roundRobin ∧ all ≠ [] then s.turnTaken else s := by
  unfold afterRead takesTurn
  cases all <;> simp [found]

theorem candidatesOf_of_shown {s : OnSite} {path target : String} {rows : List Replica}
    (seen : absolute path s = .ok target s) (shown : catalog (.replicas target) s = .ok rows s) :
    candidatesOf path s = readCandidates rows s :=
  (Action.bind_of_ok seen).trans (Action.bind_of_ok shown)

/-- A read that is shown replicas takes a turn if some of them are candidates. -/
theorem site_of_shown {s : OnSite} {path target : String} {rows : List Replica} (some_ : rows ≠ [])
    (seen : absolute path s = .ok target s) (shown : catalog (.replicas target) s = .ok rows s) :
    ((whereToRead path).outcome s).2.site = (s.afterRead path).site := by
  have same : (whereToRead path).outcome s = (readAmong target rows).outcome s := by
    unfold Action.outcome
    rw [whereToRead_of_some seen shown some_]
  have gathers := candidatesOf_of_shown seen shown
  rw [same]
  cases gathered : readCandidates rows s with
  | error e t =>
    have lost : readAmong target rows s = .error e t := Action.bind_of_error gathered
    rw [Action.outcome_of_error lost, afterRead_of_error (gathers.trans gathered)]
    exact (keeps_readCandidates sameSite_driver rows).of_error gathered
  | ok all t =>
    rw [site_readAmong gathered, afterRead_of_ok (gathers.trans gathered), Placement.select_after]
    simp only [ne_eq, List.map_eq_nil_iff]
    split <;> rfl

/-- What a read leaves of the site: the policy has taken a turn, or nothing has changed. -/
theorem site_whereToRead (path : String) (s : OnSite) :
    ((whereToRead path).outcome s).2.site = (s.afterRead path).site := by
  have unchanged {e : Error} (failed : whereToRead path s = .error e s)
      (idle : s.afterRead path = s) :
      ((whereToRead path).outcome s).2.site = (s.afterRead path).site := by
    rw [Action.outcome_of_error failed, idle]
  cases seen : absolute path s with
  | error e t =>
    obtain rfl := (reads_absolute path).of_error seen
    exact unchanged (Action.bind_of_error seen) (afterRead_of_error (Action.bind_of_error seen))
  | ok target t =>
    obtain rfl := (reads_absolute path).of_ok seen
    have looks : Action.Reads (catalog (.replicas target)) := reads_catalog rfl
    cases shown : catalog (.replicas target) t with
    | error e u =>
      obtain rfl := looks.of_error shown
      exact unchanged ((Action.bind_of_ok seen).trans (Action.bind_of_error shown))
        (afterRead_of_error ((Action.bind_of_ok seen).trans (Action.bind_of_error shown)))
    | ok rows u =>
      obtain rfl := looks.of_ok shown
      cases rows with
      | nil =>
        have none_ : candidatesOf path u = .ok [] u := candidatesOf_of_shown seen shown
        exact unchanged (whereToRead_of_none seen shown) (by simp [afterRead_of_ok none_])
      | cons row rest => exact site_of_shown (List.cons_ne_nil row rest) seen shown

end Resolution

/-! ### Runs -/

/-- A call of a run: one that counts, or an extra read of a path. -/
inductive Call : Type 1 where
  | common (r : StackRequest)
  | read (path : String)

namespace Call

open OnSite

/-- Requests with their answers. -/
abbrev Log := List ((r : StackRequest) × Except Error r.Answer)

/-- What the common calls answer, in order, if this is what an extra read does to the stack. -/
def answers (reads : String → OnSite → OnSite) : List Call → OnSite → Log
  | [], _ => []
  | .common r :: rest, s => ⟨r, (r.act.outcome s).1⟩ :: answers reads rest (r.act.outcome s).2
  | .read path :: rest, s => answers reads rest (reads path s)

/-- The run in which the extra reads are made. -/
def withReads : List Call → OnSite → Log :=
  answers fun path s => ((Resolution.whereToRead path).outcome s).2

/-- The run of the common calls alone. -/
def withoutReads : List Call → OnSite → Log :=
  answers fun _ s => s

/-- The run in which of every extra read only the turn is left that it takes. -/
def withTurns : List Call → OnSite → Log :=
  answers afterRead

/-- In the run of the common calls alone, no extra read would take a turn where it stands. -/
def Idle : List Call → OnSite → Prop
  | [], _ => True
  | .common r :: rest, s => Idle rest (r.act.outcome s).2
  | .read path :: rest, s => s.takesTurn path = false ∧ Idle rest s

/-- Every common call is one that changes neither the identity nor the board. -/
def Steady (calls : List Call) : Prop :=
  ∀ r, .common r ∈ calls → r.Steady

/-- The names of the pools in which files were placed. -/
def placed (log : Log) : List String :=
  log.filterMap fun
    | ⟨.whereToWrite _, .ok location⟩ => do
      let chunk ← location.chunks.head?
      (← chunk.attrs.get? Chunk.poolKey).str?
    | _ => none

variable {s t : OnSite} {policy : PlacementPolicy} {calls : List Call}

/-- From a stack with other drivers, the reads are as good as the turns that they take: both leave stacks
that differ in their drivers alone. -/
theorem withReads_of_restocked (steady : Steady calls) (related : Restocked policy s t) :
    withReads calls t = withTurns calls s := by
  induction calls generalizing s t with
  | nil => rfl
  | cons call rest ih =>
    have later : Steady rest := fun r member => steady r (List.mem_cons_of_mem _ member)
    cases call with
    | common r =>
      obtain ⟨same, left⟩ := StackRequest.agrees_act (steady r List.mem_cons_self) s t related
      unfold withReads withTurns answers
      rw [same]
      exact congrArg _ (ih later left)
    | read path =>
      obtain ⟨-, left⟩ := Resolution.ignored_restocked.whereToRead path s t related
      refine ih later (related.stocks (stocks_afterRead path s) (Resolution.stocks_whereToRead path t)
        ((policy_afterRead path s).trans related.policy) ?_)
      rw [left.site, Resolution.site_whereToRead]

/-- Where no read takes a turn, nothing is left of the reads. -/
theorem withTurns_of_idle (idle : Idle calls s) : withTurns calls s = withoutReads calls s := by
  induction calls generalizing s with
  | nil => rfl
  | cons call rest ih =>
    cases call with
    | common r => exact congrArg _ (ih idle)
    | read path =>
      obtain ⟨here, later⟩ := idle
      have same : s.afterRead path = s := by simp [afterRead, here]
      have ran : withTurns (.read path :: rest) s = withTurns rest (s.afterRead path) := rfl
      rw [ran, same]
      exact ih later

/-- Where the earliest candidate wins, no read takes a turn, since no call changes the policy. -/
theorem idle_of_freeSpace (steady : Steady calls) (related : Restocked .freeSpace s s) :
    Idle calls s := by
  induction calls generalizing s with
  | nil => trivial
  | cons call rest ih =>
    have later : Steady rest := fun r member => steady r (List.mem_cons_of_mem _ member)
    cases call with
    | common r => exact ih later (StackRequest.agrees_act (steady r List.mem_cons_self) s s related).2
    | read path => exact ⟨by simp [takesTurn, related.policy], ih later related⟩

/-- Reads leave nothing for other calls but the turns that they take. Whatever reads are made between the
calls of a run, and however these end, the calls answer as if each read that gets as far as a choice under
round robin had taken one turn of the policy and nothing else had been done. So where no read takes a turn,
as is always the case if the earliest candidate wins, every call answers as it does without the reads, and
writes go to the same pools and filesystems. -/
theorem reads_leave_their_turns (discreet : s.Discreet) (steady : Steady calls) :
    withReads calls s = withTurns calls s ∧
      (Idle calls s → withReads calls s = withoutReads calls s) ∧
      (s.site.manager.placement.policy = .freeSpace → withReads calls s = withoutReads calls s) := by
  have self := Restocked.refl discreet.quiet
  have turns := withReads_of_restocked steady self
  refine ⟨turns, fun idle => turns.trans (withTurns_of_idle idle), fun policy => ?_⟩
  rw [policy] at self
  exact turns.trans (withTurns_of_idle (idle_of_freeSpace steady self))

/-- A namespace with one file, which has a replica in the second of two pools. -/
def shelf : Namespace :=
  Namespace.initial.run [
    .create { parent := 1, name := "r", stat := { mode := Mode.regular ||| 0o644 } },
    .addReplica { file := 2, pool := "b", server := "localhost", rfn := "localhost:srv/b/r" }]

/-- Two pools of the same free space. -/
def twins : PoolTable :=
  Table.ofList [("a", diskPool "a" "srv/a" 1000), ("b", diskPool "b" "srv/b" 1000)]

/-- A stack of root's on a site with these pools. -/
def tied (policy : PlacementPolicy) : OnSite :=
  let desk := desk .root shelf twins .initial
  { desk with site := { desk.site with manager := { desk.site.manager with placement := { policy } } } }

theorem discreet_tied (policy : PlacementPolicy) : (tied policy).Discreet := by
  have disks : (tied policy).DiskOnly := ⟨nofun, (diskOnly_desk .root shelf twins .initial).makes⟩
  exact disks.discreet

/-- The file is read before another one is written. -/
def readFirst : List Call :=
  [.read "/r", .common (.whereToWrite "/w")]

/-- The same, but the file that is read is not there. -/
def missFirst : List Call :=
  [.read "/gone", .common (.whereToWrite "/w")]

theorem steady_write {path : String} : Steady [.read path, .common (.whereToWrite "/w")] := by
  intro r member
  obtain rfl : r = .whereToWrite "/w" := by simpa using member
  trivial

/-- Under round robin the read takes the turn of the first pool, and a read that fails takes none. -/
theorem turns_of_tied :
    (∀ policy, (tied policy).Discreet) ∧ Steady readFirst ∧ Steady missFirst ∧
      withReads readFirst (tied .roundRobin) = withTurns readFirst (tied .roundRobin) ∧
      placed (withTurns readFirst (tied .roundRobin)) = ["b"] ∧
      Idle missFirst (tied .roundRobin) ∧
      withReads missFirst (tied .roundRobin) = withoutReads missFirst (tied .roundRobin) ∧
      (tied .freeSpace).site.manager.placement.policy = .freeSpace ∧
      withReads readFirst (tied .freeSpace) = withoutReads readFirst (tied .freeSpace) := by
  have idle : Idle missFirst (tied .roundRobin) := ⟨by decide +kernel, trivial⟩
  refine ⟨discreet_tied, steady_write, steady_write, ?_, by decide +kernel, idle, ?_, rfl, ?_⟩
  · exact (reads_leave_their_turns (discreet_tied .roundRobin) steady_write).1
  · exact (reads_leave_their_turns (discreet_tied .roundRobin) steady_write).2.1 idle
  · exact (reads_leave_their_turns (discreet_tied .freeSpace) steady_write).2.2 rfl

/-- A driver from a plugin with this much space in every pool. -/
def spacious (type : String) (free : Nat) (attach : Board → Except Error Board) : PlainDriver where
  implId := type
  type := type
  answer
    | .isAvailable .. => some (.ok true)
    | .freeSpace _ => some (.ok free)
    | .readLocation .. | .writeLocation .. => some (.ok ⟨[{}]⟩)
    | _ => none
  attach := attach

/-- A stack of root's with two drivers from plugins. One leaves a note on the board, and the other, which
has more space, does not serve where it finds that note. -/
def touchy : OnSite :=
  let desk := desk .root shelf (Table.ofList [("a", { name := "a", type := "touchy" }),
    ("b", { name := "b", type := "loud" })]) .initial
  let loud := spacious "loud" 1 fun board => .ok (board.insert "loud" .null)
  let touchy := spacious "touchy" 2 fun board =>
    if board.contains "loud" then .error (.unknownPoolType "touchy") else .ok board
  let plugin (driver : PlainDriver) : Factory :=
    .custom { plugin := driver.implId, poolType := driver.type, driver := .ok driver }
  { desk with site := { desk.site with manager := { desk.site.manager with
    factories := desk.site.manager.factories ++ [(3, plugin loud), (4, plugin touchy)]
    registrations := desk.site.manager.registrations ++ [(.driver, 3), (.driver, 4)]
    nextFactory := 5 } } }

/-- With the read the file is written to one pool, and without it to the other: under round robin since the
read takes a turn, and by free space where a driver that is made for the read leaves a note for another. -/
theorem reads_move_writes :
    placed (withReads readFirst (tied .roundRobin)) = ["b"] ∧
      placed (withoutReads readFirst (tied .roundRobin)) = ["a"] ∧
      touchy.site.manager.placement.policy = .freeSpace ∧
      placed (withReads readFirst touchy) = ["b"] ∧ placed (withoutReads readFirst touchy) = ["a"] :=
  ⟨by decide +kernel, by decide +kernel, rfl, by decide +kernel, by decide +kernel⟩

end Call

/-- The drivers of the library leave no notes: whatever has been done on a site of a manager that was given
any settings, the drivers that its stacks make are discreet. -/
theorem Workshop.discreet_run (settings : List Setting) (host : Host) (operations : List Operation)
    {w : Workshop} (ran : (run operations { site := ⟨(Setting.run settings .initial).2, host⟩ }).2 = w)
    {i : Nat} {stack : Stack} (there : w.stackAt i = some stack) : (⟨stack, w.site⟩ : OnSite).Discreet := by
  have equipped := equipped_run settings host operations
  rw [ran] at equipped
  exact (OnSite.diskOnly_of_equipped equipped.pairs (equipped.stack i stack there)).discreet

end Stowage
