import Stowage.Proofs.ProfiledSettings
import Stowage.Proofs.UnprofiledStacks

/-! Sessions with and without profilers. On a site stacks are made, told an identity and asked about
files, and bytes go through the files that they open. Each step does to what there is without profilers
what it does anyway. So a site whose manager was given more profilers, wherever in its settings, answers
every sequence of steps alike, and is left alike but for the profilers and the numbers of factories. -/
namespace Stowage

/-! ### Stacks at work -/

/-- What a stack is told or asked. -/
inductive StackRequest : Type 1 where
  | setSecurity (ctx : SecurityContext)
  | setCredentials (credentials : Credentials)
  | security
  | beginOperation
  | exclude (id : Int)
  | excluded
  | board
  | onBoard (change : Board → Board)
  | accounts (r : AccountsRequest)
  | inode (r : InodeRequest)
  | catalog (r : CatalogRequest)
  | pools (r : PoolsRequest)
  | driver (type : String) (r : DriverRequest)
  | whereToRead (path : String)
  | readWithRetries {α τ : Type} (path : String) (attempt : Location → τ → Except Error α × τ)
      (start : τ)
  | whereToWrite (path : String)
  | doneWriting (location : Location) (size : Nat)
  | cancelWrite (location : Location)
  | removeReplica (path : String) (row : Replica)

namespace StackRequest

abbrev Answer : StackRequest → Type
  | .security => SecurityContext
  | .excluded => Exclusions
  | .board => Board
  | .accounts r => r.Answer
  | .inode r => r.Answer
  | .catalog r => r.Answer
  | .pools r => r.Answer
  | .driver _ r => r.Answer
  | .whereToRead _ | .whereToWrite _ => Location
  | @readWithRetries α τ _ _ _ => Except Error α × τ
  | .setSecurity _ | .setCredentials _ | .beginOperation | .exclude _ | .onBoard _
  | .doneWriting _ _ | .cancelWrite _ | .removeReplica _ _ => Unit

def act : (r : StackRequest) → StackM r.Answer
  | .setSecurity ctx => StackM.setSecurity ctx
  | .setCredentials credentials => StackM.setCredentials credentials
  | .security => Action.query fun s => s.stack.securityContext
  | .beginOperation => StackM.onStack (modify Stack.beginOperation)
  | .exclude id => Resolution.exclude id
  | .excluded => Action.query fun s => .ok s.stack.excluded
  | .board => Action.query fun s => .ok s.stack.board
  | .onBoard change => StackM.onStack (modify fun s => { s with board := change s.board })
  | .accounts r => StackM.accounts r
  | .inode r => StackM.inode r
  | .catalog r => StackM.catalog r
  | .pools r => StackM.pools r
  | .driver type r => do StackM.askDriver (← StackM.driver type) r
  | .whereToRead path => Resolution.whereToRead path
  | .readWithRetries path attempt start => Resolution.readWithRetries path attempt start
  | .whereToWrite path => Resolution.whereToWrite path
  | .doneWriting location size => Resolution.doneWriting location size
  | .cancelWrite location => Resolution.cancelWrite location
  | .removeReplica path row => Resolution.removeReplica path row

/-- A stack and its site answer, and do, without profilers what they do with them. -/
theorem mirrors_act (ρ : Renumbering) (r : StackRequest) :
    Action.Mirrors (OnSite.unprofiled ρ) r.act r.act := by
  have ignores : Resolution.Ignores (OnSite.unprofiled ρ) := Resolution.ignores_unprofiled
  cases r with
  | setSecurity ctx => exact StackM.unprofiled_setSecurity ctx
  | setCredentials credentials => exact StackM.unprofiled_setCredentials credentials
  | security | excluded | board => exact Action.mirrors_query fun _ => rfl
  | beginOperation => exact ignores.begins
  | exclude id => exact ignores.excludes id
  | onBoard change => exact StackM.unprofiled_onStack (Action.mirrors_modify fun _ => rfl)
  | accounts r => exact StackM.unprofiled_accounts r
  | inode r => exact StackM.unprofiled_inode r
  | catalog r => exact StackM.unprofiled_catalog r
  | pools r => exact StackM.unprofiled_pools r
  | driver type r => exact (ignores.driver type).bind fun node => ignores.asks node r
  | whereToRead path => exact ignores.whereToRead path
  | readWithRetries path attempt start => exact ignores.readWithRetries path attempt start
  | whereToWrite path => exact ignores.whereToWrite path
  | doneWriting location size => exact ignores.doneWriting location size
  | cancelWrite location => exact ignores.cancelWrite location
  | removeReplica path row => exact ignores.removeReplica path row

end StackRequest

/-! ### Workshops -/

/-- A site with the stacks that were made on it and the files that they opened. -/
structure Workshop where
  site : Site
  stackAt : Nat → Option Stack := fun _ => none
  fileAt : Nat → Option OpenFile := fun _ => none

/-- A step of a session. -/
inductive Operation : Type 1 where
  /-- Makes a stack in the place of another one. If that fails there is none. -/
  | create (stack : Nat)
  | drop (stack : Nat)
  | ask (stack : Nat) (r : StackRequest)
  /-- Opens a file, and keeps it open if that succeeds. -/
  | open_ (stack handle : Nat) (file : String) (flags : OpenFlags) (attrs : Attributes)
  | transfer (handle : Nat) (t : Transfer)
  /-- Time passes, and others use the machine. -/
  | elsewhere (change : Host → Host)

namespace Operation

/-- The answer to a step, if there is the stack or the open file that it is for. A file that is opened
answers with its handle. -/
abbrev Answer : Operation → Type
  | .create _ => Except Error Unit
  | .drop _ | .elsewhere _ => Unit
  | .ask _ r => Option (Except Error r.Answer)
  | .open_ .. => Option (Except Error Handle)
  | .transfer _ t => Option (Except Error t.Answer)

end Operation

namespace Workshop

def putStack (i : Nat) (stack : Option Stack) (w : Workshop) : Workshop :=
  { w with stackAt := fun j => if j = i then stack else w.stackAt j }

def putFile (i : Nat) (opened : OpenFile) (w : Workshop) : Workshop :=
  { w with fileAt := fun j => if j = i then some opened else w.fileAt j }

/-- Lets a stack do something, if there is one. -/
def withStack {α : Type} (i : Nat) (act : StackM α) (w : Workshop) :
    Option (Except Error α) × Workshop :=
  match w.stackAt i with
  | none => (none, w)
  | some stack =>
    let (answer, after) := act.outcome ⟨stack, w.site⟩
    (some answer, { w with site := after.site }.putStack i (some after.stack))

/-- What a step answers, and what it leaves. -/
def step (w : Workshop) : (o : Operation) → o.Answer × Workshop
  | .create i =>
    match Stack.create w.site.manager with
    | .ok stack => (.ok (), w.putStack i (some stack))
    | .error e => (.error e, w.putStack i none)
  | .drop i => ((), w.putStack i none)
  | .ask i r => w.withStack i r.act
  | .open_ i handle file flags attrs =>
    match w.withStack i (StackM.io (.open_ file flags attrs)) with
    | (some (.ok opened), after) => (some (.ok opened), after.putFile handle opened)
    | (some (.error e), after) => (some (.error e), after)
    | (none, after) => (none, after)
  | .transfer i t =>
    match w.fileAt i with
    | none => (none, w)
    | some opened =>
      let (answer, handle, files) := (opened.act t).outcome (opened.handle, w.site.host.files)
      (some answer, { w with site := { w.site with host := { w.site.host with files } } }.putFile i
        { opened with handle })
  | .elsewhere change => ((), { w with site := { w.site with host := change w.site.host } })

/-- The steps with what they answered, and the workshop in the end. -/
def run : List Operation → Workshop → List ((o : Operation) × o.Answer) × Workshop
  | [], w => ([], w)
  | o :: rest, w =>
    let (answer, after) := w.step o
    let (answers, last) := run rest after
    (⟨o, answer⟩ :: answers, last)

/-! ### Workshops without profilers -/

/-- The workshop without profilers, neither in its stacks nor around its open files. -/
def unprofiled (ρ : Renumbering) (w : Workshop) : Workshop where
  site := w.site.unprofiled ρ
  stackAt i := (w.stackAt i).map (Stack.unprofiled ρ)
  fileAt i := (w.fileAt i).map OpenFile.unprofiled

variable {ρ : Renumbering} {w : Workshop}

theorem unprofiled_putStack (i : Nat) (stack : Option Stack) (w : Workshop) :
    (w.putStack i stack).unprofiled ρ =
      (w.unprofiled ρ).putStack i (stack.map (Stack.unprofiled ρ)) := by
  unfold putStack unprofiled
  congr 1
  funext j
  by_cases here : j = i <;> simp [here]

theorem unprofiled_putFile (i : Nat) (opened : OpenFile) (w : Workshop) :
    (w.putFile i opened).unprofiled ρ = (w.unprofiled ρ).putFile i opened.unprofiled := by
  unfold putFile unprofiled
  congr 1
  funext j
  by_cases here : j = i <;> simp [here]

/-- What cannot fail at the end changes the answer of a stack alone. -/
theorem withStack_bind_pure {α β : Type} (i : Nat) (act : StackM α) (f : α → β) (w : Workshop) :
    w.withStack i (act >>= fun a => pure (f a)) =
      ((w.withStack i act).1.map (Except.map f), (w.withStack i act).2) := by
  unfold withStack
  cases w.stackAt i with
  | none => rfl
  | some stack =>
    dsimp only
    rw [Action.outcome_bind_pure]
    rfl

/-- What a stack does is done without profilers as with them. -/
theorem withStack_unprofiled {α : Type} {act image : StackM α}
    (mirrors : Action.Mirrors (OnSite.unprofiled ρ) act image) (i : Nat) (w : Workshop) :
    (w.unprofiled ρ).withStack i image =
      ((w.withStack i act).1, (w.withStack i act).2.unprofiled ρ) := by
  unfold withStack
  cases there : w.stackAt i with
  | none => simp [unprofiled, there]
  | some stack =>
    have found : (w.unprofiled ρ).stackAt i = some (stack.unprofiled ρ) := by
      simp [unprofiled, there]
    have same : image.outcome ⟨stack.unprofiled ρ, (w.unprofiled ρ).site⟩ = _ :=
      mirrors ⟨stack, w.site⟩
    rw [found]
    dsimp only
    rw [same, unprofiled_putStack]
    rfl

/-- A step does without profilers what it does with them. -/
theorem step_unprofiled (w : Workshop) (o : Operation) :
    (w.unprofiled ρ).step o = ((w.step o).1, (w.step o).2.unprofiled ρ) := by
  cases o with
  | create i =>
    have made : Stack.create (w.unprofiled ρ).site.manager =
        (Stack.create w.site.manager).map (Stack.unprofiled ρ) :=
      Stack.create_unprofiled w.site.manager
    simp only [step, made]
    cases Stack.create w.site.manager <;> simp [Except.map, unprofiled_putStack]
  | drop i => simp [step, unprofiled_putStack]
  | ask i r => exact withStack_unprofiled (r.mirrors_act ρ) i w
  | open_ i handle file flags attrs =>
    have opens := withStack_unprofiled (ρ := ρ) (StackM.unprofiled_open file flags attrs) i w
    rw [withStack_bind_pure] at opens
    simp only [step, opens]
    rcases w.withStack i (StackM.io (.open_ file flags attrs)) with ⟨_ | _ | opened, after⟩
    · rfl
    · rfl
    · simp only [Option.map_some, Except.map, unprofiled_putFile]
      rfl
  | transfer i t =>
    have kept : (w.unprofiled ρ).fileAt i = (w.fileAt i).map OpenFile.unprofiled := rfl
    simp only [step, kept]
    cases w.fileAt i with
    | none => rfl
    | some opened =>
      simp only [Option.map_some, OpenFile.act_eq, unprofiled_putFile]
      rfl
  | elsewhere change => rfl

theorem run_unprofiled (operations : List Operation) (w : Workshop) :
    run operations (w.unprofiled ρ) =
      ((run operations w).1, (run operations w).2.unprofiled ρ) := by
  induction operations generalizing w with
  | nil => rfl
  | cons o rest ih =>
    unfold run
    rw [step_unprofiled]
    dsimp only
    rw [ih]

/-- Workshops that are alike without profilers give the same answers and stay alike. -/
theorem run_of_same {σ : Renumbering} {v : Workshop} (same : w.unprofiled ρ = v.unprofiled σ)
    (operations : List Operation) :
    (run operations w).1 = (run operations v).1 ∧
      (run operations w).2.unprofiled ρ = (run operations v).2.unprofiled σ := by
  have left := run_unprofiled (ρ := ρ) operations w
  rw [same, run_unprofiled] at left
  obtain ⟨answers, last⟩ := Prod.mk.inj left
  exact ⟨answers.symm, last.symm⟩

end Workshop

/-- However many profilers are loaded, and wherever in the settings of a manager, the settings are
answered alike, and so is every sequence of steps on a site of the manager. What is left without the
profilers is the same, but for the numbers of the factories. -/
theorem profilers_are_invisible {plain padded : List Setting}
    (adds : Padded (.load "profiler") plain padded) (spares : ∀ setting ∈ plain, setting.Spares) :
    Padded (.load "profiler", .ok ()) (Setting.run plain .initial).1
        (Setting.run padded .initial).1 ∧
      ∃ ρ : Renumbering, ∀ (host : Host) (operations : List Operation),
        (Workshop.run operations { site := ⟨(Setting.run padded .initial).2, host⟩ }).1 =
          (Workshop.run operations { site := ⟨(Setting.run plain .initial).2, host⟩ }).1 ∧
        (Workshop.run operations { site := ⟨(Setting.run padded .initial).2, host⟩ }).2.unprofiled ρ =
          (Workshop.run operations { site := ⟨(Setting.run plain .initial).2, host⟩ }).2.unprofiled
            (Equiv.refl FactoryId) := by
  have alike : Manager.Matches (Equiv.refl FactoryId) .initial .initial :=
    ⟨Manager.orderly_initial, Manager.orderly_initial, rfl⟩
  obtain ⟨answers, ρ, last⟩ := alike.run adds spares
  refine ⟨answers, ρ, fun host operations => Workshop.run_of_same ?_ operations⟩
  exact congrArg (fun manager => ({ site := ⟨manager, host⟩ } : Workshop)) last.same

/-- A manager for a namespace in memory. -/
def Setting.frugal : List Setting :=
  [.load "memory", .load "librarian", .option "MemoryUser" "alice:1001:atlas"]

/-- The same with a profiler that is loaded first, and another one that is loaded last. -/
def Setting.measured : List Setting :=
  [.load "profiler", .load "memory", .load "librarian", .option "MemoryUser" "alice:1001:atlas",
    .load "profiler"]

/-- A directory is made and looked at. -/
def Workshop.visit : List Operation :=
  [.create 0, .ask 0 (.setSecurity .root), .ask 0 (.catalog (.makeDir "/a" 0o755)),
    .ask 0 (.catalog (.stat "/a"))]

theorem visit_through_profilers :
    Padded (.load "profiler") Setting.frugal Setting.measured ∧
      (∀ setting ∈ Setting.frugal, setting.Spares) ∧
      (Workshop.run Workshop.visit { site := ⟨(Setting.run Setting.measured .initial).2, {}⟩ }).1 =
        (Workshop.run Workshop.visit { site := ⟨(Setting.run Setting.frugal .initial).2, {}⟩ }).1 := by
  have adds : Padded (.load "profiler") Setting.frugal Setting.measured :=
    .extra (.same _ (.same _ (.same _ (.extra .nil))))
  have spares : ∀ setting ∈ Setting.frugal, setting.Spares := by
    simp [Setting.frugal, Setting.Spares]
  obtain ⟨-, ρ, alike⟩ := profilers_are_invisible adds spares
  exact ⟨adds, spares, (alike {} Workshop.visit).1⟩

end Stowage
