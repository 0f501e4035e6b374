import Stowage.Proofs.Agreement
import Stowage.Proofs.Effects
import Stowage.Proofs.ProfiledSessions
import Stowage.Proofs.SiteFrames

/-! Stacks that differ in their drivers. A stack keeps the drivers that it was asked for and makes others in
the same way, so that it does not matter which of them it has already, as long as none of them leaves a note
for others when it is made. Of two stacks that differ in nothing else, no request can tell which is which. -/
namespace Stowage

namespace OnSite

/-- The drivers that the stack would make now leave the board as it is. -/
def Quiet (s : OnSite) : Prop :=
  ∀ type node board, StackM.makeDriver s.site.manager s.stack type = .ok (node, board) →
    board = s.stack.board

theorem Discreet.quiet {s : OnSite} (discreet : s.Discreet) : s.Quiet :=
  fun _ _ _ made => StackM.board_of_makeDriver discreet made

/-- The second stack is the first with other drivers, which for every type are the ones that the first has
or would make. The sites are the same, with this policy, and new drivers leave the board as it is. -/
structure Restocked (policy : PlacementPolicy) (s t : OnSite) : Prop where
  quiet : s.Quiet
  policy : s.site.manager.placement.policy = policy
  site : t.site = s.site
  stack : ∃ drivers, t.stack = { s.stack with drivers }
  drivers (type : String) : t.driverFor type = s.driverFor type

/-- Drivers are made, and they are the ones that would have been made before. -/
structure Stocks (s t : OnSite) : Prop where
  stack : s.Quiet → ∃ drivers, t.stack = { s.stack with drivers }
  quiet : s.Quiet → t.Quiet
  drivers : s.Quiet → ∀ type, t.driverFor type = s.driverFor type

instance : Action.Frame Stocks where
  refl s := ⟨fun _ => ⟨_, rfl⟩, id, fun _ _ => rfl⟩
  trans first second := by
    refine ⟨fun quiet => ?_, second.quiet ∘ first.quiet, fun quiet type => ?_⟩
    · obtain ⟨drivers, here⟩ := first.stack quiet
      obtain ⟨later, there⟩ := second.stack (first.quiet quiet)
      exact ⟨later, by rw [there, here]⟩
    · exact (second.drivers (first.quiet quiet) type).trans (first.drivers quiet type)

variable {s t u v : OnSite} {policy : PlacementPolicy}

theorem Restocked.refl (quiet : s.Quiet) : Restocked s.site.manager.placement.policy s s :=
  ⟨quiet, rfl, rfl, ⟨_, rfl⟩, fun _ => rfl⟩

theorem Restocked.quiet_right (related : Restocked policy s t) : t.Quiet := by
  obtain ⟨drivers, stack⟩ := related.stack
  unfold Quiet
  rw [related.site, stack]
  exact related.quiet

/-- Where both stacks only make drivers, and the sites stay the same, the one stack is still the other with
other drivers. -/
theorem Restocked.stocks (related : Restocked policy s t) (here : Stocks s u) (there : Stocks t v)
    (same : u.site.manager.placement.policy = policy) (site : v.site = u.site) : Restocked policy u v := by
  have left := here.stack related.quiet
  have right := there.stack related.quiet_right
  refine ⟨here.quiet related.quiet, same, site, ?_, fun type => ?_⟩
  · obtain ⟨before, stack⟩ := related.stack
    obtain ⟨made, stackHere⟩ := left
    obtain ⟨drivers, stackThere⟩ := right
    exact ⟨drivers, by rw [stackThere, stack, stackHere]⟩
  · rw [there.drivers related.quiet_right, related.drivers, here.drivers related.quiet]

end OnSite

namespace StackM

open OnSite

theorem stocks_driver (type : String) : Action.Keeps Stocks (driver type) := by
  apply keeps_driver_of_made
  intro s node board made
  refine ⟨fun quiet => ?_, fun quiet => ?_, fun quiet => ?_⟩
  · obtain rfl := quiet _ _ _ made
    exact ⟨_, rfl⟩
  · obtain rfl := quiet _ _ _ made
    exact quiet
  · obtain rfl := quiet _ _ _ made
    exact driverFor_of_kept made

end StackM

namespace Resolution

open OnSite StackM

theorem stocks_select (free : List Nat) : Action.Keeps Stocks (select free) :=
  keeps_select_of_turned (fun _ _ => ⟨fun _ => ⟨_, rfl⟩, id, fun _ _ => rfl⟩) free

/-- A read makes drivers, and they are the ones that would have been made before. -/
theorem stocks_whereToRead (path : String) : Action.Keeps Stocks (whereToRead path) :=
  keeps_whereToRead stocks_driver stocks_select path

end Resolution

/-! ### What other drivers are to later calls -/

/-- The site would make the same drivers, and choose by the same policy. -/
structure Site.Provides (a b : Site) : Prop where
  drivers (type : String) : b.manager.createDriver type = a.manager.createDriver type
  policy : b.manager.placement.policy = a.manager.placement.policy

instance : Action.Frame Site.Provides where
  refl _ := ⟨fun _ => rfl, rfl⟩
  trans first second := ⟨fun type => (second.drivers type).trans (first.drivers type),
    second.policy.trans first.policy⟩

theorem Site.allows_provides : Site.Allows Site.Provides where
  tables site id tables := ⟨site.manager.createDriver_setMemory id tables, rfl⟩
  machine _ _ := ⟨fun _ => rfl, rfl⟩

namespace OnSite

/-- The drivers are as they were, and so is all that new ones depend on. -/
structure Provides (s t : OnSite) : Prop where
  site : s.site.Provides t.site
  drivers : t.stack.drivers = s.stack.drivers
  board : t.stack.board = s.stack.board
  security : t.stack.security = s.stack.security

instance : Action.Frame Provides where
  refl s := ⟨Action.Frame.refl s.site, rfl, rfl, rfl⟩
  trans first second := ⟨Action.Frame.trans first.site second.site, second.drivers.trans first.drivers,
    second.board.trans first.board, second.security.trans first.security⟩

/-- The stack with these drivers in the place of its own. -/
def withDrivers (drivers : List (String × DriverNode)) (s : OnSite) : OnSite :=
  { s with stack := { s.stack with drivers } }

variable {s t : OnSite} {policy : PlacementPolicy}

theorem Provides.of_site {site : Site} (provides : s.site.Provides site) : s.Provides { s with site } :=
  ⟨provides, rfl, rfl, rfl⟩

theorem Provides.makeDriver (provides : s.Provides t) (type : String) :
    StackM.makeDriver t.site.manager t.stack type = StackM.makeDriver s.site.manager s.stack type := by
  unfold StackM.makeDriver
  rw [provides.site.drivers, provides.board, provides.security]

theorem Provides.quiet (provides : s.Provides t) (quiet : s.Quiet) : t.Quiet := by
  intro type node board made
  rw [provides.makeDriver] at made
  rw [provides.board]
  exact quiet type node board made

theorem Provides.withDrivers (provides : s.Provides t) (drivers : List (String × DriverNode)) :
    (s.withDrivers drivers).Provides (t.withDrivers drivers) :=
  ⟨provides.site, rfl, provides.board, provides.security⟩

theorem Provides.driverFor (provides : s.Provides t) (type : String) :
    t.driverFor type = s.driverFor type := by
  unfold OnSite.driverFor
  rw [provides.drivers, provides.makeDriver]

/-- What does not look at drivers, and keeps all that they are made from, cannot tell the stacks apart. -/
theorem agrees_of_mirrors {α : Type} {act : StackM α}
    (mirrors : ∀ drivers, Action.Mirrors (withDrivers drivers) act act)
    (keeps : Action.Keeps Provides act) : Action.Agrees (Restocked policy) act act := by
  rintro s t related
  obtain ⟨drivers, stack⟩ := related.stack
  obtain rfl : t = s.withDrivers drivers := by
    obtain ⟨stack', site'⟩ := t
    cases stack
    cases related.site
    rfl
  have kept := keeps s
  rw [mirrors drivers s]
  refine ⟨rfl, kept.quiet related.quiet, kept.site.policy.trans related.policy, rfl, ⟨drivers, rfl⟩,
    fun type => ?_⟩
  rw [(kept.withDrivers drivers).driverFor, related.drivers, kept.driverFor]

end OnSite

namespace StackM

open OnSite

variable {policy : PlacementPolicy}

theorem provides_catalog (r : CatalogRequest) : Action.Keeps Provides (catalog r) := by
  apply keeps_catalog_of_wired
  intro s chain _
  have kept : Action.Keeps (InvImage Site.Provides Browsing.store)
      (Site.catalogHandler s.stack.excluded chain r) :=
    Site.allows_provides.catalog id (fun _ => Action.Frame.refl _) s.stack.excluded chain r
  exact ⟨kept ⟨chain.base.session, s.site⟩, rfl, rfl, rfl⟩

theorem mirrors_withDrivers_catalog (drivers : List (String × DriverNode)) (r : CatalogRequest) :
    Action.Mirrors (withDrivers drivers) (catalog r) (catalog r) := by
  intro s
  cases wired : s.stack.catalog with
  | none =>
    rw [Action.outcome_of_error (catalog_of_unwired wired r),
      Action.outcome_of_error (catalog_of_unwired (s := s.withDrivers drivers) wired r)]
  | some chain =>
    rw [outcome_catalog wired, outcome_catalog (s := s.withDrivers drivers) wired]
    rfl

theorem mirrors_withDrivers_onSite (drivers : List (String × DriverNode)) {α : Type} (act : Action Site α) :
    Action.Mirrors (withDrivers drivers) (onSite act) (onSite act) :=
  mirrors_onSite act (fun _ => rfl) fun _ _ => rfl

theorem agrees_catalog (r : CatalogRequest) :
    Action.Agrees (Restocked policy) (catalog r) (catalog r) :=
  agrees_of_mirrors (mirrors_withDrivers_catalog · r) (provides_catalog r)

/-- What is asked of a chain over tables. -/
theorem agrees_chain {α τ : Type} {kind : ContractKind} {part : Stack → Option τ} {ask : τ → Action Site α}
    (blind : ∀ drivers s, part { s with drivers } = part s)
    (keeps : ∀ chain, Action.Keeps Site.Provides (ask chain)) :
    Action.Agrees (Restocked policy) (need kind part >>= fun chain => onSite (ask chain))
      (need kind part >>= fun chain => onSite (ask chain)) := by
  refine agrees_of_mirrors (fun drivers => ?_) ?_
  · have seen (s : OnSite) : part (s.withDrivers drivers).stack = (part s.stack).map id := by
      rw [Option.map_id_apply]
      exact blind drivers s.stack
    exact mirrors_need_bind seen fun chain => mirrors_withDrivers_onSite drivers _
  · exact (Action.reads_query _).keeps.bind fun chain => keeps_onSite Provides.of_site (keeps chain)

theorem agrees_pools (r : PoolsRequest) : Action.Agrees (Restocked policy) (pools r) (pools r) :=
  agrees_chain (fun _ _ => rfl) fun chain => Site.allows_provides.pools chain r

theorem agrees_askDriver (node : DriverNode) (r : DriverRequest) :
    Action.Agrees (Restocked policy) (askDriver node r) (askDriver node r) :=
  agrees_of_mirrors (mirrors_withDrivers_onSite · _)
    (keeps_askDriver Provides.of_site Site.allows_provides node r)

/-- A change of the stack that neither sees nor touches drivers and what they are made from. -/
theorem agrees_onStack {change : Stack → Stack}
    (blind : ∀ drivers s, change { s with drivers } = { change s with drivers })
    (provides : ∀ s site, Provides ⟨s, site⟩ ⟨change s, site⟩) :
    Action.Agrees (Restocked policy) (onStack (modify change)) (onStack (modify change)) := by
  refine agrees_of_mirrors (fun drivers s => ?_) fun s => provides s.stack s.site
  exact congrArg (fun stack => (Except.ok (), (⟨stack, s.site⟩ : OnSite))) (blind drivers s.stack)

/-- Whether a driver is kept or made, it is the same. -/
theorem agrees_driver (type : String) : Action.Agrees (Restocked policy) (driver type) (driver type) := by
  intro s t related
  refine ⟨?_, related.stocks (stocks_driver type s) (stocks_driver type t) ?_ ?_⟩
  · rw [driver_outcome, driver_outcome, related.drivers]
  · rw [sameSite_driver type s, related.policy]
  · rw [sameSite_driver type t, sameSite_driver type s, related.site]

end StackM

namespace Resolution

open OnSite StackM

variable {policy : PlacementPolicy}

theorem agrees_select (free : List Nat) : Action.Agrees (Restocked policy) (select free) (select free) := by
  refine agrees_of_mirrors (fun _ _ => rfl) (keeps_select_of_turned (fun s turn => ?_) free)
  exact ⟨⟨fun _ => rfl, rfl⟩, rfl, rfl, rfl⟩

/-- The resolution cannot tell stacks apart that have the same drivers to use. -/
theorem ignored_restocked : Ignored (Restocked policy) where
  excluded related := by
    obtain ⟨drivers, stack⟩ := related.stack
    rw [stack]
  wired related := by
    obtain ⟨drivers, stack⟩ := related.stack
    rw [stack]
  directory := agrees_catalog .workingDir
  pools := agrees_pools
  driver := agrees_driver
  asks := agrees_askDriver
  turns := agrees_select
  catalog := agrees_catalog
  begins := agrees_onStack (fun _ _ => rfl) fun _ _ => ⟨Action.Frame.refl _, rfl, rfl, rfl⟩
  excludes _ := agrees_onStack (fun _ _ => rfl) fun _ _ => ⟨Action.Frame.refl _, rfl, rfl, rfl⟩

end Resolution

namespace StackRequest

open OnSite StackM

/-- The request changes neither the identity that drivers are made under nor the board. -/
def Steady : StackRequest → Prop
  | .setSecurity _ | .setCredentials _ | .onBoard _ => False
  | _ => True

/-- Steady requests cannot tell stacks apart that have the same drivers to use. -/
theorem agrees_act {policy : PlacementPolicy} {r : StackRequest} (steady : r.Steady) :
    Action.Agrees (Restocked policy) r.act r.act := by
  have ignored : Resolution.Ignored (Restocked policy) := Resolution.ignored_restocked
  cases r with
  | setSecurity | setCredentials | onBoard => exact steady.elim
  | security =>
    refine Action.agrees_query fun s t related => ?_
    obtain ⟨drivers, stack⟩ := related.stack
    rw [stack]
    rfl
  | excluded | board =>
    refine Action.agrees_query fun s t related => ?_
    obtain ⟨drivers, stack⟩ := related.stack
    rw [stack]
  | beginOperation => exact ignored.begins
  | exclude id => exact ignored.excludes id
  | accounts r => exact agrees_chain (fun _ _ => rfl) fun chain => Site.allows_provides.accounts chain r
  | inode r => exact agrees_chain (fun _ _ => rfl) fun chain => Site.allows_provides.inode chain r
  | catalog r => exact agrees_catalog r
  | pools r => exact agrees_pools r
  | driver type r => exact (agrees_driver type).bind fun node => agrees_askDriver node r
  | whereToRead path => exact ignored.whereToRead path
  | readWithRetries path attempt start => exact ignored.readWithRetries path attempt start
  | whereToWrite path => exact ignored.whereToWrite path
  | doneWriting location size => exact ignored.doneWriting location size
  | cancelWrite location => exact ignored.cancelWrite location
  | removeReplica path row => exact ignored.removeReplica path row

end StackRequest

end Stowage
