import Stowage.Proofs.DiskFactories
import Stowage.Proofs.Effects
import Stowage.Proofs.Identities
import Stowage.Proofs.ProfiledSessions
import Stowage.Proofs.ReadChoice
import Stowage.Proofs.SiteFrames

/-! One set of token settings for a site. What stacks do changes tables, files and the turn of the placement
policy, none of which counts when a driver for disk pools is made. So the drivers and the nodes for local
files of a site work with the same settings, whichever stack they belong to and whenever they are made, and
each of them works under the identity of its stack. -/
namespace Stowage

namespace Manager

/-- The managers make the same drivers, and have the same factories registered. -/
structure Equips (m n : Manager) : Prop where
  drivers : ∀ type, n.createDriver type = m.createDriver type
  rosters : ∀ kind, n.roster kind = m.roster kind

instance : Action.Frame Equips where
  refl _ := ⟨fun _ => rfl, fun _ => rfl⟩
  trans first second := ⟨fun type => (second.drivers type).trans (first.drivers type),
    fun kind => (second.rosters kind).trans (first.rosters kind)⟩

variable {m n : Manager}

theorem equips_setMemory (m : Manager) (id : FactoryId) (tables : MemoryTables) :
    m.Equips (m.setMemory id tables) :=
  ⟨m.createDriver_setMemory id tables, m.roster_setMemory id tables⟩

theorem Equips.gives (equips : m.Equips n) {settings : TokenSettings} (gives : m.Gives settings) :
    n.Gives settings :=
  (equips.drivers _).trans gives

end Manager

namespace Site

/-- The managers of the sites make the same drivers. -/
abbrev Equips : Site → Site → Prop :=
  InvImage Manager.Equips Site.manager

theorem allows_equips : Allows Equips where
  tables site id tables := Manager.equips_setMemory site.manager id tables
  machine site _ := Action.Frame.refl site.manager

/-- The session keeps its identity, and the site beside it its drivers. -/
structure EquipsSession (b c : Browsing Site) : Prop where
  security : c.session.security = b.session.security
  site : Equips b.store c.store

instance : Action.Frame EquipsSession where
  refl b := ⟨rfl, Action.Frame.refl b.store⟩
  trans first second :=
    ⟨second.security.trans first.security, Action.Frame.trans first.site second.site⟩

theorem equips_catalogHandler (excluded : Exclusions) (chain : Chain CatalogNode) (r : CatalogRequest) :
    Action.Keeps EquipsSession (catalogHandler excluded chain r) :=
  allows_equips.catalog (fun alike => ⟨rfl, alike⟩) (fun same => ⟨same, Action.Frame.refl _⟩) excluded
    chain r

end Site

/-! ### Stacks -/

def DriverNode.settings? : DriverNode → Option TokenSettings
  | .disk driver => some driver.settings
  | .plain _ => none

def IoNode.settings? : IoNode → Option TokenSettings
  | .localFiles node => some node.settings
  | .plain _ => none

namespace Stack

/-- The settings that the drivers work with, by the pool types that they were made for. -/
def driverSettings (s : Stack) : List (String × Option TokenSettings) :=
  s.drivers.map fun (type, driver) => (type, driver.settings?)

/-- The settings that the node for local files works with, if there is one. -/
def fileSettings? (s : Stack) : Option TokenSettings :=
  s.io.bind fun chain => chain.base.settings?

/-- The stack holds one identity in all its seats once it has one, its drivers are for disk pools, and they
and the node for local files work with the settings that the manager gives. -/
structure Equipped (m : Manager) (s : Stack) : Prop where
  settled : s.Settled
  drivers : ∀ pair ∈ s.driverSettings,
    pair.1 = DiskDriver.poolType ∧ ∃ settings, pair.2 = some settings ∧ m.Gives settings
  files : ∀ settings, s.fileSettings? = some settings → m.Gives settings

variable {m n : Manager} {s t : Stack}

/-- The settings are as they were. -/
structure SameSettings (s t : Stack) : Prop where
  drivers : t.driverSettings = s.driverSettings
  files : t.fileSettings? = s.fileSettings?

instance : Action.Frame SameSettings where
  refl _ := ⟨rfl, rfl⟩
  trans first second := ⟨second.drivers.trans first.drivers, second.files.trans first.files⟩

theorem Equipped.of_same (equipped : s.Equipped m) (equips : m.Equips n) (settled : t.Settled)
    (same : s.SameSettings t) : t.Equipped n where
  settled := settled
  drivers := by
    rw [same.drivers]
    intro pair member
    obtain ⟨type, settings, held, gives⟩ := equipped.drivers pair member
    exact ⟨type, settings, held, equips.gives gives⟩
  files := by
    rw [same.files]
    exact fun settings held => equips.gives (equipped.files settings held)

theorem Equipped.of_equips (equipped : s.Equipped m) (equips : m.Equips n) : s.Equipped n :=
  equipped.of_same equips equipped.settled (Action.Frame.refl s)

theorem sameSettings_tellChain {τ : Type} {tell : SecurityContext → τ → Told τ} {ctx : SecurityContext}
    {part : Stack → Option (Chain τ)} {put : Chain τ → Stack → Stack}
    (same : ∀ chain s, part s = some chain → SameSettings s (put (chain.tell tell ctx).2 s)) :
    Action.Keeps SameSettings (tellChain tell ctx part put) := by
  intro s
  unfold tellChain
  rw [Action.outcome_ofOutcome]
  cases found : part s with
  | none => exact Action.Frame.refl s
  | some chain => exact same chain s found

/-- Being told an identity is nothing to the settings of a node. -/
theorem settings_tell_io (ctx : SecurityContext) (chain : Chain IoNode) :
    (chain.tell IoNode.tell ctx).2.base.settings? = chain.base.settings? := by
  unfold Chain.tell
  split
  · rfl
  · change (chain.base.tell ctx).2.settings? = _
    cases chain.base <;> rfl

theorem driverSettings_tellAll (ctx : SecurityContext) (drivers : List (String × DriverNode)) :
    (tellAll (fun (type, driver) => (DriverNode.tell ctx driver).map (type, ·)) drivers).2.map
        (fun pair => (pair.1, pair.2.settings?)) =
      drivers.map fun pair => (pair.1, pair.2.settings?) := by
  induction drivers with
  | nil => rfl
  | cons pair rest ih =>
    obtain ⟨type, driver⟩ := pair
    have kept : (driver.tell ctx).2.settings? = driver.settings? := by cases driver <;> rfl
    unfold tellAll
    rcases told : driver.tell ctx with ⟨e | _, after⟩
    · rw [told] at kept
      simpa [told, Told.map] using kept
    · rw [told] at kept
      simp only [told, Told.map, List.map_cons, kept]
      exact congrArg _ ih

/-- No identity changes the settings. -/
theorem sameSettings_tell (ctx : SecurityContext) : Action.Keeps SameSettings (tell ctx) := by
  refine (sameSettings_tellChain fun _ _ _ => ⟨rfl, rfl⟩).bind fun _ =>
    (sameSettings_tellChain fun _ _ _ => ⟨rfl, rfl⟩).bind fun _ =>
    (sameSettings_tellChain fun _ _ _ => ⟨rfl, rfl⟩).bind fun _ =>
    (sameSettings_tellChain fun _ _ _ => ⟨rfl, rfl⟩).bind fun _ =>
    (sameSettings_tellChain fun chain s held => ⟨rfl, ?_⟩).bind fun _ s => ?_
  · unfold fileSettings?
    rw [held]
    exact settings_tell_io ctx chain
  · unfold tellDrivers
    rw [Action.outcome_ofOutcome]
    exact ⟨driverSettings_tellAll ctx s.drivers, rfl⟩

theorem sameSettings_setSecurity (ctx : SecurityContext) :
    Action.Keeps SameSettings (setSecurity ctx) := by
  refine (sameSettings_tell ctx).attempt.bind fun told => ?_
  cases told with
  | ok u => exact fun s => ⟨rfl, rfl⟩
  | error e =>
    have looks : Action.Reads (get : Action Stack Stack) := fun s => ⟨.ok s, rfl⟩
    refine looks.keeps.bind fun _ => ?_
    dsimp only
    split
    · exact (sameSettings_tell _).attempt.bind fun _ => (Action.reads_throw _).keeps
    · exact (Action.reads_throw _).keeps

theorem files_attachSome {made : Except Error (Chain IoNode)} {found attached : Option (Chain IoNode)}
    {board after : Board} (composed : Manager.orMissing made = .ok found)
    (done : attachSome (Chain.attach IoNode.attach) board found = .ok (attached, after)) :
    ∀ chain, attached = some chain →
      ∃ inner, made = .ok inner ∧ chain.base.settings? = inner.base.settings? := by
  intro chain held
  cases found with
  | none =>
    cases done
    cases held
  | some inner =>
    obtain ⟨⟨now, notes⟩, here, same⟩ := Error.bind_eq_ok_iff.1 done
    cases same
    cases held
    obtain ⟨⟨decorators, board⟩, -, based⟩ := Error.bind_eq_ok_iff.1 here
    obtain ⟨⟨base, board⟩, attached, same⟩ := Error.bind_eq_ok_iff.1 based
    cases same
    refine ⟨inner, Manager.orMissing_eq_ok composed inner rfl, ?_⟩
    cases inside : inner.base with
    | localFiles node =>
      rw [inside] at attached
      cases attached
      rfl
    | plain node =>
      rw [inside] at attached
      obtain ⟨_, -, same⟩ := Error.bind_eq_ok_iff.1 attached
      cases same
      rfl

/-- A stack that was just made works with the settings that the manager gives. -/
theorem equipped_create (pairs : m.PairsDisks) (made : Stack.create m = .ok s) : s.Equipped m := by
  obtain ⟨fresh, -⟩ := create_untold made
  have settled : s.Settled := fun ctx held => by cases fresh.symm.trans held
  obtain ⟨accounts, -, made⟩ := Error.bind_eq_ok_iff.1 made
  obtain ⟨inode, -, made⟩ := Error.bind_eq_ok_iff.1 made
  obtain ⟨catalog, -, made⟩ := Error.bind_eq_ok_iff.1 made
  obtain ⟨pools, -, made⟩ := Error.bind_eq_ok_iff.1 made
  obtain ⟨io, ioMade, made⟩ := Error.bind_eq_ok_iff.1 made
  obtain ⟨⟨accounts', board⟩, -, made⟩ := Error.bind_eq_ok_iff.1 made
  obtain ⟨⟨inode', board⟩, -, made⟩ := Error.bind_eq_ok_iff.1 made
  obtain ⟨⟨catalog', board⟩, -, made⟩ := Error.bind_eq_ok_iff.1 made
  obtain ⟨⟨pools', board⟩, -, made⟩ := Error.bind_eq_ok_iff.1 made
  obtain ⟨⟨io', board⟩, ioIn, made⟩ := Error.bind_eq_ok_iff.1 made
  cases made
  refine ⟨settled, nofun, fun settings held => ?_⟩
  obtain ⟨chain, there, read⟩ := Option.bind_eq_some_iff.1 held
  obtain ⟨inner, composed, same⟩ := files_attachSome ioMade ioIn chain there
  rw [same] at read
  cases inside : inner.base with
  | localFiles node =>
    rw [inside] at read
    cases read
    exact pairs.gives composed inside
  | plain node =>
    rw [inside] at read
    cases read

end Stack

namespace OnSite

/-- The site makes the same drivers as before, and the stack is still equipped if it was. -/
structure Equips (s t : OnSite) : Prop where
  site : s.site.Equips t.site
  stack : s.site.manager.PairsDisks → s.stack.Equipped s.site.manager →
    t.stack.Equipped t.site.manager

variable {s t : OnSite}

instance : Action.Frame Equips where
  refl s := ⟨Action.Frame.refl s.site, fun _ equipped => equipped⟩
  trans first second := ⟨Action.Frame.trans first.site second.site, fun pairs equipped =>
    second.stack (pairs.congr first.site.rosters) (first.stack pairs equipped)⟩

/-- Where the seats of the stack, its identity and its settings stay, the stack stays equipped. -/
theorem Equips.of_same (site : s.site.Equips t.site) (security : t.stack.security = s.stack.security)
    (seats : t.stack.seats = s.stack.seats) (same : s.stack.SameSettings t.stack) : s.Equips t := by
  refine ⟨site, fun _ equipped => equipped.of_same site ?_ same⟩
  unfold Stack.Settled
  rw [security, seats]
  exact equipped.settled

/-- The drivers of an equipped stack are for disk pools. -/
theorem diskOnly_of_equipped (pairs : s.site.manager.PairsDisks)
    (equipped : s.stack.Equipped s.site.manager) : s.DiskOnly := by
  refine ⟨fun pair member => ?_, pairs.makes⟩
  obtain ⟨type, driver⟩ := pair
  obtain ⟨same, settings, held, -⟩ := equipped.drivers _ (List.mem_map_of_mem member)
  refine ⟨same, ?_⟩
  cases driver with
  | disk disk => exact ⟨disk, rfl⟩
  | plain plain => cases held

end OnSite

namespace StackM

open OnSite

/-- Where only the site of a stack changes, the stack is as equipped as before. -/
theorem equips_of_site {s : OnSite} {site : Site} (alike : s.site.Equips site) :
    s.Equips { s with site } :=
  .of_same alike rfl rfl ⟨rfl, rfl⟩

theorem equips_askDriver (node : DriverNode) (r : DriverRequest) :
    Action.Keeps Equips (askDriver node r) :=
  keeps_askDriver equips_of_site Site.allows_equips node r

theorem equips_pools (r : PoolsRequest) : Action.Keeps Equips (pools r) :=
  keeps_pools equips_of_site Site.allows_equips r

theorem equips_catalog (r : CatalogRequest) : Action.Keeps Equips (catalog r) := by
  apply keeps_catalog_of_wired
  intro s chain wired
  have kept := Site.equips_catalogHandler s.stack.excluded chain r ⟨chain.base.session, s.site⟩
  refine .of_same kept.site rfl ?_ ⟨rfl, rfl⟩
  generalize ((Site.catalogHandler s.stack.excluded chain r).outcome
    ⟨chain.base.session, s.site⟩).2 = after at kept
  have same : (chain.base.withSession after.session).seats = chain.base.seats := by
    cases base : chain.base with
    | plain node => rfl
    | builtIn below session =>
      have security := kept.security
      rw [base] at security
      exact congrArg (fun held => ({ security := held } : Seat) :: _) security
  simp [browsed, Stack.seats, Stack.chainSeats, Chain.seats, wired, same]

theorem equips_onStack {change : Stack → Stack} (security : ∀ s, (change s).security = s.security)
    (seats : ∀ s, (change s).seats = s.seats) (same : ∀ s, Stack.SameSettings s (change s)) :
    Action.Keeps Equips (onStack (modify change)) :=
  fun s => .of_same (Action.Frame.refl s.site) (security s.stack) (seats s.stack) (same s.stack)

theorem equips_setSecurity (ctx : SecurityContext) : Action.Keeps Equips (setSecurity ctx) := by
  intro s
  have after : ((setSecurity ctx).outcome s).2 =
      { s with stack := ((Stack.setSecurity ctx).outcome s.stack).2 } :=
    congrArg Prod.snd (Action.outcome_zoom _ _ _ s)
  rw [after]
  exact ⟨Action.Frame.refl s.site, fun _ equipped =>
    equipped.of_same (Action.Frame.refl _) (equipped.settled.switched ctx).settled
      (Stack.sameSettings_setSecurity ctx s.stack)⟩

theorem equips_setCredentials (credentials : Credentials) :
    Action.Keeps Equips (setCredentials credentials) :=
  (keeps_resolve (fun chain r => keeps_onSite equips_of_site (Site.allows_equips.accounts chain r))
    credentials).bind equips_setSecurity

/-- A driver that is made for a stack works with the settings that the manager gives. -/
theorem gives_makeDriver {s : OnSite} (disks : s.DiskOnly) {type : String} {node : DriverNode}
    {board : Board} (made : makeDriver s.site.manager s.stack type = .ok (node, board)) :
    ∃ settings, node.settings? = some settings ∧ s.site.manager.Gives settings := by
  obtain ⟨rfl, ⟨disk, rfl⟩, -⟩ := makeDriver_disk disks made
  refine ⟨_, rfl, ?_⟩
  obtain ⟨fresh, created, made⟩ := Error.bind_eq_ok_iff.1 made
  obtain ⟨notes, -, made⟩ := Error.bind_eq_ok_iff.1 made
  have untold := Manager.untold_createDriver created
  cases fresh with
  | plain plain =>
    cases held : s.stack.security with
    | none =>
      simp only [held] at made
      cases made
    | some ctx =>
      simp only [held] at made
      obtain ⟨_, -, same⟩ := Error.bind_eq_ok_iff.1 made
      cases same
  | disk fresh =>
    obtain ⟨settings, security⟩ := fresh
    cases untold
    cases held : s.stack.security with
    | none =>
      simp only [held] at made
      cases made
      exact created
    | some ctx =>
      simp only [held] at made
      cases made
      exact created

theorem equips_driver (type : String) : Action.Keeps Equips (driver type) := by
  apply keeps_driver_of_made
  intro s node board made
  refine ⟨Action.Frame.refl s.site, fun pairs equipped => ?_⟩
  have disks := diskOnly_of_equipped pairs equipped
  obtain ⟨settings, held, gives⟩ := gives_makeDriver disks made
  refine ⟨(Turn.Idle.driver made rfl).settled equipped.settled, ?_, equipped.files⟩
  have drivers : Stack.driverSettings { s.stack with board, drivers := s.stack.drivers ++ [(type, node)] } =
      s.stack.driverSettings ++ [(type, node.settings?)] := List.map_append
  rw [drivers]
  refine List.forall_mem_append.2 ⟨equipped.drivers, List.forall_mem_singleton.2 ?_⟩
  exact ⟨(makeDriver_disk disks made).1, settings, held, gives⟩

end StackM

namespace Resolution

open OnSite

theorem equips_select (free : List Nat) : Action.Keeps Equips (select free) :=
  keeps_select_of_turned (fun _ _ => .of_same ⟨fun _ => rfl, fun _ => rfl⟩ rfl rfl ⟨rfl, rfl⟩) free

theorem equips_exclude (id : Int) : Action.Keeps Equips (exclude id) :=
  StackM.equips_onStack (fun _ => rfl) (fun _ => rfl) fun _ => ⟨rfl, rfl⟩

end Resolution

open StackM Resolution in
/-- Whatever a stack is told or asked, it stays equipped. -/
theorem StackRequest.equips_act (r : StackRequest) : Action.Keeps OnSite.Equips r.act := by
  have begins : Action.Keeps OnSite.Equips (onStack (modify Stack.beginOperation)) :=
    equips_onStack (fun _ => rfl) (fun _ => rfl) fun _ => ⟨rfl, rfl⟩
  cases r with
  | setSecurity ctx => exact equips_setSecurity ctx
  | setCredentials credentials => exact equips_setCredentials credentials
  | security | excluded | board => exact (Action.reads_query _).keeps
  | beginOperation => exact begins
  | exclude id => exact equips_exclude id
  | onBoard change => exact equips_onStack (fun _ => rfl) (fun _ => rfl) fun _ => ⟨rfl, rfl⟩
  | accounts r => exact keeps_accounts equips_of_site Site.allows_equips r
  | inode r => exact keeps_inode equips_of_site Site.allows_equips r
  | catalog r => exact equips_catalog r
  | pools r => exact equips_pools r
  | driver type r => exact (equips_driver type).bind fun node => equips_askDriver node r
  | whereToRead path => exact keeps_whereToRead equips_driver equips_select path
  | readWithRetries path attempt start =>
    exact keeps_readWithRetries equips_driver equips_select begins equips_exclude path attempt start
  | whereToWrite path =>
    exact keeps_whereToWrite equips_driver equips_select equips_askDriver (fun _ => equips_catalog _) path
  | doneWriting location size =>
    exact keeps_doneWriting equips_driver (fun _ _ _ _ => equips_catalog _) (fun _ => equips_catalog _)
      fun _ => equips_pools _
  | cancelWrite location =>
    exact keeps_cancelWrite equips_driver equips_askDriver (fun _ => equips_catalog _) location
  | removeReplica path row =>
    exact keeps_removeReplica equips_driver equips_askDriver (fun _ => equips_catalog _) path row

/-! ### Workshops -/

namespace Workshop

variable {w v : Workshop}

/-- The manager has its factories for disk pools in pairs, and every stack is equipped. -/
structure Equipped (w : Workshop) : Prop where
  pairs : w.site.manager.PairsDisks
  stack : ∀ i s, w.stackAt i = some s → s.Equipped w.site.manager

/-- The site makes the same drivers as before, and the stacks are still equipped if they were. -/
structure Equips (w v : Workshop) : Prop where
  site : w.site.Equips v.site
  stack : w.Equipped → v.Equipped

instance : Action.Frame Equips where
  refl w := ⟨Action.Frame.refl w.site, id⟩
  trans first second := ⟨Action.Frame.trans first.site second.site, second.stack ∘ first.stack⟩

/-- Where a stack is put that is equipped if all are, all stay equipped. -/
theorem equips_putStack {site : Site} (alike : w.site.Equips site) (i : Nat) {stack : Option Stack}
    (here : w.Equipped → ∀ s, stack = some s → s.Equipped site.manager) :
    w.Equips ({ w with site }.putStack i stack) := by
  refine ⟨alike, fun equipped => ⟨equipped.pairs.congr alike.rosters, fun j s found => ?_⟩⟩
  by_cases same : j = i
  · subst same
    exact here equipped s (by simpa [putStack] using found)
  · exact (equipped.stack j s (by simpa [putStack, same] using found)).of_equips alike

theorem equips_withStack {α : Type} {act : StackM α} (keeps : Action.Keeps OnSite.Equips act) (i : Nat)
    (w : Workshop) : w.Equips (w.withStack i act).2 := by
  unfold withStack
  cases there : w.stackAt i with
  | none => exact Action.Frame.refl w
  | some stack =>
    have kept := keeps ⟨stack, w.site⟩
    refine equips_putStack kept.site i fun equipped s same => ?_
    cases same
    exact kept.stack equipped.pairs (equipped.stack i stack there)

/-- Every step leaves the stacks equipped. -/
theorem equips_step (w : Workshop) (o : Operation) : w.Equips (w.step o).2 := by
  have same : w.site.Equips w.site := Action.Frame.refl w.site
  cases o with
  | create i =>
    unfold step
    cases made : Stack.create w.site.manager with
    | ok stack =>
      refine equips_putStack same i fun equipped s held => ?_
      cases held
      exact Stack.equipped_create equipped.pairs made
    | error e => exact equips_putStack same i fun _ _ held => nomatch held
  | drop i => exact equips_putStack same i fun _ _ held => nomatch held
  | ask i r => exact equips_withStack r.equips_act i w
  | open_ i handle file flags attrs =>
    have kept := equips_withStack (StackM.keeps_io StackM.equips_of_site Site.allows_equips
      (.open_ file flags attrs)) i w
    simp only [step]
    generalize w.withStack i (StackM.io (.open_ file flags attrs)) = done at kept ⊢
    obtain ⟨_ | _ | opened, after⟩ := done
    · exact kept
    · exact kept
    · exact ⟨kept.site, fun equipped => ⟨(kept.stack equipped).pairs, (kept.stack equipped).stack⟩⟩
  | transfer i t =>
    simp only [step]
    cases w.fileAt i with
    | none => exact Action.Frame.refl w
    | some handle => exact ⟨same, fun equipped => ⟨equipped.pairs, equipped.stack⟩⟩
  | elsewhere change => exact ⟨same, fun equipped => ⟨equipped.pairs, equipped.stack⟩⟩

/-- And so does every sequence of steps. -/
theorem equips_run (operations : List Operation) (w : Workshop) : w.Equips (run operations w).2 := by
  induction operations generalizing w with
  | nil => exact Action.Frame.refl w
  | cons o rest ih => exact Action.Frame.trans (equips_step w o) (ih (w.step o).2)

/-- On a site of a manager that was given any settings, every stack is equipped at any time. -/
theorem equipped_run (settings : List Setting) (host : Host) (operations : List Operation) :
    (run operations { site := ⟨(Setting.run settings .initial).2, host⟩ }).2.Equipped := by
  refine (equips_run operations _).stack ⟨(Manager.furnished_run settings).pairs, fun i s found => ?_⟩
  cases found

end Workshop
end Stowage
