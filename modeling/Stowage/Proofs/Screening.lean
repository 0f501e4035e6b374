import Stowage.Proofs.Preparations

/-! How a pool is asked for its space. Its driver is made or found, tells whether it serves the pool, and
tells the space; a type without a driver, a pool out of service and space that cannot be told are
passed over. Two failures are not: a driver that cannot be made, and one that cannot say whether it
serves the pool. Drivers that leave no notes for others are the same whenever they are asked for. -/
namespace Stowage
namespace OnSite

/-- What a driver answers to a request that only looks, with the files of the site before it. -/
def tells (s : OnSite) (node : DriverNode) (r : DriverRequest) : Except Error r.Answer :=
  ((node.handler r).outcome s.site.host).1

/-- The driver serves the pool in the requested mode, and tells that much free space. -/
structure Sizes (s : OnSite) (pool : Pool) (forWrite : Bool) (node : DriverNode) (free : Nat) : Prop where
  served : s.driverFor pool.type = .ok node
  available : s.tells node (.isAvailable pool forWrite) = .ok true
  space : s.tells node (.freeSpace pool) = .ok free

/-- Nothing can be told of the pool: its driver is known and cannot be made, or cannot say whether it
serves the pool. -/
inductive Stops (s : OnSite) (pool : Pool) (forWrite : Bool) : Prop where
  | unmade {e : Error} (failed : s.driverFor pool.type = .error e) (kind : e.kind ≠ .unknownPoolType)
  | silent {node : DriverNode} {e : Error} (served : s.driverFor pool.type = .ok node)
      (lost : s.tells node (.isAvailable pool forWrite) = .error e)

/-- No driver that the manager makes leaves a note on the board. -/
def Discreet (s : OnSite) : Prop :=
  ∀ pair ∈ s.site.manager.registered .driver, ∀ node, pair.2.driverNode = .ok node →
    ∀ board noted, node.attach board = .ok noted → noted = board

/-- Asking for drivers may drift, but to the same drivers where these leave no notes. -/
structure Readies (s t : OnSite) : Prop extends Drifts s t where
  drivers : s.Discreet → ∀ type, t.driverFor type = s.driverFor type

variable {s t u : OnSite} {pool : Pool} {forWrite : Bool}

theorem DiskOnly.discreet (disks : s.DiskOnly) : s.Discreet := by
  intro pair member node made board noted attached
  obtain ⟨options, same⟩ := disks.makes pair member
  rw [same] at made
  obtain ⟨settings, -, built⟩ := Error.bind_eq_ok_iff.1 made
  cases built
  cases attached
  rfl

theorem Drifts.discreet (drifts : Drifts s t) : t.Discreet ↔ s.Discreet := by
  obtain ⟨-, ⟨turn, site⟩⟩ := drifts
  unfold Discreet
  rw [site]
  rfl

theorem Readies.refl (s : OnSite) : Readies s s :=
  ⟨Drifts.refl s, fun _ _ => rfl⟩

theorem Readies.trans (first : Readies s t) (second : Readies t u) : Readies s u := by
  refine ⟨first.toDrifts.trans second.toDrifts, fun discreet type => ?_⟩
  have between := first.toDrifts.discreet.2 discreet
  exact (second.drivers between type).trans (first.drivers discreet type)

instance : Action.Frame Readies where
  refl := Readies.refl
  trans := Readies.trans

theorem Drifts.tells (drifts : Drifts s t) (node : DriverNode) (r : DriverRequest) :
    t.tells node r = s.tells node r := by
  unfold OnSite.tells
  rw [drifts.host]

theorem Readies.sizes (readies : Readies s t) (discreet : s.Discreet) {node : DriverNode}
    {free : Nat} : t.Sizes pool forWrite node free ↔ s.Sizes pool forWrite node free := by
  have same := readies.drivers discreet pool.type
  have said := fun r => readies.toDrifts.tells node r
  constructor
  · rintro ⟨served, available, space⟩
    exact ⟨same ▸ served, said _ ▸ available, said _ ▸ space⟩
  · rintro ⟨served, available, space⟩
    exact ⟨same.trans served, (said _).trans available, (said _).trans space⟩

theorem Readies.stops (readies : Readies s t) (discreet : s.Discreet) :
    t.Stops pool forWrite ↔ s.Stops pool forWrite := by
  have same := readies.drivers discreet pool.type
  have said := fun node r => readies.toDrifts.tells node r
  constructor
  · rintro (⟨failed, kind⟩ | ⟨served, lost⟩)
    · exact .unmade (same ▸ failed) kind
    · exact .silent (same ▸ served) (said _ _ ▸ lost)
  · rintro (⟨failed, kind⟩ | ⟨served, lost⟩)
    · exact .unmade (same.trans failed) kind
    · exact .silent (same.trans served) ((said _ _).trans lost)

/-- What a driver looks up, it tells. -/
theorem tells_of_query {node : DriverNode} {r : DriverRequest} {f : Host → Except Error r.Answer}
    (answers : node.handler r = Action.query f) : s.tells node r = f s.site.host := by
  unfold tells
  rw [answers, Action.outcome_query]

@[simp]
theorem tells_disk_isAvailable (disk : DiskDriver) :
    s.tells (.disk disk) (.isAvailable pool forWrite) = pool.hasUsableFilesystem forWrite :=
  tells_of_query (r := .isAvailable pool forWrite) (f := fun _ => pool.hasUsableFilesystem forWrite) rfl

@[simp]
theorem tells_disk_freeSpace (disk : DiskDriver) :
    s.tells (.disk disk) (.freeSpace pool) = DiskDriver.freeSpace pool :=
  tells_of_query (r := .freeSpace pool) (f := fun _ => DiskDriver.freeSpace pool) rfl

theorem tells_of_site (site : t.site = s.site) (node : DriverNode) (r : DriverRequest) :
    t.tells node r = s.tells node r := by
  unfold tells
  rw [site]

/-- A pool whose driver tells whether it is available stops nothing. -/
theorem not_stops_of_available {node : DriverNode} {serves : Bool}
    (served : s.driverFor pool.type = .ok node)
    (available : s.tells node (.isAvailable pool forWrite) = .ok serves) : ¬ s.Stops pool forWrite := by
  rintro (⟨failed, -⟩ | ⟨again, lost⟩)
  · cases served.symm.trans failed
  · cases served.symm.trans again
    cases available.symm.trans lost

/-- A pool is sized by its one driver. -/
theorem sizes_iff {node : DriverNode} {serves : Bool} {free : Nat}
    (served : s.driverFor pool.type = .ok node)
    (available : s.tells node (.isAvailable pool forWrite) = .ok serves) :
    (∃ driver, s.Sizes pool forWrite driver free) ↔
      serves = true ∧ s.tells node (.freeSpace pool) = .ok free := by
  constructor
  · rintro ⟨driver, again, serving, space⟩
    cases served.symm.trans again
    exact ⟨Except.ok.inj (available.symm.trans serving), space⟩
  · rintro ⟨rfl, space⟩
    exact ⟨node, served, available, space⟩

end OnSite

namespace StackM

open OnSite

/-- A driver that is made for a stack leaves the board as it is, if all are discreet. -/
theorem board_of_makeDriver {s : OnSite} (discreet : s.Discreet) {type : String} {node : DriverNode}
    {board : Board} (made : makeDriver s.site.manager s.stack type = .ok (node, board)) :
    board = s.stack.board := by
  obtain ⟨driver, created, attached⟩ := Error.bind_eq_ok_iff.1 made
  obtain ⟨noted, notes, adopted⟩ := Error.bind_eq_ok_iff.1 attached
  have quiet : noted = s.stack.board := by
    rcases s.site.manager.createDriver_cases type with ⟨pair, member, -, same⟩ | missing
    · exact discreet _ member driver (same.symm.trans created) _ _ notes
    · cases created.symm.trans missing
  split at adopted
  · cases adopted
    exact quiet
  · obtain ⟨-, -, same⟩ := Error.bind_eq_ok_iff.1 adopted
    cases same
    exact quiet

/-- Asking for a driver readies the stack for others. -/
theorem readies_driver (type : String) : Action.Keeps Readies (driver type) := by
  apply keeps_driver_of_made
  intro s node board making
  refine ⟨⟨⟨_, _, rfl⟩, ⟨_, rfl⟩⟩, fun discreet => ?_⟩
  obtain rfl := board_of_makeDriver discreet making
  exact driverFor_of_kept making

/-- A stack that has a driver, or can make it, gives it. -/
theorem driver_of_driverFor {s : OnSite} {type : String} {node : DriverNode}
    (served : s.driverFor type = .ok node) : ∃ t, driver type s = .ok node t := by
  have outcome := driver_outcome type s
  rw [served] at outcome
  cases run : driver type s with
  | ok given t =>
    rw [Action.outcome_of_ok run] at outcome
    cases outcome
    exact ⟨t, rfl⟩
  | error e t =>
    rw [Action.outcome_of_error run] at outcome
    cases outcome

/-- What a driver is asked to look at, it tells and changes nothing. -/
theorem askDriver_looks (node : DriverNode) {r : DriverRequest} (looks : r.looks = true) (s : OnSite) :
    askDriver node r s = Action.ofExcept (s.tells node r) s := by
  have said : ((askDriver node r).outcome s).1 = s.tells node r := by
    unfold tells Action.outcome
    rw [askDriver_apply]
    cases node.handler r s.site.host <;> rfl
  obtain ⟨answer, run⟩ := reads_askDriver node looks s
  rw [run, ← said]
  unfold Action.outcome
  rw [run]
  cases answer <;> rfl

end StackM

namespace Resolution

open OnSite StackM

variable {s t : OnSite} {pool : Pool} {forWrite : Bool}

theorem readies_select (free : List Nat) : Action.Keeps Readies (select free) := by
  refine keeps_select_of_turned (fun s turn => ?_) free
  exact ⟨⟨⟨_, _, rfl⟩, ⟨turn, rfl⟩⟩, fun _ _ => rfl⟩

/-- The space that is told of a pool is what its driver tells, if it serves the pool; nothing stops the
asking then. -/
theorem told_of_freeSpace? {found : Option Nat} (done : freeSpace? pool forWrite s = .ok found t) :
    ¬ s.Stops pool forWrite ∧
      ∀ free, found = some free ↔ ∃ node, s.Sizes pool forWrite node free := by
  unfold freeSpace? at done
  obtain ⟨driver, u, driven, asked⟩ := Action.bind_eq_ok_iff.1 done
  rcases orNone_eq_ok_iff.1 driven with ⟨node, rfl, served⟩ | ⟨rfl, e, unserved, kind⟩
  · obtain ⟨made, site, -⟩ := driver_eq_ok served
    obtain ⟨serves, v, answered, told⟩ := Action.bind_eq_ok_iff.1 asked
    rw [askDriver_looks node rfl, tells_of_site site] at answered
    obtain ⟨available, rfl⟩ := Action.eq_ok_of_ofExcept answered
    have space : askDriver node (.freeSpace pool) v =
        Action.ofExcept (s.tells node (.freeSpace pool)) v := by
      rw [askDriver_looks node rfl, tells_of_site site]
    refine ⟨not_stops_of_available made available, fun free => ?_⟩
    rw [sizes_iff made available]
    cases serves with
    | false =>
      cases told
      simp
    | true =>
      cases amount : s.tells node (.freeSpace pool) with
      | ok all =>
        rw [amount] at space
        have run := (Action.bind_of_ok (Action.attempt_of_ok space)).symm.trans told
        cases run
        simp
      | error e =>
        rw [amount] at space
        have run := (Action.bind_of_ok (Action.attempt_of_error space)).symm.trans told
        cases run
        simp
  · cases asked
    have lost := (driver_eq_error unserved).1
    refine ⟨?_, fun free => ?_⟩
    · rintro (⟨failed, other⟩ | ⟨served, -⟩)
      · cases lost.symm.trans failed
        exact other kind
      · cases lost.symm.trans served
    · refine ⟨nofun, ?_⟩
      rintro ⟨node, served, -, -⟩
      cases lost.symm.trans served

/-- Space cannot be asked for only where no driver can be made, or where it does not say whether the pool is
available. -/
theorem freeSpace?_fails {e : Error} (failed : freeSpace? pool forWrite s = .error e t) :
    s.driverFor pool.type = .error e ∧ e.kind ≠ .unknownPoolType ∨
      ∃ node, s.driverFor pool.type = .ok node ∧ s.tells node (.isAvailable pool forWrite) = .error e := by
  unfold freeSpace? at failed
  rcases Action.bind_eq_error_iff.1 failed with unserved | ⟨driver, u, driven, asked⟩
  · obtain ⟨lost, kind⟩ := orNone_eq_error_iff.1 unserved
    exact .inl ⟨(driver_eq_error lost).1, kind⟩
  · rcases orNone_eq_ok_iff.1 driven with ⟨node, rfl, served⟩ | ⟨rfl, -⟩
    · obtain ⟨made, site, -⟩ := driver_eq_ok served
      rcases Action.bind_eq_error_iff.1 asked with refused | ⟨serves, v, -, told⟩
      · rw [askDriver_looks node rfl, tells_of_site site] at refused
        exact .inr ⟨node, made, (Action.eq_error_of_ofExcept refused).1⟩
      · cases serves with
        | false => cases told
        | true =>
          -- Space that cannot be told is an answer, too.
          rcases Action.bind_eq_error_iff.1 told with never | ⟨result, w, -, given⟩
          · exact absurd never (Action.attempt_ne_error _ _ _ _)
          · cases result with
            | ok free => cases given
            | error fault => cases given
    · cases asked

/-- Where no space can be asked for, the pool stops the asking. -/
theorem stops_of_freeSpace? {e : Error} (failed : freeSpace? pool forWrite s = .error e t) :
    s.Stops pool forWrite := by
  rcases freeSpace?_fails failed with ⟨lost, kind⟩ | ⟨node, served, lost⟩
  · exact .unmade lost kind
  · exact .silent served lost

end Resolution
end Stowage
