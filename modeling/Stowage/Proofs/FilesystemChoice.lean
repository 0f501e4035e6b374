import Mathlib.Data.List.Find
import Mathlib.Data.List.Induction
import Mathlib.Data.Prod.Lex
import Stowage.Disk.Driver
import Stowage.Proofs.Actions

/-! Which filesystem of a pool a write goes to. The filesystems that accept writes are ranked by weight and
then by free space, and the first of the highest rank is chosen, wherever those of lower rank and those that
refuse writes stand. So a driver finds a place in a pool exactly if it reports the pool to be available. -/
namespace Stowage

/-- One more element is compared with the largest of those before it. -/
theorem maxBy?_concat {α : Type} (order : α → α → Ordering) (front : List α) (last : α) :
    maxBy? order (front ++ [last]) =
      some (match maxBy? order front with
        | none => last
        | some best => if order best last = .gt then best else last) := by
  cases front with
  | nil => rfl
  | cons first rest =>
    simp only [List.cons_append, maxBy?, List.foldl_append]
    rfl

namespace Filesystem

variable {filesystems front : List Filesystem} {fs other : Filesystem}

/-- The filesystem takes new files: it is active and its weight is not zero. -/
def Writable (fs : Filesystem) : Prop :=
  fs.status = .active ∧ fs.weight ≠ 0

instance (fs : Filesystem) : Decidable fs.Writable :=
  inferInstanceAs (Decidable (_ ∧ _))

/-- Weight and free space, of which the weight counts first. -/
def rank (fs : Filesystem) : Nat ×ₗ Nat :=
  toLex (fs.weight.toNat, fs.free.toNat)

/-- The filesystem takes new files, and none that does is of a higher rank. -/
def Leads (filesystems : List Filesystem) (fs : Filesystem) : Prop :=
  fs.Writable ∧ ∀ other ∈ filesystems, other.Writable → other.rank ≤ fs.rank

instance (filesystems : List Filesystem) : DecidablePred (Leads filesystems) :=
  fun fs => inferInstanceAs
    (Decidable (fs.Writable ∧ ∀ other ∈ filesystems, other.Writable → other.rank ≤ fs.rank))

theorem accepts_true_iff : fs.accepts true = true ↔ fs.Writable := by
  have weighs : 0 < fs.weight ↔ fs.weight ≠ 0 := UInt32.pos_iff_ne_zero
  unfold accepts Writable
  cases fs.status <;> simp [FilesystemStatus.allows, weighs]

/-- The first of two compares as the greater unless the second is of a higher rank. -/
theorem order_eq_gt_iff : fs.order other = .gt ↔ ¬ fs.rank < other.rank := by
  rw [order, UInt32.compare_eq_toNat_compare_toNat, UInt64.compare_eq_toNat_compare_toNat, rank, rank,
    Prod.Lex.toLex_lt_toLex]
  simp only [Ordering.then_eq_gt, Ordering.then_eq_eq, Nat.compare_eq_gt, Nat.compare_eq_eq, and_true]
  omega

/-- One more filesystem is chosen if it takes new files and is of a higher rank than the one before it. -/
theorem choose_concat (front : List Filesystem) (fs : Filesystem) :
    choose (front ++ [fs]) =
      if fs.Writable ∧ ∀ best ∈ choose front, best.rank < fs.rank then some fs else choose front := by
  unfold choose
  rw [List.filter_append]
  by_cases writable : fs.Writable
  · have kept : [fs].filter (·.accepts true) = [fs] :=
      List.filter_cons_of_pos (accepts_true_iff.2 writable)
    rw [kept, maxBy?_concat]
    cases maxBy? order (front.filter _) with
    | none => simp [writable]
    | some best => by_cases higher : best.rank < fs.rank <;> simp [writable, order_eq_gt_iff, higher]
  · simp [writable, mt accepts_true_iff.1 writable]

theorem leads_concat_iff : Leads (front ++ [fs]) other ↔
    Leads front other ∧ (fs.Writable → fs.rank ≤ other.rank) := by
  simp [Leads, or_imp, forall_and, and_assoc]

/-- What is chosen is of no lower rank than anything that takes new files. -/
theorem exists_rank_le (member : other ∈ filesystems) (writable : other.Writable) :
    ∃ best, choose filesystems = some best ∧ other.rank ≤ best.rank := by
  induction filesystems using List.reverseRecOn with
  | nil => cases member
  | append_singleton front fs ih =>
    rw [choose_concat]
    rcases List.mem_append.1 member with before | last
    · obtain ⟨best, chosen, le⟩ := ih before
      split
      · rename_i wins
        exact ⟨fs, rfl, le.trans (wins.2 best chosen).le⟩
      · exact ⟨best, chosen, le⟩
    · obtain rfl := List.mem_singleton.1 last
      split
      · exact ⟨other, rfl, le_rfl⟩
      · rename_i loses
        simpa [writable] using loses

/-- The choice is the first, in the order of the list, that takes new files and is of the highest rank. -/
theorem choose_eq_find? (filesystems : List Filesystem) :
    choose filesystems = filesystems.find? (Leads filesystems ·) := by
  induction filesystems using List.reverseRecOn with
  | nil => rfl
  | append_singleton front fs ih =>
    rw [choose_concat, List.find?_append]
    by_cases wins : fs.Writable ∧ ∀ best ∈ choose front, best.rank < fs.rank
    · have higher : ∀ other ∈ front, other.Writable → other.rank < fs.rank := fun other member writable =>
        have ⟨best, chosen, le⟩ := exists_rank_le member writable
        le.trans_lt (wins.2 best chosen)
      have passed : front.find? (Leads (front ++ [fs]) ·) = none := by
        refine List.find?_eq_none.2 fun other member leads => ?_
        obtain ⟨⟨writable, -⟩, le⟩ := leads_concat_iff.1 (of_decide_eq_true leads)
        exact (le wins.1).not_gt (higher other member writable)
      have above : Leads front fs := ⟨wins.1, fun other member writable => (higher other member writable).le⟩
      have leads : Leads (front ++ [fs]) fs := leads_concat_iff.2 ⟨above, fun _ => le_rfl⟩
      rw [if_pos wins, passed, Option.none_or]
      simp [leads]
    · -- Whoever is chosen before leads as before, and so do all others of its rank.
      have same : ∀ other ∈ front, decide (Leads (front ++ [fs]) other) = decide (Leads front other) := by
        intro other member
        rw [decide_eq_decide, leads_concat_iff, and_iff_left_iff_imp]
        intro leads writable
        obtain ⟨best, chosen, le⟩ : ∃ best, choose front = some best ∧ fs.rank ≤ best.rank := by
          simpa [writable] using wins
        have found : front.find? (Leads front ·) = some best := ih ▸ chosen
        have above : Leads front best := by simpa using List.find?_some found
        exact le.trans (leads.2 best (List.mem_of_find?_eq_some found) above.1)
      rw [if_neg wins, List.find?_congr same, ← ih]
      cases chosen : choose front with
      | some best => rfl
      | none =>
        have idle : ¬ Leads (front ++ [fs]) fs := fun leads => wins ⟨leads.1, by simp [chosen]⟩
        simp [idle]

/-- The filesystem that is chosen for a write is one of those that accept writes. -/
theorem mem_of_choose (chosen : choose filesystems = some fs) : fs ∈ filesystems ∧ fs.accepts true = true := by
  rw [choose_eq_find?] at chosen
  have leads : Leads filesystems fs := by simpa using List.find?_some chosen
  exact ⟨List.mem_of_find?_eq_some chosen, accepts_true_iff.2 leads.1⟩

/-- Nothing is chosen exactly if nothing takes new files. -/
theorem choose_eq_none_iff : choose filesystems = none ↔ ∀ fs ∈ filesystems, ¬ fs.Writable := by
  constructor
  · intro none_ fs member writable
    obtain ⟨best, chosen, -⟩ := exists_rank_le member writable
    cases none_.symm.trans chosen
  · intro idle
    rw [choose_eq_find?]
    exact List.find?_eq_none.2 fun fs member leads => idle fs member (of_decide_eq_true leads).1

theorem any_accepts_eq (filesystems : List Filesystem) :
    filesystems.any (·.accepts true) = (choose filesystems).isSome := by
  rw [Bool.eq_iff_iff, ← not_iff_not, Bool.not_eq_true, Option.not_isSome_iff_eq_none, choose_eq_none_iff,
    List.any_eq_false]
  simp only [accepts_true_iff]

end Filesystem

namespace DiskDriver

open Filesystem

variable {d : DiskDriver} {ctx : SecurityContext} {pool : Pool} {filesystems : List Filesystem}

/-- The failure of a write to a pool in which no filesystem takes new files. -/
def noWritable (pool : Pool) : Error :=
  .make .user Subcode.noSpace ("pool " ++ pool.name ++ " has no writable filesystem")

/-- A driver that knows an identity makes tokens. -/
theorem exists_token (known : d.security = some ctx) (now : Int) (file : String) (write : Bool) :
    ∃ token, d.token now file write = .ok token := by
  unfold token TokenSettings.identity
  rw [known]
  cases d.settings.binding <;> exact ⟨_, rfl⟩

/-- A driver that knows an identity puts the file on the filesystem that is chosen, if there is one. -/
theorem writeLocation_eq (known : d.security = some ctx) (readable : pool.filesystems = .ok filesystems)
    (now : Int) (path : String) : ∃ token, d.writeLocation now pool path =
      match choose filesystems with
      | none => .error (noWritable pool)
      | some fs => .ok ⟨[(({ host := fs.server, path := physicalName fs.path path : Chunk }).tag Chunk.tokenKey
          (.str token)).tag Chunk.filesystemKey (.str fs.path)]⟩ := by
  unfold writeLocation
  rw [readable]
  cases chosen : choose filesystems with
  | none => exact ⟨"", by simp only [bind, Except.bind, chosen]; rfl⟩
  | some fs =>
    obtain ⟨token, issued⟩ := exists_token known now (physicalName fs.path path) true
    exact ⟨token, by simp only [bind, Except.bind, chosen, issued]; rfl⟩

/-- A location to write to is for the file that the driver names on the filesystem that is chosen, with a token
for that file. -/
theorem writeLocation_eq_ok {now : Int} {path : String} {location : Location}
    (placed : d.writeLocation now pool path = .ok location) :
    ∃ filesystems fs token, pool.filesystems = .ok filesystems ∧ choose filesystems = some fs ∧
      d.token now (physicalName fs.path path) true = .ok token ∧
      location = ⟨[(({ host := fs.server, path := physicalName fs.path path : Chunk }).tag Chunk.tokenKey
        (.str token)).tag Chunk.filesystemKey (.str fs.path)]⟩ := by
  obtain ⟨filesystems, readable, rest⟩ := Error.bind_eq_ok_iff.1 placed
  cases chosen : choose filesystems with
  | none =>
    rw [chosen] at rest
    cases rest
  | some fs =>
    rw [chosen] at rest
    obtain ⟨token, issued, returned⟩ := Error.bind_eq_ok_iff.1 rest
    exact ⟨filesystems, fs, token, readable, chosen, issued, (Except.ok.inj returned).symm⟩

/-- A driver reports a pool to be available exactly if one of its filesystems serves the mode. -/
theorem isAvailable_eq (d : DiskDriver) (host : Host) (readable : pool.filesystems = .ok filesystems)
    (forWrite : Bool) : d.handler (.isAvailable pool forWrite) host =
      .ok (filesystems.any (·.accepts forWrite)) host := by
  have usable : pool.hasUsableFilesystem forWrite = .ok (filesystems.any (·.accepts forWrite)) := by
    unfold Pool.hasUsableFilesystem
    rw [readable]
    rfl
  exact Action.query_of_ok (f := fun _ : Host => pool.hasUsableFilesystem forWrite) usable

/-- The filesystem that writes go to is the first of the list that leads it, by weight and then by free space
among those that are active and of non-zero weight, and there is none exactly if all refuse writes. So where
the filesystems of a pool can be read and an identity is known, a write fails for want of a filesystem exactly
if the driver reports the pool to be unavailable for writes, and otherwise it gets a location. -/
theorem available_iff_chosen (filesystems : List Filesystem) :
    choose filesystems = filesystems.find? (Leads filesystems ·) ∧
    (choose filesystems = none ↔ ∀ fs ∈ filesystems, ¬ fs.Writable) ∧
    ∀ (d : DiskDriver) (ctx : SecurityContext) (pool : Pool) (path : String) (host : Host),
      d.security = some ctx → pool.filesystems = .ok filesystems →
      (d.handler (.writeLocation pool path) host = .error (noWritable pool) host ↔
        d.handler (.isAvailable pool true) host = .ok false host) ∧
      ((∃ location, d.handler (.writeLocation pool path) host = .ok location host) ↔
        d.handler (.isAvailable pool true) host = .ok true host) := by
  refine ⟨choose_eq_find? filesystems, choose_eq_none_iff, fun d ctx pool path host known readable => ?_⟩
  have placed : d.handler (.writeLocation pool path) host =
      Action.ofExcept (d.writeLocation host.now pool path) host := rfl
  obtain ⟨token, found⟩ := writeLocation_eq known readable host.now path
  rw [placed, found, isAvailable_eq d host readable, any_accepts_eq]
  cases choose filesystems <;> simp

/-- Filesystems that refuse writes, though one is of the highest weight and the other has the most space. -/
def sealed : List Filesystem :=
  [{ server := "node", path := "/a", weight := 5, free := 900, status := .readOnly },
    { server := "node", path := "/b", weight := 0, free := 5000 }]

/-- The same, with others around them, of which two are of one rank. -/
def mixed : List Filesystem :=
  { server := "node", path := "/c", weight := 1, free := 900 } ::
    { server := "node", path := "/d", weight := 2, free := 300, status := .disabled } :: sealed ++
    [{ server := "node", path := "/e", weight := 2, free := 300 },
      { server := "node", path := "/f", weight := 2, free := 300 }]

/-- Of the mixed ones the first of the two is chosen, and of the others none. -/
theorem available_of_mixed :
    let d : DiskDriver := { settings := ⟨"secret", .user, 60⟩, security := some SecurityContext.root }
    let pool (filesystems : List Filesystem) : Pool :=
      ({ name := "disk", type := poolType } : Pool).withFilesystems filesystems
    (choose mixed).map (·.path) = some "/e" ∧
      (pool mixed).filesystems = .ok mixed ∧ (pool sealed).filesystems = .ok sealed ∧
      (∃ location, d.handler (.writeLocation (pool mixed) "/g") {} = .ok location {}) ∧
      d.handler (.writeLocation (pool sealed) "/g") {} = .error (noWritable (pool sealed)) {} := by
  intro d pool
  have stored (filesystems : List Filesystem) : (pool filesystems).filesystems = .ok filesystems :=
    Pool.filesystems_withFilesystems _ filesystems
  obtain ⟨first, -, driven⟩ := available_iff_chosen mixed
  obtain ⟨-, -, refused⟩ := available_iff_chosen sealed
  refine ⟨?_, stored mixed, stored sealed, ?_, ?_⟩
  · rw [first]
    decide +kernel
  · exact (driven d .root _ "/g" {} rfl (stored mixed)).2.2 (isAvailable_eq d {} (stored mixed) true)
  · exact (refused d .root _ "/g" {} rfl (stored sealed)).1.2 (isAvailable_eq d {} (stored sealed) true)

end DiskDriver
end Stowage
