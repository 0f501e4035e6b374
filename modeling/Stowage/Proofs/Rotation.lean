import Mathlib.Data.List.Count
import Mathlib.Data.List.Rotate
import Mathlib.Data.Option.Basic
import Stowage.Proofs.Ties

/-! Ties that rotate. One counter of turns serves lists of any length, so a rotation may start anywhere; from
there on equal choices go round the tied positions in order, and each of them gets its share. That holds as
long as the counter is not full. -/
namespace Stowage.Placement

variable {p : Placement} {free : List Nat} {i : Nat}

/-- The position holds a number that none of the list exceeds. -/
def TiedAt (free : List Nat) (i : Nat) : Prop :=
  ∃ amount, free[i]? = some amount ∧ ∀ other ∈ free, other ≤ amount

/-- The policy after choices from these lists. -/
def after (p : Placement) (lists : List (List Nat)) : Placement :=
  lists.foldl (fun p free => (p.select free).2) p

/-- What is chosen from these lists, one after the other. -/
def picks (p : Placement) : List (List Nat) → List (Option Nat)
  | [] => []
  | free :: rest => (p.select free).1 :: picks (p.select free).2 rest

theorem mem_tied_iff_tiedAt : i ∈ tied free ↔ TiedAt free i := by
  rw [mem_tied]
  constructor
  · intro found
    exact ⟨best free, found, fun _ => le_best⟩
  · rintro ⟨amount, found, most⟩
    have member : amount ∈ free := List.mem_of_getElem? found
    have some_ : free ≠ [] := List.ne_nil_of_mem member
    have same : amount = best free := (le_best member).antisymm (most _ (best_mem some_))
    rw [found, same]

/-! ### Choices one after the other -/

@[simp]
theorem policy_after (p : Placement) (lists : List (List Nat)) : (p.after lists).policy = p.policy := by
  induction lists generalizing p with
  | nil => rfl
  | cons free rest ih => exact (ih (p.select free).2).trans (policy_select p free)

/-- No choice takes more than one turn. -/
theorem turn_after_le (p : Placement) (lists : List (List Nat)) :
    (p.after lists).turn.toNat ≤ p.turn.toNat + lists.length := by
  induction lists generalizing p with
  | nil => exact le_rfl
  | cons free rest ih =>
    have one := turn_select_le p free
    have more : ((p.select free).2.after rest).turn.toNat ≤ _ := ih (p.select free).2
    rw [List.length_cons]
    exact more.trans (by omega)

/-- Until the counter is full, choices from one list count its tied positions. -/
theorem picks_replicate (rotates : p.policy = .roundRobin) (some_ : free ≠ []) (n : Nat)
    (few : p.turn.toNat + n ≤ UInt64.size) :
    p.picks (List.replicate n free) =
      (List.range' p.turn.toNat n).map fun turn => (tied free)[turn % (tied free).length]? := by
  induction n generalizing p with
  | zero => rfl
  | succ n ih =>
    rw [List.replicate_succ, picks, select_of_rotating rotates some_, List.range'_succ, List.map_cons]
    congr 1
    cases n with
    | zero => rfl
    | succ n =>
      have next : (p.turn + 1).toNat = p.turn.toNat + 1 := by
        have one : UInt64.toNat 1 = 1 := rfl
        unfold UInt64.size at few
        rw [UInt64.toNat_add, one]
        exact Nat.mod_eq_of_lt (by omega)
      rw [← next]
      exact ih rotates (by dsimp only; omega)

/-! ### Going round -/

/-- Counting on from any number goes round the list once. -/
theorem round_eq {α : Type} (l : List α) (start : Nat) :
    ((List.range' start l.length).map fun turn => l[turn % l.length]?) = (l.rotate start).map some := by
  apply List.ext_getElem
  · simp
  · intro n bound _
    have inside : n < l.length := by simpa using bound
    simp only [List.getElem_map, List.getElem_range', Nat.one_mul, List.getElem_rotate]
    rw [Nat.add_comm start n]
    exact List.getElem?_eq_getElem _

/-- As often as it goes round the list, it goes in the same order. -/
theorem rounds_eq {α : Type} (l : List α) (start m : Nat) :
    ((List.range' start (m * l.length)).map fun turn => l[turn % l.length]?) =
      (List.replicate m ((l.rotate start).map some)).flatten := by
  induction m with
  | zero => simp
  | succ m ih =>
    have again : ((List.range' (start + m * l.length) l.length).map fun turn => l[turn % l.length]?) =
        (l.rotate start).map some := by
      rw [round_eq, ← List.rotate_mod, Nat.add_mul_mod_self_right, List.rotate_mod]
    rw [Nat.succ_mul, ← List.range'_append_1, List.map_append, ih, again, List.replicate_succ',
      List.flatten_concat]

/-- However often the list is gone round, each of its members has its turn that often. -/
theorem count_rounds {l : List Nat} (distinct : l.Nodup) (member : i ∈ l) (start m : Nat) :
    ((List.replicate m ((l.rotate start).map some)).flatten).count (some i) = m := by
  have once : ((l.rotate start).map some).count (some i) = 1 := by
    rw [List.count_map_of_injective _ _ (Option.some_injective _), (l.rotate_perm start).count_eq]
    exact List.count_eq_one_of_mem distinct member
  rw [List.count_flatten, List.map_replicate, once, List.sum_replicate_nat, Nat.mul_one]

/-- Whatever lists were chosen from before, as long as the counter is not full, choices from one list go round
the positions of its largest number in a fixed order, any number of times, so that each of them is chosen that
often and no other is. An empty list gives no choice and takes no turn. -/
theorem rotation_fair (earlier : List (List Nat)) (free : List Nat) (m : Nat)
    (few : earlier.length + m * (tied free).length ≤ UInt64.size) :
    let p := after { policy := .roundRobin } earlier
    let picked := p.picks (List.replicate (m * (tied free).length) free)
    (tied free).Pairwise (· < ·) ∧ (∀ i, i ∈ tied free ↔ TiedAt free i) ∧
      (∃ start, picked = (List.replicate m (((tied free).rotate start).map some)).flatten) ∧
      (∀ i, TiedAt free i → picked.count (some i) = m) ∧
      (∀ choice ∈ picked, ∃ i, choice = some i ∧ TiedAt free i) ∧
      p.select [] = (none, p) := by
  intro p picked
  have rotates : p.policy = .roundRobin := policy_after _ earlier
  have turns : p.turn.toNat ≤ earlier.length := by
    simpa using turn_after_le { policy := .roundRobin } earlier
  have rounds : picked = (List.replicate m (((tied free).rotate p.turn.toNat).map some)).flatten := by
    by_cases some_ : free = []
    · subst some_
      have untied : tied [] = [] := rfl
      simp [picked, untied, picks]
    · rw [← rounds_eq]
      exact picks_replicate rotates some_ _ (by omega)
  have distinct : (tied free).Nodup := (tied_increasing free).imp Nat.ne_of_lt
  refine ⟨tied_increasing free, fun _ => mem_tied_iff_tiedAt, ⟨_, rounds⟩, ?_, ?_, select_nil p⟩
  · intro i tied_
    rw [rounds]
    exact count_rounds distinct (mem_tied_iff_tiedAt.2 tied_) _ m
  · intro choice member
    rw [rounds] at member
    obtain ⟨round, same, member⟩ := List.mem_flatten.1 member
    obtain rfl := List.eq_of_mem_replicate same
    obtain ⟨i, inside, rfl⟩ := List.mem_map.1 member
    exact ⟨i, rfl, mem_tied_iff_tiedAt.1 (List.mem_rotate.1 inside)⟩

/-- Two turns were taken before, so the rotation starts at the last of three. -/
theorem rotation_fair_of_nines :
    (after { policy := .roundRobin } [[1, 5], [], [7, 7]]).picks (List.replicate 6 [4, 9, 9, 1, 9]) =
        [some 4, some 1, some 2, some 4, some 1, some 2] ∧
      ([some 4, some 1, some 2, some 4, some 1, some 2] : List (Option Nat)).count (some 2) = 2 := by
  have ran : (after { policy := .roundRobin } [[1, 5], [], [7, 7]]).picks (List.replicate 6 [4, 9, 9, 1, 9]) =
      [some 4, some 1, some 2, some 4, some 1, some 2] := by decide
  obtain ⟨-, exact_, -, fair, -⟩ :=
    rotation_fair [[1, 5], [], [7, 7]] [4, 9, 9, 1, 9] 2 (by decide)
  have shared := fair 2 ((exact_ 2).1 (by decide))
  exact ⟨ran, ran ▸ shared⟩

end Stowage.Placement
