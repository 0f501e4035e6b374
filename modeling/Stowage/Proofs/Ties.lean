import Mathlib.Data.List.Basic
import Stowage.Placement

/-! What a policy chooses: one of the positions with the most free space, the first of them or the one whose
turn it is. A choice leaves the policy what it is, but for a turn that it may take. -/
namespace Stowage.Placement

variable {p : Placement} {free : List Nat} {i : Nat}

/-! ### The largest numbers -/

theorem best_spec (free : List Nat) (start : Nat) :
    start ≤ free.foldl max start ∧ (∀ amount ∈ free, amount ≤ free.foldl max start) ∧
      (free.foldl max start = start ∨ free.foldl max start ∈ free) := by
  induction free generalizing start with
  | nil => simp
  | cons first rest ih =>
    obtain ⟨above, all, reached⟩ := ih (max start first)
    rw [List.foldl_cons]
    refine ⟨by omega, ?_, ?_⟩
    · intro amount member
      rcases List.mem_cons.1 member with rfl | later
      · omega
      · exact all amount later
    · rcases reached with same | member
      · by_cases higher : start ≤ first
        · right
          rw [same, Nat.max_eq_right higher]
          exact List.mem_cons_self
        · left
          omega
      · exact .inr (List.mem_cons_of_mem _ member)

theorem le_best {amount : Nat} (member : amount ∈ free) : amount ≤ best free :=
  (best_spec free 0).2.1 amount member

theorem best_mem (some_ : free ≠ []) : best free ∈ free := by
  rcases (best_spec free 0).2.2 with zero | member
  · obtain ⟨first, rest, rfl⟩ := List.exists_cons_of_ne_nil some_
    have least : first ≤ best (first :: rest) := le_best List.mem_cons_self
    have none_ : first = 0 := by
      unfold best at least
      omega
    unfold best
    rw [zero, none_]
    exact List.mem_cons_self
  · exact member

theorem mem_tied : i ∈ tied free ↔ free[i]? = some (best free) := by
  unfold tied
  simp only [List.mem_map, List.mem_filter, decide_eq_true_eq]
  constructor
  · rintro ⟨⟨amount, position⟩, ⟨member, same⟩, rfl⟩
    rw [List.mk_mem_zipIdx_iff_getElem?] at member
    exact member.trans (congrArg some same)
  · intro found
    exact ⟨(best free, i), ⟨List.mk_mem_zipIdx_iff_getElem?.2 found, rfl⟩, rfl⟩

theorem tied_increasing (free : List Nat) : (tied free).Pairwise (· < ·) := by
  have positions : (free.zipIdx.map Prod.snd).Pairwise (· < ·) := by
    rw [List.zipIdx_map_snd]
    exact List.pairwise_lt_range'
  exact positions.sublist (List.filter_sublist.map Prod.snd)

theorem tied_ne_nil (some_ : free ≠ []) : tied free ≠ [] := by
  obtain ⟨i, there, same⟩ := List.mem_iff_getElem.1 (best_mem some_)
  have member : i ∈ tied free := mem_tied.2 (by rw [List.getElem?_eq_getElem there, same])
  exact List.ne_nil_of_mem member

/-! ### One choice -/

theorem select_of_freeSpace (policy : p.policy = .freeSpace) : p.select free = ((tied free).head?, p) := by
  unfold select
  rw [policy]

/-- Where there is nothing to choose from, no turn is taken. -/
@[simp]
theorem select_nil (p : Placement) : p.select [] = (none, p) := by
  have untied : tied [] = [] := rfl
  cases policy : p.policy <;> simp [select, policy, untied]

/-- The turn counts the tied positions, and is taken. -/
theorem select_of_rotating (rotates : p.policy = .roundRobin) (some_ : free ≠ []) :
    p.select free =
      ((tied free)[p.turn.toNat % (tied free).length]?, { p with turn := p.turn + 1 }) := by
  unfold select
  rw [rotates]
  cases all : tied free with
  | nil => exact absurd all (tied_ne_nil some_)
  | cons first others => simp

/-- A choice takes a turn if ties rotate among some candidates, and no other choice does. -/
theorem select_after (p : Placement) (free : List Nat) :
    (p.select free).2 =
      if p.policy = .roundRobin ∧ free ≠ [] then { p with turn := p.turn + 1 } else p := by
  by_cases some_ : free = []
  · simp [some_]
  · cases policy : p.policy with
    | freeSpace => simp [select_of_freeSpace policy]
    | roundRobin => simp [select_of_rotating policy some_, some_, policy]

/-- A policy at work stays the policy it is. -/
theorem select_turn (p : Placement) (free : List Nat) : ∃ turn, (p.select free).2 = { p with turn } := by
  rw [select_after]
  split <;> exact ⟨_, rfl⟩

@[simp]
theorem policy_select (p : Placement) (free : List Nat) : (p.select free).2.policy = p.policy := by
  obtain ⟨turn, same⟩ := select_turn p free
  rw [same]

theorem turn_select_le (p : Placement) (free : List Nat) :
    (p.select free).2.turn.toNat ≤ p.turn.toNat + 1 := by
  rw [select_after]
  split
  · rw [UInt64.toNat_add]
    exact Nat.mod_le _ _
  · exact Nat.le_succ _

/-- Every policy chooses among those with the most free space. -/
theorem mem_tied_of_select (chosen : (p.select free).1 = some i) : i ∈ tied free := by
  by_cases some_ : free = []
  · simp [some_] at chosen
  · cases policy : p.policy with
    | freeSpace =>
      rw [select_of_freeSpace policy] at chosen
      exact List.mem_of_head? chosen
    | roundRobin =>
      rw [select_of_rotating policy some_] at chosen
      exact List.mem_of_getElem? chosen

/-- Where there is something to choose from, something is chosen. -/
theorem select_ne_none (p : Placement) (some_ : free ≠ []) : (p.select free).1 ≠ none := by
  cases policy : p.policy with
  | freeSpace => simpa [select_of_freeSpace policy] using tied_ne_nil some_
  | roundRobin =>
    have turn : p.turn.toNat % (tied free).length < (tied free).length :=
      Nat.mod_lt _ (List.length_pos_iff.2 (tied_ne_nil some_))
    simp [select_of_rotating policy some_, turn]

/-- By free space alone, the first of those with the most is chosen. -/
theorem select_first (policy : p.policy = .freeSpace) (chosen : (p.select free).1 = some i) {j : Nat}
    (tied_ : j ∈ tied free) : i ≤ j := by
  rw [select_of_freeSpace policy] at chosen
  have increasing := tied_increasing free
  cases all : tied free with
  | nil =>
    rw [all] at tied_
    cases tied_
  | cons first others =>
    rw [all] at chosen tied_ increasing
    cases chosen
    rcases List.mem_cons.1 tied_ with rfl | later
    · exact Nat.le_refl _
    · exact Nat.le_of_lt ((List.pairwise_cons.1 increasing).1 j later)

end Stowage.Placement
