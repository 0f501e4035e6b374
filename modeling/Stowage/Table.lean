/-!
Finite maps as lists of pairs in strictly increasing order of the keys. Main statements: a look-up
after `insert` or `erase` sees exactly that change, both keep the order, and in an ordered table a
pair is an entry exactly if a look-up finds it.
-/
namespace Stowage

/-- A finite map. The operations keep the pairs in order of their keys, each key once. -/
structure Table (κ ν : Type) where
  entries : List (κ × ν)
  deriving Repr, DecidableEq

namespace Table

variable {κ ν : Type}

instance : Inhabited (Table κ ν) := ⟨⟨[]⟩⟩

instance : EmptyCollection (Table κ ν) := ⟨⟨[]⟩⟩

section Operations

variable [Ord κ]

def find (key : κ) : List (κ × ν) → Option ν
  | [] => none
  | (k, v) :: rest => if compare key k = .eq then some v else find key rest

def put (key : κ) (value : ν) : List (κ × ν) → List (κ × ν)
  | [] => [(key, value)]
  | (k, v) :: rest =>
    match compare key k with
    | .lt => (key, value) :: (k, v) :: rest
    | .eq => (key, value) :: rest
    | .gt => (k, v) :: put key value rest

/-- The value under `key`. -/
def get? (t : Table κ ν) (key : κ) : Option ν :=
  find key t.entries

/-- The value under `key` is now `value`. -/
def insert (t : Table κ ν) (key : κ) (value : ν) : Table κ ν :=
  ⟨put key value t.entries⟩

/-- Nothing is under `key` any more. -/
def erase (t : Table κ ν) (key : κ) : Table κ ν :=
  ⟨t.entries.filter fun (k, _) => compare key k ≠ .eq⟩

def contains (t : Table κ ν) (key : κ) : Bool :=
  (t.get? key).isSome

/-- The table of the given pairs, where the last of several pairs with one key counts. -/
def ofList (pairs : List (κ × ν)) : Table κ ν :=
  pairs.foldl (fun t (k, v) => t.insert k v) ∅

end Operations

def keys (t : Table κ ν) : List κ :=
  t.entries.map Prod.fst

def values (t : Table κ ν) : List ν :=
  t.entries.map Prod.snd

def isEmpty (t : Table κ ν) : Bool :=
  t.entries.isEmpty

/-- The pairs whose value `keep` accepts. -/
def filterValues (t : Table κ ν) (keep : ν → Bool) : Table κ ν :=
  ⟨t.entries.filter fun (_, v) => keep v⟩

section Laws

variable [Ord κ]

/-- The keys increase strictly. -/
def Ordered (t : Table κ ν) : Prop :=
  t.entries.Pairwise fun a b => compare a.1 b.1 = .lt

theorem mem_put {pairs : List (κ × ν)} {key : κ} {value : ν} {pair : κ × ν}
    (member : pair ∈ put key value pairs) : pair = (key, value) ∨ pair ∈ pairs := by
  induction pairs with
  | nil => exact .inl (List.mem_singleton.1 member)
  | cons first rest ih =>
    unfold put at member
    split at member
    · exact List.mem_cons.1 member
    · exact (List.mem_cons.1 member).imp_right (List.mem_cons_of_mem _)
    · rcases List.mem_cons.1 member with first | later
      · exact .inr (first ▸ List.mem_cons_self)
      · exact (ih later).imp_right (List.mem_cons_of_mem _)

theorem ordered_erase {t : Table κ ν} (ordered : t.Ordered) (key : κ) : (t.erase key).Ordered :=
  ordered.sublist List.filter_sublist

variable [Std.LawfulEqOrd κ]

theorem find_put [DecidableEq κ] (pairs : List (κ × ν)) (key k : κ) (value : ν) :
    find k (put key value pairs) = if k = key then some value else find k pairs := by
  induction pairs with
  | nil => by_cases same : k = key <;> simp [put, find, same]
  | cons pair rest ih =>
    unfold put
    split
    · by_cases same : k = key <;> simp [find, same]
    · rename_i equal
      have keys : key = pair.1 := Std.LawfulEqOrd.compare_eq_iff_eq.1 equal
      subst keys
      by_cases same : k = pair.1 <;> simp [find, same]
    · rename_i greater
      by_cases here : k = pair.1
      · have other : k ≠ key := by
          intro same
          have self : compare key pair.1 = .eq :=
            Std.LawfulEqOrd.compare_eq_iff_eq.2 (same ▸ here)
          rw [self] at greater
          cases greater
        rw [if_neg other]
        simp [find, here]
      · simp [find, here, ih]

theorem find_filter_ne [DecidableEq κ] (pairs : List (κ × ν)) (key k : κ) :
    find k (pairs.filter fun (j, _) => compare key j ≠ .eq) =
      if k = key then none else find k pairs := by
  induction pairs with
  | nil => simp [find]
  | cons pair rest ih =>
    by_cases removed : key = pair.1
    · subst removed
      by_cases same : k = pair.1
      · simpa [same] using ih
      · simpa [find, same] using ih
    · by_cases same : k = key
      · subst same
        simpa [find, removed] using ih
      · by_cases here : k = pair.1
        · have other : pair.1 ≠ key := fun equal => removed equal.symm
          simp [find, here, removed, other]
        · simpa [find, removed, same, here] using ih

theorem get?_insert [DecidableEq κ] (t : Table κ ν) (key k : κ) (value : ν) :
    (t.insert key value).get? k = if k = key then some value else t.get? k :=
  find_put t.entries key k value

theorem get?_erase [DecidableEq κ] (t : Table κ ν) (key k : κ) :
    (t.erase key).get? k = if k = key then none else t.get? k :=
  find_filter_ne t.entries key k

theorem ordered_insert [Std.TransOrd κ] {t : Table κ ν} (ordered : t.Ordered) (key : κ) (value : ν) :
    (t.insert key value).Ordered := by
  obtain ⟨pairs⟩ := t
  unfold Ordered insert at *
  induction pairs with
  | nil => exact List.pairwise_singleton _ _
  | cons pair rest ih =>
    obtain ⟨head, tail⟩ := List.pairwise_cons.1 ordered
    unfold put
    split
    · rename_i less
      refine List.pairwise_cons.2 ⟨fun other member => ?_, ordered⟩
      rcases List.mem_cons.1 member with rfl | later
      · exact less
      · exact Std.TransCmp.lt_trans less (head other later)
    · rename_i equal
      have keys : key = pair.1 := Std.LawfulEqOrd.compare_eq_iff_eq.1 equal
      exact List.pairwise_cons.2 ⟨fun other member => keys ▸ head other member, tail⟩
    · rename_i greater
      refine List.pairwise_cons.2 ⟨fun other member => ?_, ih tail⟩
      rcases mem_put member with same | later
      · rw [same]
        exact Std.OrientedCmp.lt_of_gt greater
      · exact head other later

theorem mem_of_get? {t : Table κ ν} {key : κ} {value : ν} (found : t.get? key = some value) :
    (key, value) ∈ t.entries := by
  obtain ⟨pairs⟩ := t
  unfold get? at found
  induction pairs with
  | nil => cases found
  | cons pair rest ih =>
    unfold find at found
    split at found
    · rename_i equal
      have keys : key = pair.1 := Std.LawfulEqOrd.compare_eq_iff_eq.1 equal
      cases found
      exact keys ▸ List.mem_cons_self
    · exact List.mem_cons_of_mem _ (ih found)

/-- In an ordered table a pair is an entry exactly if a look-up finds it. -/
theorem get?_eq_some_iff {t : Table κ ν} (ordered : t.Ordered) {key : κ} {value : ν} :
    t.get? key = some value ↔ (key, value) ∈ t.entries := by
  refine ⟨mem_of_get?, fun member => ?_⟩
  obtain ⟨pairs⟩ := t
  unfold Ordered get? at *
  induction pairs with
  | nil => cases member
  | cons pair rest ih =>
    obtain ⟨head, tail⟩ := List.pairwise_cons.1 ordered
    rcases List.mem_cons.1 member with rfl | later
    · simp [find]
    · have less : compare pair.1 key = .lt := head (key, value) later
      have differ : compare key pair.1 ≠ .eq := by
        intro equal
        have self : compare pair.1 key = .eq :=
          Std.LawfulEqOrd.compare_eq_iff_eq.2 (Std.LawfulEqOrd.compare_eq_iff_eq.1 equal).symm
        rw [self] at less
        cases less
      simp only [find, differ, if_false]
      exact ih tail later

end Laws

end Table
end Stowage
