import Stowage.Proofs.NamespaceTree
import Stowage.Proofs.Places

/-! What lies above an entry. Every way leads down through the directories above its end, so an identity
that has come to an entry may search every one of them. -/
namespace Stowage.Namespace

variable {ns : Namespace} {ctx : SecurityContext} {names : List String} {current target entry : Entry}
  {upper ino : Nat}

/-- The number is that of the directory an entry hangs in, or of one further up. -/
inductive Above (ns : Namespace) (upper : Nat) : Nat → Prop where
  | parent {ino : Nat} {entry : Entry} (there : ns.entries.get? ino = some entry)
      (hangs : entry.parent = upper) : Above ns upper ino
  | up {ino : Nat} {entry : Entry} (there : ns.entries.get? ino = some entry)
      (further : Above ns upper entry.parent) : Above ns upper ino

/-- The way up from an entry goes by its parent. -/
theorem above_iff (there : ns.entries.get? ino = some entry) :
    ns.Above upper ino ↔ entry.parent = upper ∨ ns.Above upper entry.parent := by
  constructor
  · intro above
    cases above with
    | parent found hangs =>
      obtain rfl := Option.some.inj (there.symm.trans found)
      exact .inl hangs
    | up found further =>
      obtain rfl := Option.some.inj (there.symm.trans found)
      exact .inr further
  · rintro (hangs | further)
    · exact .parent there hangs
    · exact .up there further

theorem not_above_of_get?_none (absent : ns.entries.get? ino = none) : ¬ ns.Above upper ino := by
  intro above
  cases above with
  | parent there => cases absent.symm.trans there
  | up there => cases absent.symm.trans there

theorem Tree.named (tree : ns.Tree) : ns.Named :=
  fun key ino => (tree.indexed key ino).1

/-- The root hangs at a number that no entry has. -/
theorem Tree.get?_rootParent (tree : ns.Tree) : ns.entries.get? rootParent = none := by
  apply Option.eq_none_iff_forall_ne_some.2
  intro entry there
  obtain ⟨_, _, _, less⟩ := tree.parented _ _ there (by decide)
  exact Nat.not_lt_zero _ less

theorem Tree.parent_lt (tree : ns.Tree) (there : ns.entries.get? ino = some entry) :
    entry.parent < ino := by
  by_cases top : ino = rootIno
  · obtain ⟨root, stands, -, parent, -⟩ := tree.rooted
    subst top
    obtain rfl := Option.some.inj (stands.symm.trans there)
    rw [parent]
    decide
  · obtain ⟨_, _, _, less⟩ := tree.parented _ _ there top
    exact less

/-- Numbers get less on the way up. -/
theorem Above.lt (tree : ns.Tree) (above : ns.Above upper ino) : upper < ino := by
  induction above with
  | parent there hangs => exact hangs ▸ tree.parent_lt there
  | up there _ ih => exact Nat.lt_trans ih (tree.parent_lt there)

/-- A child hangs where it was looked up, and is stored under its own number. -/
theorem Tree.child_stored (tree : ns.Tree) {parent : Nat} {name : String}
    (found : ns.child parent name = .ok entry) :
    entry.parent = parent ∧ ns.entries.get? entry.stat.ino = some entry := by
  obtain ⟨same, -⟩ := name_of_child tree.keyed tree.named found
  exact ⟨(NameKey.mk.inj same).1.symm, entry_eq_ok_iff.1 (tree.keyed.child found)⟩

theorem Tree.reached_stored (tree : ns.Tree) (reaches : ns.Reaches ctx names entry) :
    ns.entries.get? entry.stat.ino = some entry :=
  entry_eq_ok_iff.1 (tree.keyed.stored (at?_of_reaches reaches))

/-- The identity may search every directory above the number. -/
def SearchableAbove (ns : Namespace) (ctx : SecurityContext) (ino : Nat) : Prop :=
  ∀ upper dir, ns.Above upper ino → ns.entries.get? upper = some dir →
    dir.permits ctx Mode.search = true

/-- A way that begins below searchable directories ends below such directories. -/
theorem Opens.searchable (tree : ns.Tree) (opens : ns.Opens ctx current names target)
    (stored : ns.entries.get? current.stat.ino = some current)
    (clear : ns.SearchableAbove ctx current.stat.ino) :
    ns.SearchableAbove ctx target.stat.ino := by
  induction opens with
  | here => exact clear
  | down _ searchable found _ ih =>
    obtain ⟨hangs, there⟩ := tree.child_stored found
    refine ih there fun upper dir above held => ?_
    rcases (above_iff there).1 above with here | further
    · rw [← here, hangs, stored] at held
      cases held
      exact searchable
    · exact clear upper dir (hangs ▸ further) held

/-- Who has come to an entry may search every directory above it. -/
theorem Reaches.searchable (tree : ns.Tree) (reaches : ns.Reaches ctx names entry) :
    ns.SearchableAbove ctx entry.stat.ino := by
  obtain ⟨root, top, opens⟩ := reaches
  obtain ⟨hangs, there⟩ := tree.child_stored top
  refine opens.searchable tree there fun upper dir above held => ?_
  rcases (above_iff there).1 above with here | further
  · rw [← here, hangs, tree.get?_rootParent] at held
    cases held
  · rw [hangs] at further
    exact absurd further (not_above_of_get?_none tree.get?_rootParent)

end Stowage.Namespace
