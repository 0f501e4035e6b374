import Mathlib.Data.List.TakeWhile
import Stowage.Proofs.NamespaceRuns

/-! The entries of a namespace form a tree. Whatever requests came before, names and entries correspond
one to one, the root is a directory that stays, and every other entry hangs in a directory that was made
before it; so listing a directory finds its entries, each once and in order of their names, and a
directory can be unlinked exactly if nothing hangs in it. A number that was given out is not given out
again. -/
namespace Stowage

namespace NameKey

/-- Names come in order of their directories and, within one directory, in order of themselves. -/
theorem compare_eq_lt_iff {k l : NameKey} :
    compare k l = .lt ↔ k.parent < l.parent ∨ k.parent = l.parent ∧ k.name < l.name := by
  change (compare k.parent l.parent).then (compare k.name l.name) = .lt ↔ _
  rw [Ordering.then_eq_lt, Nat.compare_eq_lt, Nat.compare_eq_eq]
  exact or_congr_right (and_congr_right fun _ => compareOfLessAndEq_eq_lt)

/-- No name of a directory comes before the empty one. -/
theorem compare_empty_eq_lt_iff {k : NameKey} {ino : Nat} :
    compare k ⟨ino, ""⟩ = .lt ↔ k.parent < ino := by
  have least : ¬ k.name < "" := fun less => List.not_lt_nil _ (String.lt_iff.1 less)
  simp [compare_eq_lt_iff, least]

end NameKey

namespace Namespace

/-- The children of a directory as a scan of the names in their order finds them: from the first name
that is not before those of the directory, for as long as the names are its own. -/
def scanned (ns : Namespace) (ino : Nat) : List Nat :=
  ((ns.names.entries.dropWhile fun (key, _) => compare key ⟨ino, ""⟩ = .lt).takeWhile
    fun (key, _) => key.parent = ino).map Prod.snd

/-- In a list that is in order, the names of one directory stand together. -/
theorem takeWhile_dropWhile_names (ino : Nat) {pairs : List (NameKey × Nat)}
    (ordered : pairs.Pairwise fun a b => compare a.1 b.1 = .lt) :
    ((pairs.dropWhile fun (key, _) => compare key ⟨ino, ""⟩ = .lt).takeWhile
        fun (key, _) => key.parent = ino) =
      pairs.filter fun (key, _) => key.parent = ino := by
  induction pairs with
  | nil => rfl
  | cons first rest ih =>
    obtain ⟨⟨parent, name⟩, number⟩ := first
    obtain ⟨head, tail⟩ := List.pairwise_cons.1 ordered
    have above : ∀ pair ∈ rest, parent ≤ pair.1.parent := by
      intro pair member
      rcases NameKey.compare_eq_lt_iff.1 (head pair member) with less | ⟨same, -⟩
      · exact Nat.le_of_lt less
      · exact Nat.le_of_eq same
    rcases Nat.lt_trichotomy parent ino with before | here | behind
    · have other : parent ≠ ino := by omega
      simpa [NameKey.compare_empty_eq_lt_iff, before, other] using ih tail
    · subst here
      have kept : (rest.dropWhile fun (key, _) => compare key ⟨parent, ""⟩ = .lt) = rest := by
        apply List.dropWhile_eq_self_iff.2
        intro inside
        have least := above _ (List.getElem_mem inside)
        simpa [NameKey.compare_empty_eq_lt_iff] using least
      have inner := ih tail
      rw [kept] at inner
      simp [NameKey.compare_empty_eq_lt_iff, inner]
    · have other : parent ≠ ino := by omega
      have none_ : (rest.filter fun (key, _) => key.parent = ino) = [] := by
        apply List.filter_eq_nil_iff.2
        intro pair member
        have least := above pair member
        simp only [decide_eq_true_eq]
        omega
      simp [NameKey.compare_empty_eq_lt_iff, Nat.not_lt_of_gt behind, other, none_]

/-- A name leads to a number exactly if the entry with that number bears the name. -/
def Indexed (ns : Namespace) : Prop :=
  ∀ (key : NameKey) (ino : Nat), ns.names.get? key = some ino ↔
    ∃ entry, ns.entries.get? ino = some entry ∧ key = ⟨entry.parent, entry.name⟩

/-- The root is there: a directory, under the name that no other entry can bear. -/
def Rooted (ns : Namespace) : Prop :=
  ∃ root, ns.entries.get? rootIno = some root ∧ root.stat.isDirectory = true ∧
    root.parent = rootParent ∧ root.name = "/"

/-- Every entry but the root hangs in a directory that was made before it. -/
def Parented (ns : Namespace) : Prop :=
  ∀ (ino : Nat) (entry : Entry), ns.entries.get? ino = some entry → ino ≠ rootIno →
    ∃ parent, ns.entries.get? entry.parent = some parent ∧ parent.stat.isDirectory = true ∧
      entry.parent < ino

/-- What entries and names are in every namespace that requests lead to. -/
structure Tree (ns : Namespace) : Prop where
  keyed : ns.EntriesKeyed
  numbered : ns.Numbered
  indexed : ns.Indexed
  ordered : ns.names.Ordered
  rooted : ns.Rooted
  parented : ns.Parented

section Step

variable {ns : Namespace}

/-- Every request keeps names and entries in correspondence. -/
theorem Indexed.after (indexed : ns.Indexed) (numbered : ns.Numbered) (r : InodeRequest) :
    (ns.after r).Indexed := by
  have named : ns.Named := fun key ino => (indexed key ino).1
  intro key ino
  refine ⟨named.after numbered r key ino, ?_⟩
  rintro ⟨entry, there, rfl⟩
  cases treeStep_after ns r with
  | same entries names =>
    rw [entries] at there
    rw [names]
    exact (indexed _ _).2 ⟨entry, there, rfl⟩
  | made parent created _ _ free _ entries names =>
    rw [entries, Table.get?_insert] at there
    rw [names, Table.get?_insert]
    by_cases new : ino = ns.nextIno
    · rw [if_pos new] at there
      cases there
      rw [if_pos rfl, new]
    · rw [if_neg new] at there
      have listed := (indexed _ _).2 ⟨entry, there, rfl⟩
      have other : (⟨entry.parent, entry.name⟩ : NameKey) ≠ ⟨created.parent, created.name⟩ := by
        intro same
        rw [same, free] at listed
        cases listed
      rw [if_neg other, listed]
  | stored place old new found entries _ _ same names =>
    rw [entries, Table.get?_insert] at there
    rw [names]
    by_cases here : ino = place
    · rw [if_pos here] at there
      cases there
      rw [same.1, same.2, here]
      exact (indexed _ _).2 ⟨old, found, rfl⟩
    · rw [if_neg here] at there
      exact (indexed _ _).2 ⟨entry, there, rfl⟩
  | erased gone old found _ _ entries names =>
    rw [entries, Table.get?_erase] at there
    rw [names, Table.get?_erase]
    by_cases here : ino = gone
    · rw [if_pos here] at there
      cases there
    · rw [if_neg here] at there
      have listed := (indexed _ _).2 ⟨entry, there, rfl⟩
      have borne := (indexed _ _).2 ⟨old, found, rfl⟩
      have other : (⟨entry.parent, entry.name⟩ : NameKey) ≠ ⟨old.parent, old.name⟩ := by
        intro same
        rw [same, borne] at listed
        cases listed
        exact here rfl
      rw [if_neg other, listed]

/-- Every request keeps the names in order. -/
theorem ordered_names_after (ordered : ns.names.Ordered) (r : InodeRequest) :
    (ns.after r).names.Ordered := by
  cases treeStep_after ns r with
  | same _ names | stored _ _ _ _ _ _ _ _ names => rw [names]; exact ordered
  | made _ _ _ _ _ _ _ names => rw [names]; exact Table.ordered_insert ordered _ _
  | erased _ _ _ _ _ _ names => rw [names]; exact Table.ordered_erase ordered _

/-- Every request leaves the root where it is, and a directory. -/
theorem Rooted.after (rooted : ns.Rooted) (numbered : ns.Numbered) (r : InodeRequest) :
    (ns.after r).Rooted := by
  obtain ⟨root, there, directory, parent, name⟩ := rooted
  cases treeStep_after ns r with
  | same entries => exact ⟨root, by rw [entries, there], directory, parent, name⟩
  | made _ _ _ _ _ _ entries =>
    have below := numbered _ _ there
    have other : rootIno ≠ ns.nextIno := by omega
    exact ⟨root, by rw [entries, Table.get?_insert, if_neg other, there], directory, parent, name⟩
  | stored place old new found entries _ type same =>
    by_cases here : rootIno = place
    · subst here
      obtain rfl := Option.some.inj (found.symm.trans there)
      exact ⟨new, by rw [entries, Table.get?_insert, if_pos rfl], type.trans directory,
        same.1.trans parent, same.2.trans name⟩
    · exact ⟨root, by rw [entries, Table.get?_insert, if_neg here, there], directory, parent, name⟩
  | erased gone _ _ other _ entries =>
    exact ⟨root, by rw [entries, Table.get?_erase, if_neg other.symm, there], directory, parent, name⟩

/-- The children of a directory are the entries whose parent it is. -/
theorem mem_childrenOf_iff (indexed : ns.Indexed) (ordered : ns.names.Ordered) {ino number : Nat} :
    number ∈ ns.childrenOf ino ↔
      ∃ entry, ns.entries.get? number = some entry ∧ entry.parent = ino := by
  simp only [childrenOf, List.mem_map, List.mem_filter, decide_eq_true_eq]
  constructor
  · rintro ⟨⟨key, _⟩, ⟨listed, same⟩, rfl⟩
    obtain ⟨entry, there, rfl⟩ := (indexed _ _).1 ((Table.get?_eq_some_iff ordered).2 listed)
    exact ⟨entry, there, same⟩
  · rintro ⟨entry, there, same⟩
    have listed := Table.mem_of_get? ((indexed _ _).2 ⟨entry, there, rfl⟩)
    exact ⟨_, ⟨listed, same⟩, rfl⟩

/-- Every request leaves each entry in a directory older than itself: a new entry comes into one, and a
directory that goes away had no children. -/
theorem Parented.after (tree : ns.Tree) (r : InodeRequest) : (ns.after r).Parented := by
  intro ino entry there other
  cases treeStep_after ns r with
  | same entries =>
    rw [entries] at there ⊢
    exact tree.parented ino entry there other
  | made parent created above directory _ _ entries =>
    rw [entries, Table.get?_insert] at there
    have kept : ∀ {number : Nat} {old : Entry}, ns.entries.get? number = some old →
        (ns.after r).entries.get? number = some old := by
      intro number old found
      have below := tree.numbered _ _ found
      rw [entries, Table.get?_insert, if_neg (by omega), found]
    by_cases new : ino = ns.nextIno
    · rw [if_pos new] at there
      cases there
      exact ⟨parent, kept above, directory, new ▸ tree.numbered _ _ above⟩
    · rw [if_neg new] at there
      obtain ⟨dir, found, type, less⟩ := tree.parented ino entry there other
      exact ⟨dir, kept found, type, less⟩
  | stored place old new found entries _ same_type same =>
    rw [entries, Table.get?_insert] at there
    -- The entry that stands here hangs where the one before it hung.
    have hung : ∃ before, ns.entries.get? ino = some before ∧ before.parent = entry.parent := by
      by_cases here : ino = place
      · rw [if_pos here] at there
        cases there
        exact ⟨old, here ▸ found, same.1.symm⟩
      · rw [if_neg here] at there
        exact ⟨entry, there, rfl⟩
    obtain ⟨before, stood, above⟩ := hung
    obtain ⟨dir, held, type, less⟩ := tree.parented ino before stood other
    rw [above] at held less
    by_cases here : entry.parent = place
    · rw [here, found] at held
      cases held
      exact ⟨new, by rw [entries, Table.get?_insert, if_pos here], same_type.trans type, less⟩
    · exact ⟨dir, by rw [entries, Table.get?_insert, if_neg here, held], type, less⟩
  | erased gone old found _ empty entries =>
    rw [entries, Table.get?_erase] at there
    split at there
    · cases there
    · obtain ⟨dir, held, type, less⟩ := tree.parented ino entry there other
      have stays : entry.parent ≠ gone := by
        intro here
        rw [here, found] at held
        cases held
        have child := (mem_childrenOf_iff tree.indexed tree.ordered).2 ⟨entry, there, here⟩
        rw [empty type] at child
        cases child
      exact ⟨dir, by rw [entries, Table.get?_erase, if_neg stays, held], type, less⟩

theorem tree_initial : Tree Namespace.initial where
  keyed := entriesKeyed_initial
  numbered := numbered_initial
  indexed key ino := by
    refine ⟨named_initial key ino, ?_⟩
    rintro ⟨entry, there, rfl⟩
    obtain ⟨rfl, rfl⟩ := Prod.mk.inj (List.mem_singleton.1 (Table.mem_of_get? there))
    rfl
  ordered := List.pairwise_singleton _ _
  rooted := ⟨rootEntry, rfl, rfl, rfl, rfl⟩
  parented ino entry there other := by
    obtain ⟨rfl, -⟩ := Prod.mk.inj (List.mem_singleton.1 (Table.mem_of_get? there))
    exact absurd rfl other

/-- Every request, whether it succeeds or fails, keeps the tree. -/
theorem Tree.after (tree : ns.Tree) (r : InodeRequest) : (ns.after r).Tree where
  keyed := tree.keyed.after r
  numbered := tree.numbered.after r
  indexed := tree.indexed.after tree.numbered r
  ordered := ordered_names_after tree.ordered r
  rooted := tree.rooted.after tree.numbered r
  parented := Parented.after tree r

theorem Tree.run (tree : ns.Tree) (requests : List InodeRequest) : (ns.run requests).Tree := by
  induction requests generalizing ns with
  | nil => exact tree
  | cons r rest ih => exact ih (tree.after r)

theorem Reachable.tree (reachable : ns.Reachable) : ns.Tree := by
  induction reachable with
  | initial => exact tree_initial
  | step _ _ _ ih => exact ih.after _

end Step

section Shape

variable {ns : Namespace}

/-- The root is the child under which it is registered. -/
theorem Tree.child_root (tree : ns.Tree) :
    ∃ root, ns.child rootParent "/" = .ok root ∧ ns.entries.get? rootIno = some root ∧
      root.stat.ino = rootIno ∧ root.stat.isDirectory = true := by
  obtain ⟨root, there, directory, parent, name⟩ := tree.rooted
  have named : ns.names.get? ⟨rootParent, "/"⟩ = some rootIno :=
    (tree.indexed _ _).2 ⟨root, there, by rw [parent, name]⟩
  refine ⟨root, Error.bind_eq_ok_iff.2 ⟨rootIno, ?_, entry_eq_ok_iff.2 there⟩, there,
    tree.keyed _ _ there, directory⟩
  rw [named]
  rfl

/-- The way up from a number leads through entries to the root. -/
inductive Descends (ns : Namespace) : Nat → Prop where
  | root : Descends ns rootIno
  | hung {ino : Nat} {entry : Entry} (there : ns.entries.get? ino = some entry)
      (above : Descends ns entry.parent) : Descends ns ino

/-- Every entry descends from the root, for the numbers get less on the way up. -/
theorem Tree.descends (tree : ns.Tree) {ino : Nat} {entry : Entry}
    (there : ns.entries.get? ino = some entry) : ns.Descends ino := by
  induction ino using Nat.strongRecOn generalizing entry with
  | ind ino ih =>
    by_cases top : ino = rootIno
    · subst top
      exact .root
    · obtain ⟨parent, above, -, less⟩ := tree.parented ino entry there top
      exact .hung there (ih _ less above)

/-- A list has the entries of a directory, each once and in order of their names. -/
def Lists (ns : Namespace) (ino : Nat) (listed : List Entry) : Prop :=
  (∀ entry, entry ∈ listed ↔ ns.entries.get? entry.stat.ino = some entry ∧ entry.parent = ino) ∧
    listed.Pairwise fun a b => a.name < b.name

/-- The entries that names lead to are all found, and bear these names. -/
theorem mapM_entry (keyed : ns.EntriesKeyed) {pairs : List (NameKey × Nat)}
    (borne : ∀ pair ∈ pairs, ∃ entry, ns.entries.get? pair.2 = some entry ∧
      pair.1 = ⟨entry.parent, entry.name⟩) :
    ∃ listed, (pairs.map Prod.snd).mapM ns.entry = .ok listed ∧
      (∀ entry ∈ listed, ns.entries.get? entry.stat.ino = some entry) ∧
      listed.map (fun entry => ((⟨entry.parent, entry.name⟩ : NameKey), entry.stat.ino)) = pairs := by
  induction pairs with
  | nil => exact ⟨[], rfl, nofun, rfl⟩
  | cons first rest ih =>
    obtain ⟨key, number⟩ := first
    obtain ⟨entry, there, bears⟩ := borne _ List.mem_cons_self
    dsimp only at there bears
    obtain ⟨listed, read, stored, same⟩ :=
      ih fun pair member => borne pair (List.mem_cons_of_mem _ member)
    have own := keyed _ _ there
    refine ⟨entry :: listed, ?_, ?_, ?_⟩
    · rw [List.map_cons, List.mapM_cons, entry_eq_ok_iff.2 there, read]
      rfl
    · intro other member
      rcases List.mem_cons.1 member with rfl | later
      · rw [own, there]
      · exact stored other later
    · rw [List.map_cons, same, own, bears]

/-- Listing a directory does not fail, and finds the entries of the directory. -/
theorem Tree.readDir_lists (tree : ns.Tree) {ino : Nat} {dir : Entry}
    (there : ns.entries.get? ino = some dir) (directory : dir.stat.isDirectory = true) :
    ∃ listed, ns.readDir ino = .ok listed ∧ ns.Lists ino listed := by
  have borne : ∀ pair ∈ ns.names.entries.filter fun (key, _) => key.parent = ino,
      ∃ entry, ns.entries.get? pair.2 = some entry ∧ pair.1 = ⟨entry.parent, entry.name⟩ := by
    intro pair member
    have named := (Table.get?_eq_some_iff tree.ordered).2 (List.mem_filter.1 member).1
    exact (tree.indexed _ _).1 named
  obtain ⟨listed, read, stored, same⟩ := mapM_entry tree.keyed borne
  refine ⟨listed, ?_, ?_, ?_⟩
  · simp only [readDir, Error.bind_eq_ok_iff, Error.guarded_eq_ok_iff, entry_eq_ok_iff]
    exact ⟨dir, there, by simp [directory], read⟩
  · intro entry
    have shown : entry ∈ listed ↔ ns.entries.get? entry.stat.ino = some entry ∧
        ((⟨entry.parent, entry.name⟩ : NameKey), entry.stat.ino) ∈
          ns.names.entries.filter fun (key, _) => key.parent = ino := by
      rw [← same]
      constructor
      · intro member
        exact ⟨stored entry member, List.mem_map.2 ⟨entry, member, rfl⟩⟩
      · rintro ⟨found, member⟩
        obtain ⟨other, held, alike⟩ := List.mem_map.1 member
        obtain ⟨-, number⟩ := Prod.mk.inj alike
        have again := stored other held
        rw [number, found] at again
        cases again
        exact held
    rw [shown, List.mem_filter, decide_eq_true_eq]
    constructor
    · rintro ⟨found, -, hangs⟩
      exact ⟨found, hangs⟩
    · rintro ⟨found, hangs⟩
      exact ⟨found, Table.mem_of_get? ((tree.indexed _ _).2 ⟨entry, found, rfl⟩), hangs⟩
  · have increasing := tree.ordered.filter fun (key, _) => decide (key.parent = ino)
    have within : ∀ pair ∈ ns.names.entries.filter fun (key, _) => key.parent = ino,
        pair.1.parent = ino := fun pair member => of_decide_eq_true (List.mem_filter.1 member).2
    rw [← same] at increasing within
    refine (List.pairwise_map.1 increasing).imp_of_mem ?_
    intro first second here later less
    have left := within _ (List.mem_map_of_mem here)
    have right := within _ (List.mem_map_of_mem later)
    rcases NameKey.compare_eq_lt_iff.1 less with before | ⟨-, names⟩
    · dsimp only at left right before
      omega
    · exact names

/-- A directory other than the root can be unlinked exactly if nothing hangs in it. -/
theorem Tree.unlink_succeeds_iff (tree : ns.Tree) {ino : Nat} {dir : Entry}
    (there : ns.entries.get? ino = some dir) (directory : dir.stat.isDirectory = true)
    (other : ino ≠ rootIno) :
    (∃ next, ns.unlink ino = .ok next) ↔
      ∀ number entry, ns.entries.get? number = some entry → entry.parent ≠ ino := by
  constructor
  · rintro ⟨next, unlinked⟩ number entry held here
    obtain ⟨-, found, stood, empty, -⟩ := unlink_eq_ok_iff.1 unlinked
    obtain rfl := Option.some.inj (stood.symm.trans there)
    have child := (mem_childrenOf_iff tree.indexed tree.ordered).2 ⟨entry, held, here⟩
    exact empty ⟨directory, List.ne_nil_of_mem child⟩
  · intro childless
    have empty : ns.childrenOf ino = [] := by
      apply List.eq_nil_iff_forall_not_mem.2
      intro number child
      obtain ⟨entry, held, here⟩ := (mem_childrenOf_iff tree.indexed tree.ordered).1 child
      exact childless number entry held here
    exact ⟨_, unlink_eq_ok_iff.2 ⟨other, dir, there, fun full => full.2 empty, rfl⟩⟩

/-- A scan in the order of the names finds the children of a directory, all of them and no others. -/
theorem scanned_eq (ordered : ns.names.Ordered) (ino : Nat) : ns.scanned ino = ns.childrenOf ino :=
  congrArg (List.map Prod.snd) (takeWhile_dropWhile_names ino ordered)

end Shape

section Numbers

variable {ns : Namespace} {ino : Nat}

theorem nextIno_le_after (ns : Namespace) (r : InodeRequest) : ns.nextIno ≤ (ns.after r).nextIno := by
  cases entriesStep_after ns r <;> omega

theorem nextIno_le_run (ns : Namespace) (requests : List InodeRequest) :
    ns.nextIno ≤ (ns.run requests).nextIno := by
  induction requests generalizing ns with
  | nil => exact Nat.le_refl _
  | cons r rest ih => exact Nat.le_trans (nextIno_le_after ns r) (ih _)

/-- A number that was given out and is free stays free. -/
theorem free_after (out : ino < ns.nextIno) (free : ns.entries.get? ino = none) (r : InodeRequest) :
    (ns.after r).entries.get? ino = none := by
  cases entriesStep_after ns r with
  | same entries => rw [entries, free]
  | made _ _ entries => rw [entries, Table.get?_insert, if_neg (by omega), free]
  | stored place old _ found entries =>
    have other : ino ≠ place := by
      rintro rfl
      rw [free] at found
      cases found
    rw [entries, Table.get?_insert, if_neg other, free]
  | erased _ _ _ entries => rw [entries, Table.get?_erase]; simp [free]

theorem free_run (out : ino < ns.nextIno) (free : ns.entries.get? ino = none)
    (requests : List InodeRequest) : (ns.run requests).entries.get? ino = none := by
  induction requests generalizing ns with
  | nil => exact free
  | cons r rest ih =>
    exact ih (Nat.lt_of_lt_of_le out (nextIno_le_after ns r)) (free_after out free r)

/-- The number of a new entry is one that no entry had in a namespace on the way here. -/
theorem Tree.unborn (tree : ns.Tree) {requests : List InodeRequest} {template created : Entry}
    {next : Namespace} (made : (ns.run requests).create template = .ok (created, next)) :
    ns.entries.get? created.stat.ino = none := by
  obtain ⟨-, rfl, -⟩ := create_eq_ok made
  apply Option.eq_none_iff_forall_ne_some.2
  intro entry there
  have below := tree.numbered _ _ there
  have grown := nextIno_le_run ns requests
  dsimp only at below
  omega

end Numbers

/-- Whatever requests came before, whether they succeeded or failed: the entries form a tree that names
index one to one and that hangs from the root; a directory is listed by a scan of the names, which finds
its entries, each once and in order; it can be unlinked, if it is not the root, exactly if it has none;
and a number that was given out is never given out again. -/
theorem tree_of_run (requests : List InodeRequest) :
    let ns := initial.run requests
    ns.Tree ∧
      (∀ ino entry, ns.entries.get? ino = some entry → ns.Descends ino) ∧
      (∀ ino dir, ns.entries.get? ino = some dir → dir.stat.isDirectory = true →
        (∃ listed, ns.readDir ino = .ok listed ∧ ns.Lists ino listed) ∧
        ns.childrenOf ino = ns.scanned ino ∧
        (ino ≠ rootIno → ((∃ next, ns.unlink ino = .ok next) ↔
          ∀ number entry, ns.entries.get? number = some entry → entry.parent ≠ ino))) ∧
      (∀ ino more, ino < ns.nextIno → ns.entries.get? ino = none →
        (ns.run more).entries.get? ino = none) ∧
      ∀ earlier later template created next, requests = earlier ++ later →
        ns.create template = .ok (created, next) →
        (initial.run earlier).entries.get? created.stat.ino = none := by
  intro ns
  have tree : ns.Tree := tree_initial.run requests
  refine ⟨tree, fun ino entry => tree.descends, ?_, fun ino more out free => free_run out free more, ?_⟩
  · intro ino dir there directory
    exact ⟨tree.readDir_lists there directory, (scanned_eq tree.ordered ino).symm,
      tree.unlink_succeeds_iff there directory⟩
  · rintro earlier later template created next split made
    have onward : ns = (initial.run earlier).run later := by
      rw [← run_append, ← split]
    rw [onward] at made
    exact (tree_initial.run earlier).unborn made

/-- A directory is made with two files, and refuses to go; then the files go, and one comes back. -/
def shuffle : List InodeRequest :=
  [.create { name := "d", parent := 1, stat := { mode := Mode.directory } },
    .create { name := "b", parent := 2 }, .create { name := "a", parent := 2 }, .unlink 2,
    .setMode 2 7 7 0 ∅, .unlink 3, .create { name := "b", parent := 2 }]

/-- The directory is still one, with the files that are there now, and none has the number of the file
that went. -/
theorem tree_of_shuffle :
    let ns := initial.run shuffle
    (∃ dir, ns.entries.get? 2 = some dir ∧ dir.stat.isDirectory = true ∧ 2 ≠ rootIno) ∧
      (∃ listed, ns.readDir 2 = .ok listed ∧ ns.Lists 2 listed) ∧
      (¬ ∃ next, ns.unlink 2 = .ok next) ∧
      (3 < ns.nextIno ∧ ns.entries.get? 3 = none) ∧
      (ns.run [.unlink 4, .unlink 5, .create { name := "b", parent := 2 }]).entries.get? 3 = none := by
  intro ns
  obtain ⟨-, -, directories, free, -⟩ := tree_of_run shuffle
  obtain ⟨dir, there, directory⟩ : ∃ dir, ns.entries.get? 2 = some dir ∧ dir.stat.isDirectory = true :=
    ⟨_, rfl, rfl⟩
  obtain ⟨listed, -, unlinks⟩ := directories 2 dir there directory
  refine ⟨⟨dir, there, directory, by decide⟩, listed, ?_, ⟨by decide, rfl⟩,
    free 3 _ (by decide) rfl⟩
  intro unlinked
  exact (unlinks (by decide)).1 unlinked 4 _ rfl rfl

end Namespace
end Stowage
