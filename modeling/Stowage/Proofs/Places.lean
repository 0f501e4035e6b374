import Mathlib.Data.List.Induction
import Stowage.Proofs.Unlinking

/-! Where files stand in a namespace. A name leads to the entry that bears it, so nothing stands at two
paths. When a file is unlinked, a walk to its path misses it, and every other way is as open as it was. -/
namespace Stowage.Namespace

variable {ns next : Namespace} {names others : List String} {entry target : Entry}

/-- What stands at a path of several components stands in the directory above. -/
theorem parent_of_at? {name : String} (there : ns.at? (names ++ [name]) = some entry) :
    ∃ parent, ns.at? names = some parent ∧ ns.child parent.stat.ino name = .ok entry := by
  unfold at? at there ⊢
  cases top : ns.child rootParent "/" with
  | error e =>
    rw [top] at there
    cases there
  | ok root =>
    rw [top] at there
    dsimp only at there ⊢
    rw [follow_append] at there
    obtain ⟨parent, above, below⟩ := Option.bind_eq_some_iff.1 there
    refine ⟨parent, above, ?_⟩
    unfold follow at below
    cases named : ns.child parent.stat.ino name with
    | error e =>
      rw [named] at below
      cases below
    | ok child =>
      rw [named] at below
      cases below
      rfl

section Names

variable (keyed : ns.EntriesKeyed) (named : ns.Named)
include keyed named

/-- A name within a directory is the one that its entry bears. -/
theorem name_of_child {parent : Nat} {name : String} (found : ns.child parent name = .ok entry) :
    (⟨parent, name⟩ : NameKey) = ⟨entry.parent, entry.name⟩ ∧
      ns.names.get? ⟨parent, name⟩ = some entry.stat.ino := by
  obtain ⟨number, looked, stored⟩ := Error.bind_eq_ok_iff.1 found
  have there := entry_eq_ok_iff.1 stored
  have led : ns.names.get? ⟨parent, name⟩ = some number := by
    cases held : ns.names.get? ⟨parent, name⟩ with
    | none =>
      rw [held] at looked
      cases looked
    | some other =>
      rw [held] at looked
      cases looked
      rfl
  obtain ⟨bearer, same, bears⟩ := named _ _ led
  obtain rfl := Option.some.inj (same.symm.trans there)
  rw [keyed _ _ there]
  exact ⟨bears, led⟩

/-- What stands at a path bears a name that leads to it. -/
theorem name_of_at? (there : ns.at? names = some entry) :
    ns.names.get? ⟨entry.parent, entry.name⟩ = some entry.stat.ino := by
  have bears : ∀ {parent : Nat} {name : String}, ns.child parent name = .ok entry →
      ns.names.get? ⟨entry.parent, entry.name⟩ = some entry.stat.ino := by
    intro parent name found
    obtain ⟨same, led⟩ := name_of_child keyed named found
    rwa [same] at led
  rcases List.eq_nil_or_concat names with rfl | ⟨front, last, rfl⟩
  · unfold at? at there
    split at there
    · rename_i root top
      cases there
      exact bears top
    · cases there
  · rw [List.concat_eq_append] at there
    obtain ⟨parent, -, found⟩ := parent_of_at? there
    exact bears found

/-- Nothing but the root stands at the root. -/
theorem not_root_of_at? {name : String} (component : Path.IsComponent name)
    (top : ns.at? [] = some entry) : ns.at? (names ++ [name]) ≠ some entry := by
  intro there
  obtain ⟨parent, -, below⟩ := parent_of_at? there
  unfold at? at top
  split at top
  · rename_i root above
    cases top
    have first := (name_of_child keyed named above).1
    have second := (name_of_child keyed named below).1
    obtain ⟨-, slash⟩ := NameKey.mk.inj (second.trans first.symm)
    rw [slash] at component
    exact component.2.2.2 (by decide)
  · cases top

/-- Nothing stands at two paths. -/
theorem at?_injective (here : ns.at? names = some entry) (there : ns.at? others = some entry)
    (components : ∀ part ∈ names, Path.IsComponent part)
    (parts : ∀ part ∈ others, Path.IsComponent part) : names = others := by
  induction names using List.reverseRecOn generalizing others entry with
  | nil =>
    rcases List.eq_nil_or_concat others with rfl | ⟨front, last, rfl⟩
    · rfl
    · rw [List.concat_eq_append] at there
      exact absurd there (not_root_of_at? keyed named (parts last (by simp)) here)
  | append_singleton front last ih =>
    rcases List.eq_nil_or_concat others with rfl | ⟨start, final, rfl⟩
    · exact absurd here (not_root_of_at? keyed named (components last (by simp)) there)
    · rw [List.concat_eq_append] at there parts ⊢
      obtain ⟨parent, above, below⟩ := parent_of_at? here
      obtain ⟨directory, higher, under⟩ := parent_of_at? there
      have first := (name_of_child keyed named below).1
      have second := (name_of_child keyed named under).1
      obtain ⟨number, same⟩ := NameKey.mk.inj (first.trans second.symm)
      have stored := keyed.stored above
      rw [number, keyed.stored higher] at stored
      obtain rfl := Except.ok.inj stored
      rw [ih above higher (fun part member => components part (by simp [member]))
        (fun part member => parts part (by simp [member])), same]

/-- A name leads where it led, when something else is unlinked. -/
theorem child_of_unlinked (here : ns.at? names = some entry)
    (made : ns.unlink entry.stat.ino = .ok next) {parent : Nat} {name : String}
    (found : ns.child parent name = .ok target) (apart : target.stat.ino ≠ entry.stat.ino) :
    next.child parent name = .ok target := by
  obtain ⟨gone, stored, rfl⟩ := unlink_eq_ok made
  obtain rfl := Except.ok.inj ((keyed.stored here).symm.trans stored)
  obtain ⟨number, looked, held⟩ := Error.bind_eq_ok_iff.1 found
  have same : target.stat.ino = number := keyed _ _ (entry_eq_ok_iff.1 held)
  have led := (name_of_child keyed named found).2
  refine Error.bind_eq_ok_iff.2 ⟨number, ?_, ?_⟩
  · have other : (⟨parent, name⟩ : NameKey) ≠ ⟨entry.parent, entry.name⟩ := by
      intro bears
      rw [bears, name_of_at? keyed named here] at led
      exact apart (Option.some.inj led).symm
    rw [Table.get?_erase, if_neg other]
    exact looked
  · have other : number ≠ entry.stat.ino := same ▸ apart
    rw [entry_eq_ok_iff, Table.get?_erase, if_neg other]
    exact entry_eq_ok_iff.1 held

/-- The way to something else is open as before, when a file is unlinked. -/
theorem reaches_of_unlinked {ctx : SecurityContext} (here : ns.at? names = some entry)
    (file : entry.stat.isDirectory = false) (made : ns.unlink entry.stat.ino = .ok next)
    (reaches : ns.Reaches ctx others target) (apart : target.stat.ino ≠ entry.stat.ino) :
    next.Reaches ctx others target := by
  -- What is on the way is a directory, and so it is not the file.
  have passed : ∀ {below : Entry}, ns.entry below.stat.ino = .ok below →
      below.stat.isDirectory = true → below.stat.ino ≠ entry.stat.ino := by
    intro below stored directory same
    rw [same, keyed.stored here] at stored
    rw [Except.ok.inj stored, directory] at file
    cases file
  have away : ∀ {current goal : Entry} {rest : List String},
      ns.entry current.stat.ino = .ok current → ns.Opens ctx current rest goal →
        goal.stat.ino ≠ entry.stat.ino → current.stat.ino ≠ entry.stat.ino := by
    intro current goal rest stored opens apart
    cases opens with
    | here _ => exact apart
    | down directory _ _ _ => exact passed stored directory
  have walk : ∀ {current goal : Entry} {rest : List String}, ns.Opens ctx current rest goal →
      goal.stat.ino ≠ entry.stat.ino → next.Opens ctx current rest goal := by
    intro current goal rest opens apart
    induction opens with
    | here _ => exact .here _
    | down directory searchable found below ih =>
      have off := away (keyed.child found) below apart
      exact .down directory searchable (child_of_unlinked keyed named here made found off) (ih apart)
  obtain ⟨root, top, opens⟩ := reaches
  have off := away (keyed.child top) opens apart
  exact ⟨root, child_of_unlinked keyed named here made top off, walk opens apart⟩

end Names

/-- A walk that was open misses what does not stand at the path any more. -/
theorem find_of_vanished {ctx : SecurityContext} {path : String}
    (fewer : ∀ {parent : Nat} {name : String} {below : Entry},
      next.child parent name = .ok below → ns.child parent name = .ok below)
    (reaches : ns.Reaches ctx (Path.split path) entry)
    (gone : next.at? (Path.split path) = none) :
    ∃ e, next.find ctx path = .error e ∧ e.kind = .fileNotFound := by
  have walk : ∀ {current goal : Entry} {rest : List String}, ns.Opens ctx current rest goal →
      next.follow current rest = none → ∀ walked : List String,
        ∃ e, next.descend ctx path walked current rest = .error e ∧ e.kind = .fileNotFound := by
    intro current goal rest opens
    induction opens with
    | here _ => exact nofun
    | @down current below _ name _ directory searchable found _ ih =>
      intro missed walked
      unfold follow at missed
      unfold descend
      simp only [directory, searchable, not_true_eq_false, if_false]
      cases child : next.child current.stat.ino name with
      | error e => exact ⟨_, rfl, by simp [kind_of_child_eq_error child]; rfl⟩
      | ok other =>
        obtain rfl := Except.ok.inj (found.symm.trans (fewer child))
        rw [child] at missed
        exact ih missed _
  obtain ⟨root, top, opens⟩ := reaches
  unfold at? at gone
  unfold find
  cases child : next.child rootParent "/" with
  | error e => exact ⟨e, rfl, kind_of_child_eq_error child⟩
  | ok other =>
    obtain rfl := Except.ok.inj (top.symm.trans (fewer child))
    rw [child] at gone
    exact walk opens gone []

end Stowage.Namespace
