import Stowage.Proofs.CatalogRuns

/-! The paths of entries. The names on the way up from an entry to the root, joined, are a path in its
normal form; root finds the entry there, and root finds entries nowhere else. What carries this from one
request to the next is that no catalog names an entry by something that a normal form would drop. -/
namespace Stowage

/-- The normal form of some components is the same wherever it is seen from. -/
theorem Path.absolute_join {components : List String}
    (all : ∀ part ∈ components, Path.IsComponent part) (cwd : String) :
    Path.absolute cwd (Path.join components) = Path.join components := by
  unfold Path.absolute
  rw [if_pos (Path.isAbsolute_join components), Path.split_join all]

namespace Namespace

variable {ns : Namespace} {ctx : SecurityContext} {ino number : Nat} {names others : List String}
  {entry : Entry}

/-- The way up from a number ends at the root, and passes by these names, the nearest last. -/
inductive Climbs (ns : Namespace) : Nat → List String → Prop where
  | root : Climbs ns rootIno []
  | up {ino : Nat} {entry : Entry} {names : List String} (other : ino ≠ rootIno)
      (there : ns.entries.get? ino = some entry) (above : Climbs ns entry.parent names) :
      Climbs ns ino (names ++ [entry.name])

/-- There is one way up. -/
theorem Climbs.unique (climbs : ns.Climbs ino names) (again : ns.Climbs ino others) :
    names = others := by
  induction climbs generalizing others with
  | root =>
    cases again with
    | root => rfl
    | up other => exact absurd rfl other
  | up other there _ ih =>
    cases again with
    | root => exact absurd rfl other
    | up _ found above =>
      obtain rfl := Option.some.inj (there.symm.trans found)
      rw [ih above]

/-- Every entry has a way up, for each hangs in an older one. -/
theorem Tree.climbs (tree : ns.Tree) (there : ns.entries.get? ino = some entry) :
    ∃ names, ns.Climbs ino names := by
  induction ino using Nat.strongRecOn generalizing entry with
  | ind ino ih =>
    by_cases top : ino = rootIno
    · exact ⟨[], top ▸ .root⟩
    · obtain ⟨parent, held, -, less⟩ := tree.parented ino entry there top
      obtain ⟨names, above⟩ := ih _ less held
      exact ⟨_, .up top there above⟩

/-- What is a child of an entry hangs in it and is not the root, which hangs at a number that no entry
has. -/
theorem Tree.ne_root_of_child (tree : ns.Tree) {name : String} {above : Entry}
    (child : ns.child ino name = .ok entry) (held : ns.entries.get? ino = some above) :
    entry.parent = ino ∧ ns.entries.get? entry.stat.ino = some entry ∧ entry.stat.ino ≠ rootIno := by
  obtain ⟨hangs, stored⟩ := tree.child_stored child
  refine ⟨hangs, stored, fun here => ?_⟩
  obtain ⟨root, there, -, top, -⟩ := tree.rooted
  rw [here, there] at stored
  cases stored
  rw [← hangs, top, tree.get?_rootParent] at held
  cases held

/-- The names on the way up are those of a path at which the entry stands, and of no other path. -/
theorem Tree.climbs_iff (tree : ns.Tree) :
    ns.Climbs ino names ↔ ∃ entry, ns.at? names = some entry ∧ entry.stat.ino = ino := by
  constructor
  · intro climbs
    induction climbs with
    | root =>
      obtain ⟨root, top, -, number, -⟩ := tree.child_root
      refine ⟨root, ?_, number⟩
      unfold at?
      rw [top]
      rfl
    | @up ino entry names _ there _ ih =>
      obtain ⟨parent, stands, number⟩ := ih
      have named := (tree.indexed ⟨entry.parent, entry.name⟩ ino).2 ⟨entry, there, rfl⟩
      have child : ns.child parent.stat.ino entry.name = .ok entry := by
        refine Error.bind_eq_ok_iff.2 ⟨ino, ?_, entry_eq_ok_iff.2 there⟩
        rw [number, named]
        rfl
      exact ⟨entry, at?_of_child stands child, tree.keyed _ _ there⟩
  · rintro ⟨entry, stands, rfl⟩
    induction names using List.reverseRecOn generalizing entry with
    | nil =>
      obtain ⟨root, top, -, number, -⟩ := tree.child_root
      unfold at? at stands
      rw [top] at stands
      cases stands
      rw [number]
      exact .root
    | append_singleton front name ih =>
      obtain ⟨parent, above, child⟩ := parent_of_at? stands
      have held := entry_eq_ok_iff.1 (tree.keyed.stored above)
      obtain ⟨hangs, stored, other⟩ := tree.ne_root_of_child child held
      rw [(NameKey.mk.inj (name_of_child tree.keyed tree.named child).1).2]
      exact .up other stored (hangs ▸ ih parent above)

/-- Where the way up from an entry comes from, the entry stands. -/
theorem Tree.at?_of_climbs (tree : ns.Tree) (climbs : ns.Climbs ino names)
    (there : ns.entries.get? ino = some entry) : ns.at? names = some entry := by
  obtain ⟨other, stands, rfl⟩ := tree.climbs_iff.1 climbs
  have stored := entry_eq_ok_iff.1 (tree.keyed.stored stands)
  rwa [there.symm.trans stored]

/-- Numbers with the same names on the way up are the same. -/
theorem Tree.climbs_injective (tree : ns.Tree) (climbs : ns.Climbs ino names)
    (again : ns.Climbs number names) : ino = number := by
  obtain ⟨entry, stands, rfl⟩ := tree.climbs_iff.1 climbs
  obtain ⟨other, there, rfl⟩ := tree.climbs_iff.1 again
  rw [Option.some.inj (stands.symm.trans there)]

section Root

variable (superuser : ctx.isRoot = true)
include superuser

/-- Root may do anything with any entry. -/
theorem permits_of_root (entry : Entry) (requested : Mode) : entry.permits ctx requested = true := by
  simp [Entry.permits, Permission.permits, superuser]

/-- The way that the names lead is open to root, for only directories have children. -/
theorem Tree.opens_of_follow (tree : ns.Tree) {current target : Entry}
    (stored : ns.entries.get? current.stat.ino = some current)
    (leads : ns.follow current names = some target) : ns.Opens ctx current names target := by
  induction names generalizing current with
  | nil =>
    cases leads
    exact .here _
  | cons name rest ih =>
    unfold follow at leads
    cases named : ns.child current.stat.ino name with
    | error e =>
      rw [named] at leads
      cases leads
    | ok next =>
      rw [named] at leads
      obtain ⟨hangs, there, other⟩ := tree.ne_root_of_child named stored
      obtain ⟨parent, held, directory, -⟩ := tree.parented _ _ there other
      rw [hangs, stored] at held
      cases held
      exact .down directory (permits_of_root superuser current _) named (ih there leads)

/-- Root reaches whatever stands at a path. -/
theorem Tree.reaches_iff_of_root (tree : ns.Tree) :
    ns.Reaches ctx names entry ↔ ns.at? names = some entry := by
  refine ⟨at?_of_reaches, fun stands => ?_⟩
  obtain ⟨root, top, held, number, -⟩ := tree.child_root
  unfold at? at stands
  rw [top] at stands
  exact ⟨root, top, tree.opens_of_follow superuser (number ▸ held) stands⟩

end Root

/-- Every entry but the root bears a name that a normal form can have. -/
def Tidy (ns : Namespace) : Prop :=
  ∀ ino entry, ns.entries.get? ino = some entry → ino ≠ rootIno → Path.IsComponent entry.name

theorem tidy_initial : initial.Tidy := by
  intro ino entry there other
  obtain ⟨rfl, -⟩ := Prod.mk.inj (List.mem_singleton.1 (Table.mem_of_get? there))
  exact absurd rfl other

/-- A visit gives no entry a name but a component of the path that it asks for. -/
theorem Tidy.visited (tidy : ns.Tidy) (tree : ns.Tree) (v : Visit) : (ns.visited v).Tidy := by
  intro ino entry there other
  cases origin_of_visited tree there with
  | kept old held size same =>
    rw [same]
    exact tidy ino old held other
  | restyled ctx known old held style =>
    rw [style.kept.2.1]
    exact tidy ino old held other
  | made path name type mode asked ctx known parent front whole reaches fresh same =>
    rw [same]
    have last : name ∈ v.session.names path := whole ▸ List.mem_append_right front List.mem_cons_self
    exact Path.isComponent_of_mem_split last

theorem tidy_of_visits (turns : List Visit) : (initial.visits turns).Tidy := by
  induction turns using List.reverseRecOn with
  | nil => exact tidy_initial
  | append_singleton earlier v ih =>
    rw [visits_append]
    exact ih.visited (tree_of_visits earlier) v

theorem Climbs.components (climbs : ns.Climbs ino names) (tidy : ns.Tidy) :
    ∀ part ∈ names, Path.IsComponent part := by
  induction climbs with
  | root => exact nofun
  | up other there _ ih =>
    intro part member
    rcases List.mem_append.1 member with before | last
    · exact ih part before
    · rw [List.mem_singleton.1 last]
      exact tidy _ _ there other

end Namespace

namespace BuiltIn

open Namespace

variable {ns : Namespace} {session : CatalogSession} {ctx : SecurityContext}

/-- Root is shown the entry that stands at the path. -/
theorem entry_eq_ok_iff_of_root (tree : ns.Tree) (known : session.security = some ctx)
    (superuser : ctx.isRoot = true) {path : String} {entry : Entry} {after : Browsing Namespace} :
    handler (some Namespace.handler) (.entry path) ⟨session, ns⟩ = .ok entry after ↔
      ns.at? (session.names path) = some entry ∧ after = ⟨session, ns⟩ := by
  have looks : handler (some Namespace.handler) (.entry path) ⟨session, ns⟩ =
      lookup (some Namespace.handler) (Path.absolute session.workingDir path) ⟨session, ns⟩ := rfl
  rw [looks, lookup_eq_ok_iff shows_namespace, known]
  constructor
  · rintro ⟨⟨_, -, reaches⟩, same⟩
    exact ⟨at?_of_reaches reaches, same⟩
  · rintro ⟨stands, same⟩
    exact ⟨⟨ctx, rfl, (tree.reaches_iff_of_root superuser).2 stands⟩, same⟩

/-- Whatever catalogs did to the namespace, each for any identity: from every entry one way leads up to the
root, the names on it make a path in its normal form, and root finds that entry at that path. No two
entries have the same path, and root finds something at a path exactly if its normal form is the path of
some entry. -/
theorem entries_found_exactly_at_their_paths (turns : List Visit) (session : CatalogSession)
    (ctx : SecurityContext) (known : session.security = some ctx) (superuser : ctx.isRoot = true) :
    let ns := initial.visits turns
    (∀ ino entry, ns.entries.get? ino = some entry →
      ∃ names, ns.Climbs ino names ∧ (∀ others, ns.Climbs ino others → others = names) ∧
        (∀ cwd, Path.absolute cwd (Path.join names) = Path.join names) ∧
        handler (some Namespace.handler) (.entry (Path.join names)) ⟨session, ns⟩ =
          .ok entry ⟨session, ns⟩) ∧
    (∀ ino number names others, ns.Climbs ino names → ns.Climbs number others →
      Path.join names = Path.join others → ino = number) ∧
    ∀ path, (∃ entry after,
        handler (some Namespace.handler) (.entry path) ⟨session, ns⟩ = .ok entry after) ↔
      ∃ ino entry names, ns.entries.get? ino = some entry ∧ ns.Climbs ino names ∧
        Path.absolute session.workingDir path = Path.join names := by
  intro ns
  have tree : ns.Tree := tree_of_visits turns
  have tidy : ns.Tidy := tidy_of_visits turns
  refine ⟨fun ino entry there => ?_, fun ino number names others climbs again same => ?_,
    fun path => ⟨?_, ?_⟩⟩
  · obtain ⟨names, climbs⟩ := tree.climbs there
    have components := climbs.components tidy
    refine ⟨names, climbs, fun others again => again.unique climbs, Path.absolute_join components, ?_⟩
    refine (entry_eq_ok_iff_of_root tree known superuser).2 ⟨?_, rfl⟩
    rw [CatalogSession.names, Path.absolute_join components, Path.split_join components]
    exact tree.at?_of_climbs climbs there
  · have split := congrArg Path.split same
    rw [Path.split_join (climbs.components tidy), Path.split_join (again.components tidy)] at split
    subst split
    exact tree.climbs_injective climbs again
  · rintro ⟨entry, after, found⟩
    obtain ⟨stands, -⟩ := (entry_eq_ok_iff_of_root tree known superuser).1 found
    obtain ⟨names, components, normal⟩ := Path.absolute_eq_join session.workingDir path
    rw [CatalogSession.names, normal, Path.split_join components] at stands
    exact ⟨_, entry, names, Namespace.entry_eq_ok_iff.1 (tree.keyed.stored stands),
      tree.climbs_iff.2 ⟨entry, stands, rfl⟩, normal⟩
  · rintro ⟨ino, entry, names, there, climbs, normal⟩
    refine ⟨entry, _, (entry_eq_ok_iff_of_root tree known superuser).2 ⟨?_, rfl⟩⟩
    rw [CatalogSession.names, normal, Path.split_join (climbs.components tidy)]
    exact tree.at?_of_climbs climbs there

/-- Root makes a directory for everyone, and alice a file in it; neither tells the path in its normal
form. -/
def untidy : List Visit :=
  [⟨{ security := some SecurityContext.root, umask := 0 }, .makeDir "//d/" 0o777⟩,
    ⟨{ security := some ReplicaRights.alice, workingDir := "/d/.." }, .create "./d/../d//f" 0o600⟩]

/-- The file of alice has a path, and root finds it from the directory in a roundabout way. -/
theorem entry_found_at_untidy_path :
    let ns := initial.visits untidy
    let session : CatalogSession := { security := some SecurityContext.root, workingDir := "/d" }
    (∃ entry, ns.entries.get? 3 = some entry ∧
      handler (some Namespace.handler) (.entry "/d/f") ⟨session, ns⟩ = .ok entry ⟨session, ns⟩) ∧
    ∃ entry after, handler (some Namespace.handler) (.entry ".././d/f/") ⟨session, ns⟩ = .ok entry after := by
  intro ns session
  obtain ⟨paths, -, found⟩ :=
    entries_found_exactly_at_their_paths untidy session SecurityContext.root rfl rfl
  have hung : (ns.entries.get? 2).map (fun entry => (entry.parent, entry.name)) = some (1, "d") ∧
      (ns.entries.get? 3).map (fun entry => (entry.parent, entry.name)) = some (2, "f") := by
    decide +kernel
  obtain ⟨dir, held, above⟩ := Option.map_eq_some_iff.1 hung.1
  obtain ⟨file, there, below⟩ := Option.map_eq_some_iff.1 hung.2
  obtain ⟨⟨top, dirName⟩, ⟨upper, fileName⟩⟩ := And.intro (Prod.mk.inj above) (Prod.mk.inj below)
  have climbs : ns.Climbs 3 ["d", "f"] := by
    have way : ns.Climbs 2 ([] ++ [dir.name]) := .up (by decide) held (top ▸ .root)
    have further : ns.Climbs 3 (["d"] ++ [file.name]) :=
      .up (by decide) there (upper ▸ dirName ▸ way)
    exact fileName ▸ further
  obtain ⟨names, -, unique, -, finds⟩ := paths 3 file there
  rw [← unique _ climbs] at finds
  have normal : Path.join ["d", "f"] = "/d/f" := by decide +kernel
  exact ⟨⟨file, there, normal ▸ finds⟩,
    (found _).2 ⟨3, file, _, there, climbs, normal.symm ▸ by decide +kernel⟩⟩

end BuiltIn
end Stowage
