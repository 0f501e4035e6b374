import Stowage.Proofs.Preparations

/-! Normal forms of paths. A path is read from left to right, and each component changes the list of those
before it, so that a path behind a directory is read from the components of the directory on. Of the directory
nothing but its components counts, and its normal form will do. So it is nothing to a path how often it was made
absolute, and what the resolution hands to the catalog of its stack is found there as the path itself is. -/
namespace Stowage

/-- Texts around a separator have their parts one after the other. -/
theorem Text.parts_append (sep : Char) (front back : String) :
    parts sep (front ++ String.singleton sep ++ back) = parts sep front ++ parts sep back := by
  simp only [parts, String.toList_append, String.toList_singleton, List.append_assoc, List.singleton_append,
    List.splitOn_append_cons_self, List.map_append]

namespace Path

variable {cwd dir other path : String}

/-- A path behind a directory is read from the components of the directory on. -/
theorem split_append (dir path : String) :
    split (dir ++ "/" ++ path) = ((Text.parts '/' path).foldl enter (split dir).reverse).reverse := by
  have pieces : Text.parts '/' (dir ++ "/" ++ path) = Text.parts '/' dir ++ Text.parts '/' path :=
    Text.parts_append '/' dir path
  unfold split
  rw [pieces, List.foldl_append, List.reverse_reverse]

theorem absolute_of_isAbsolute (absolute_ : isAbsolute path = true) (cwd : String) :
    absolute cwd path = join (split path) := by
  unfold absolute
  rw [if_pos absolute_]

theorem absolute_of_relative (relative : isAbsolute path = false) (cwd : String) :
    absolute cwd path = join (split (cwd ++ "/" ++ path)) := by
  unfold absolute
  rw [if_neg (by simp [relative])]

theorem split_join_split (path : String) : split (join (split path)) = split path :=
  split_join fun _ member => isComponent_of_mem_split member

/-- Whatever is seen from a directory is seen from the normal form of the directory. -/
theorem absolute_join_split (dir : String) (relative : isAbsolute path = false) :
    absolute (join (split dir)) path = join (split (dir ++ "/" ++ path)) := by
  rw [absolute_of_relative relative, split_append, split_join_split, ← split_append]

/-- A text that is not empty says at once whether it is absolute. -/
theorem isAbsolute_append (nonempty : dir ≠ "") (path : String) : isAbsolute (dir ++ path) = isAbsolute dir := by
  unfold isAbsolute
  rw [String.toList_append]
  cases letters : dir.toList with
  | nil => exact absurd (String.toList_inj.1 letters) nonempty
  | cons c rest => rfl

/-- A path is the same from a directory as behind it. -/
theorem absolute_append (nonempty : dir ≠ "") (relative : isAbsolute path = false) (cwd : String) :
    absolute (absolute cwd dir) path = absolute cwd (dir ++ "/" ++ path) := by
  have start : isAbsolute (dir ++ "/" ++ path) = isAbsolute dir := by
    rw [String.append_assoc]
    exact isAbsolute_append nonempty _
  cases rooted : isAbsolute dir with
  | true =>
    rw [absolute_of_isAbsolute rooted, absolute_join_split dir relative,
      absolute_of_isAbsolute (start.trans rooted)]
  | false =>
    rw [absolute_of_relative rooted, absolute_join_split _ relative,
      absolute_of_relative (start.trans rooted)]
    simp only [String.append_assoc]

/-- What a path is seen as: the root, or components that each stand after a slash. -/
theorem absolute_eq_root_or (cwd path : String) :
    absolute cwd path = "/" ∨ ∃ names, names ≠ [] ∧ (∀ name ∈ names, IsComponent name) ∧
      absolute cwd path = "/" ++ "/".intercalate names := by
  obtain ⟨names, proper, same⟩ := absolute_eq_join cwd path
  cases names with
  | nil => exact .inl same
  | cons name rest => exact .inr ⟨name :: rest, List.cons_ne_nil _ _, proper, same⟩

/-- The last component of a normal form is the name, and the others are the parent. -/
theorem parentAndName_join {names : List String} {name : String} (proper : ∀ part ∈ names, IsComponent part)
    (last : IsComponent name) : parentAndName (join (names ++ [name])) = (join names, some name) := by
  have all : ∀ part ∈ names ++ [name], IsComponent part := by
    intro part member
    rcases List.mem_append.1 member with front | back
    · exact proper part front
    · exact List.mem_singleton.1 back ▸ last
  unfold parentAndName
  rw [split_join all]
  simp

end Path

/-! ### Paths as a stack sees them -/

/-- The directory that a stack sees relative paths from: that of the session of its catalog. -/
def OnSite.workingDir (s : OnSite) : String :=
  match s.stack.catalog with
  | some chain => chain.base.session.workingDir
  | none => "/"

namespace BuiltIn

variable {ν : Type} {below : Below ν} {target path : String} {b : Browsing ν}

/-! What the built-in catalog does with a path, it does with another one that is the same from its working
directory. -/

variable (same : Path.absolute b.session.workingDir target = Path.absolute b.session.workingDir path)
include same

theorem absolute_bind_congr {β : Type} (next : String → Action (Browsing ν) β) :
    (absolute target >>= next) b = (absolute path >>= next) b := by
  have seen : ∀ p : String, absolute p b = .ok (Path.absolute b.session.workingDir p) b := fun _ => rfl
  rw [Action.bind_of_ok (seen target), Action.bind_of_ok (seen path), same]

theorem entryAt_congr : entryAt below target b = entryAt below path b := by
  unfold entryAt
  exact absolute_bind_congr same _

theorem replicas_congr : replicas below target b = replicas below path b := by
  unfold replicas
  exact absolute_bind_congr same _

theorem createEntry_congr (type mode : Mode) :
    createEntry below target type mode b = createEntry below path type mode b := by
  unfold createEntry
  exact absolute_bind_congr same _

end BuiltIn

namespace Site

variable {target path : String} {excluded : Exclusions} {outer : List Decorator} {base : CatalogNode}
  {site : Site}

/-! A chain takes paths for the same that are the same from its working directory. -/

variable (same : Path.absolute base.session.workingDir target = Path.absolute base.session.workingDir path)
include same

theorem catalogHandler_entry_congr :
    catalogHandler excluded ⟨outer, base⟩ (.entry target) ⟨base.session, site⟩ =
      catalogHandler excluded ⟨outer, base⟩ (.entry path) ⟨base.session, site⟩ := by
  rw [catalogHandler_passed rfl, catalogHandler_passed rfl]
  cases base with
  | plain node => rfl
  | builtIn below session => exact BuiltIn.entryAt_congr same

theorem catalogHandler_create_congr (mode : Mode) :
    catalogHandler excluded ⟨outer, base⟩ (.create target mode) ⟨base.session, site⟩ =
      catalogHandler excluded ⟨outer, base⟩ (.create path mode) ⟨base.session, site⟩ := by
  rw [catalogHandler_passed rfl, catalogHandler_passed rfl]
  cases base with
  | plain node => rfl
  | builtIn below session =>
    have here : Path.absolute session.workingDir target = Path.absolute session.workingDir path := same
    exact BuiltIn.createEntry_congr (b := ⟨session, site⟩) here Mode.regular mode

theorem catalogHandler_replicas_congr :
    catalogHandler excluded ⟨outer, base⟩ (.replicas target) ⟨base.session, site⟩ =
      catalogHandler excluded ⟨outer, base⟩ (.replicas path) ⟨base.session, site⟩ := by
  induction outer with
  | nil =>
    cases base with
    | plain node => rfl
    | builtIn below session => exact BuiltIn.replicas_congr same
  | cons d rest ih =>
    by_cases hides : d = .librarian true
    · subst hides
      -- What is hidden is hidden from the same answer.
      change (catalogHandler excluded ⟨rest, base⟩ (.replicas target) >>= fun found =>
          pure (excluded.hide found)) _ =
        (catalogHandler excluded ⟨rest, base⟩ (.replicas path) >>= fun found => pure (excluded.hide found)) _
      rw [Action.bind_apply, Action.bind_apply, ih]
    · rw [catalogHandler_replicas_of_shown hides, catalogHandler_replicas_of_shown hides]
      exact ih

end Site

/-- What a stack makes of the result that its catalog chain came to. -/
def OnSite.afterCatalog {α : Type} (s : OnSite) (chain : Chain CatalogNode) :
    EStateM.Result Error (Browsing Site) α → EStateM.Result Error OnSite α
  | .ok answer b => .ok answer (StackM.browsed s chain b)
  | .error e b => .error e (StackM.browsed s chain b)

theorem StackM.catalog_eq_afterCatalog {s : OnSite} {chain : Chain CatalogNode}
    (wired : s.stack.catalog = some chain) (r : CatalogRequest) :
    catalog r s = s.afterCatalog chain
      (Site.catalogHandler s.stack.excluded chain r ⟨chain.base.session, s.site⟩) := by
  rw [catalog_apply wired]
  cases Site.catalogHandler s.stack.excluded chain r ⟨chain.base.session, s.site⟩ <;> rfl

namespace Resolution

variable {s t : OnSite} {path target : String}

/-- The resolution sees every path from the working directory of the stack, if there is a catalog. -/
theorem absolute_eq_ok_iff :
    absolute path s = .ok target t ↔
      s.stack.catalog.isSome = true ∧ target = Path.absolute s.workingDir path ∧ t = s := by
  unfold OnSite.workingDir
  cases wired : s.stack.catalog with
  | none =>
    have missing : absolute path s = .error (.noFactory .catalog) s :=
      Action.bind_of_error (StackM.need_of_none wired)
    simp [missing]
  | some chain =>
    have seen : absolute path s = .ok (Path.absolute chain.base.session.workingDir path) s := by
      obtain ⟨outer, base⟩ := chain
      have handed := Site.catalogHandler_passed (r := .workingDir) rfl s.stack.excluded outer base
      refine (Action.bind_of_ok (StackM.need_of_some wired)).trans ?_
      cases base with
      | builtIn below session =>
        have own : Site.catalogHandler s.stack.excluded ⟨outer, .builtIn below session⟩ .workingDir
            ⟨session, s.site⟩ = Action.ofExcept (.ok session.workingDir) ⟨session, s.site⟩ := by
          rw [handed]
          rfl
        have told : StackM.catalog .workingDir s = .ok session.workingDir s :=
          StackM.catalog_of_answer wired own
        exact Action.bind_of_ok (Action.attempt_of_ok told)
      | plain node =>
        have none_ : Site.catalogHandler s.stack.excluded ⟨outer, .plain node⟩ .workingDir ⟨{}, s.site⟩ =
            Action.ofExcept (.error (Contract.catalog.unanswered .workingDir)) ⟨{}, s.site⟩ := by
          rw [handed]
          rfl
        have silent : StackM.catalog .workingDir s = .error (Contract.catalog.unanswered .workingDir) s :=
          StackM.catalog_of_answer wired none_
        exact Action.bind_of_ok (Action.attempt_of_error silent)
    rw [seen]
    constructor
    · intro done
      cases done
      exact ⟨rfl, rfl, rfl⟩
    · rintro ⟨-, rfl, rfl⟩
      rfl

/-- What the resolution made of a path, the catalog takes for the path. -/
theorem catalog_of_absolute (seen : absolute path s = .ok target t) :
    StackM.catalog (.entry target) s = StackM.catalog (.entry path) s ∧
      StackM.catalog (.replicas target) s = StackM.catalog (.replicas path) s ∧
      ∀ mode, StackM.catalog (.create target mode) s = StackM.catalog (.create path mode) s := by
  obtain ⟨there, rfl, -⟩ := absolute_eq_ok_iff.1 seen
  obtain ⟨⟨outer, base⟩, wired⟩ := Option.isSome_iff_exists.1 there
  have directory : s.workingDir = base.session.workingDir := by
    unfold OnSite.workingDir
    rw [wired]
  have same := Path.absolute_absolute s.workingDir s.workingDir path
  rw [directory] at same ⊢
  refine ⟨?_, ?_, fun mode => ?_⟩
  · rw [StackM.catalog_eq_afterCatalog wired, StackM.catalog_eq_afterCatalog wired]
    exact congrArg (s.afterCatalog _) (Site.catalogHandler_entry_congr same)
  · rw [StackM.catalog_eq_afterCatalog wired, StackM.catalog_eq_afterCatalog wired]
    exact congrArg (s.afterCatalog _) (Site.catalogHandler_replicas_congr same)
  · rw [StackM.catalog_eq_afterCatalog wired, StackM.catalog_eq_afterCatalog wired]
    exact congrArg (s.afterCatalog _) (Site.catalogHandler_create_congr same mode)

end Resolution

namespace Path

/-- The laws of normal forms. A path is seen as the root or as proper components, each after a slash; seen once
more, from wherever, it stays the same; from a directory it is what it is behind the directory; and components
can be had back from their normal form, all of them, or the last one and the form of the others. So the catalog
of a stack finds under what the resolution made of a path what it finds under the path. -/
theorem absolute_normalises_and_split_recovers :
    (∀ cwd path, absolute cwd path = "/" ∨ ∃ names, names ≠ [] ∧ (∀ name ∈ names, IsComponent name) ∧
        absolute cwd path = "/" ++ "/".intercalate names) ∧
      (∀ cwd other path, absolute other (absolute cwd path) = absolute cwd path) ∧
      (∀ cwd dir path, dir ≠ "" → isAbsolute path = false →
        absolute (absolute cwd dir) path = absolute cwd (dir ++ "/" ++ path)) ∧
      (∀ names, (∀ name ∈ names, IsComponent name) → split (join names) = names) ∧
      (∀ names name, (∀ part ∈ names, IsComponent part) → IsComponent name →
        parentAndName (join (names ++ [name])) = (join names, some name)) ∧
      ∀ (s t : OnSite) (path target : String), Resolution.absolute path s = .ok target t →
        target = absolute s.workingDir path ∧ t = s ∧
          StackM.catalog (.entry target) s = StackM.catalog (.entry path) s ∧
          StackM.catalog (.replicas target) s = StackM.catalog (.replicas path) s ∧
          ∀ mode, StackM.catalog (.create target mode) s = StackM.catalog (.create path mode) s := by
  refine ⟨absolute_eq_root_or, absolute_absolute, ?_, fun _ => split_join, ?_, ?_⟩
  · exact fun cwd dir path nonempty relative => absolute_append nonempty relative cwd
  · exact fun names name proper last => parentAndName_join proper last
  · intro s t path target seen
    obtain ⟨-, here, same⟩ := Resolution.absolute_eq_ok_iff.1 seen
    exact ⟨here, same, Resolution.catalog_of_absolute seen⟩

/-- Parents and dots are gone from a path seen step by step, and root's catalog finds what they led to. -/
theorem detours_normalised :
    absolute (absolute "/home/alice" "x/../y") "../bob/./f" = absolute "/home/alice" "x/../y/../bob/./f" ∧
      split (join ["data", "f"]) = ["data", "f"] ∧
      parentAndName (join (["data"] ++ ["f"])) = (join ["data"], some "f") ∧
      StackM.catalog (.entry "/f") (OnSite.desk .root .initial ∅ .initial) =
        StackM.catalog (.entry "a/..//f") (OnSite.desk .root .initial ∅ .initial) := by
  obtain ⟨-, -, within, whole, last, resolved⟩ := absolute_normalises_and_split_recovers
  have data : ∀ name ∈ ["data"], IsComponent name := by simp [IsComponent]
  have both : ∀ name ∈ ["data", "f"], IsComponent name := by simp [IsComponent]
  have file : IsComponent "f" := by simp [IsComponent]
  have seen : Resolution.absolute "a/..//f" (OnSite.desk .root .initial ∅ .initial) =
      .ok "/f" (OnSite.desk .root .initial ∅ .initial) := by
    have here : Path.absolute "/" "a/..//f" = "/f" := by decide +kernel
    exact Resolution.absolute_eq_ok_iff.2 ⟨rfl, here.symm, rfl⟩
  obtain ⟨-, -, entry, -⟩ := resolved _ _ _ _ seen
  exact ⟨within _ _ _ (by decide) (by decide), whole _ both, last _ _ data file, entry⟩

end Path
end Stowage
