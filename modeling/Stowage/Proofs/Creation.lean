import Stowage.Proofs.NamespaceTree
import Stowage.Proofs.NewFiles

/-! Where a file can be made. Somebody who may write to a directory, and search it, misses a file that is
not there in the way that a look-up reports as missing, and the catalog then makes the file. -/
namespace Stowage

/-- Whoever is permitted to do something may do less. -/
theorem Permission.permits_less {ctx : SecurityContext} {acl : Acl} {entry : Ownership}
    {requested less : Mode} (part : (requested &&& 7) &&& (less &&& 7) = less &&& 7)
    (permitted : permits ctx acl entry requested = true) : permits ctx acl entry less = true := by
  have covered : ∀ granted : Mode, covers granted (requested &&& 7) = true →
      covers granted (less &&& 7) = true := by
    intro granted all
    simp only [covers, beq_iff_eq] at all ⊢
    rw [← part, ← UInt32.and_assoc, all]
  unfold permits at permitted ⊢
  by_cases root : ctx.isRoot = true
  · simp [root]
  · by_cases banned : ctx.isBanned = true
    · simp [root, banned] at permitted
    · simp only [root, banned] at permitted ⊢
      exact covered _ permitted

namespace Namespace

variable {ns : Namespace} {ctx : SecurityContext} {names : List String} {name : String}
  {parent : Entry}

/-- Nothing stands below a directory under a name that leads nowhere. -/
theorem child_of_missing (there : ns.at? names = some parent) (missing : ns.at? (names ++ [name]) = none) :
    ∃ e, ns.child parent.stat.ino name = .error e ∧ e.kind = .fileNotFound := by
  cases found : ns.child parent.stat.ino name with
  | ok entry =>
    rw [at?_of_child there found] at missing
    cases missing
  | error e => exact ⟨e, rfl, kind_of_child_eq_error found⟩

/-- The root stands where no component leads. -/
theorem Tree.at?_nil (tree : ns.Tree) :
    ∃ root, ns.at? [] = some root ∧ root.stat.isDirectory = true := by
  obtain ⟨root, child, -, -, directory⟩ := tree.child_root
  exact ⟨root, by simp [at?, child, follow], directory⟩

/-- A path that leads nowhere has a last component, for the root is there. -/
theorem Tree.split_of_missing (tree : ns.Tree) (missing : ns.at? names = none) :
    ∃ front name, names = front ++ [name] := by
  have nonempty : names ≠ [] := by
    rintro rfl
    obtain ⟨root, stands, -⟩ := tree.at?_nil
    cases stands.symm.trans missing
  exact ⟨_, _, (List.dropLast_concat_getLast nonempty).symm⟩

/-- The walk to a missing name in a directory that is open goes as far as the directory. -/
theorem find_of_missing (tree : ns.Tree) {path : String}
    (reaches : ns.Reaches ctx (Path.split path).dropLast parent)
    (directory : parent.stat.isDirectory = true) (searchable : parent.permits ctx Mode.search = true)
    (missing : ns.at? (Path.split path) = none) :
    ns.find ctx path = .error (.fileNotFound path) := by
  obtain ⟨front, name, split⟩ := tree.split_of_missing missing
  rw [split] at missing
  rw [split, List.dropLast_concat] at reaches
  obtain ⟨e, lost, kind⟩ := child_of_missing (at?_of_reaches reaches) missing
  obtain ⟨root, top, opens⟩ := reaches
  have walk : ∀ walked, ns.descend ctx path walked root (front ++ [name]) =
      .error (.fileNotFound path) := by
    clear top split missing
    induction opens with
    | here entry => simp [descend, directory, searchable, lost, kind]
    | down open_ passed named _ ih =>
      intro walked
      simpa [descend, open_, passed, named] using ih directory searchable lost _
  simp [find, top, split, walk, bind, Except.bind]

/-- In a directory that is there, a new entry can be made under a name that leads nowhere. -/
theorem create_of_missing (tree : ns.Tree) (template : Entry) (there : ns.at? names = some parent)
    (directory : parent.stat.isDirectory = true) (place : template.parent = parent.stat.ino)
    (named : template.name = name) (proper : Path.IsComponent name)
    (missing : ns.at? (names ++ [name]) = none) :
    ∃ created next, ns.create template = .ok (created, next) := by
  obtain ⟨e, lost, -⟩ := child_of_missing there missing
  have stored := entry_eq_ok_iff.1 (tree.keyed.stored there)
  have free : ns.names.get? ⟨parent.stat.ino, name⟩ = none := by
    cases held : ns.names.get? ⟨parent.stat.ino, name⟩ with
    | none => rfl
    | some number =>
      obtain ⟨entry, found, -⟩ := (tree.indexed _ _).1 held
      have child : ns.child parent.stat.ino name = .ok entry := by
        refine Error.bind_eq_ok_iff.2 ⟨number, ?_, entry_eq_ok_iff.2 found⟩
        rw [held]
        rfl
      rw [child] at lost
      cases lost
  obtain ⟨filled, -, -, clean⟩ := proper
  refine ⟨_, _, create_eq_ok_iff.2 ⟨⟨parent, ?_, directory⟩, ?_, ?_, rfl, rfl⟩⟩
  · rw [place, stored]
  · rw [named]
    exact not_or.2 ⟨filled, clean⟩
  · rw [place, named, free]

end Namespace

namespace BuiltIn

variable {ν : Type} {inode : Contract.inode.Handler ν} {look : ν → Namespace}

/-- The directory of a path is found by whoever reaches it. -/
theorem parentOf_of_reaches (shows_ : Shows inode look) {path name : String} {names : List String}
    {b : Browsing ν} {ctx : SecurityContext} {parent : Entry} (known : b.session.security = some ctx)
    (split : Path.split path = names ++ [name]) (reaches : (look b.store).Reaches ctx names parent)
    (directory : parent.stat.isDirectory = true) :
    parentOf (some inode) path b = .ok (parent, name) b := by
  have clean : ∀ part ∈ names, Path.IsComponent part := by
    intro part member
    have inside : part ∈ Path.split path := by simp [split, member]
    exact Path.isComponent_of_mem_split inside
  have looked : lookup (some inode) (Path.join names) b = .ok parent b :=
    (lookup_eq_ok_iff shows_).2 ⟨⟨ctx, known, (Path.split_join clean).symm ▸ reaches⟩, rfl⟩
  unfold parentOf Path.parentAndName
  simp only [split, List.dropLast_concat, List.getLast?_concat]
  refine (Action.bind_of_ok looked).trans ?_
  exact Action.guarded_eq_ok_iff.2 ⟨by simp [directory], rfl⟩

/-- A new entry is made by an identity that may write to its directory, if the name leads nowhere. -/
theorem createEntry_of_free (shows_ : Shows inode look) {path name : String} {names : List String}
    {type mode : Mode} {b after : Browsing ν} {ctx : SecurityContext} {parent created : Entry} {e : Error}
    (known : b.session.security = some ctx)
    (split : Path.split (Path.absolute b.session.workingDir path) = names ++ [name])
    (reaches : (look b.store).Reaches ctx names parent)
    (directory : parent.stat.isDirectory = true)
    (writable : parent.permits ctx (Mode.write ||| Mode.search) = true)
    (free : (look b.store).child parent.stat.ino name = .error e) (kind : e.kind = .fileNotFound)
    (asked : ask (some inode) (.create (template ctx b.session.umask parent name type mode)) b =
      .ok created after) :
    createEntry (some inode) path type mode b = .ok () after := by
  have looked := ask_query (shows_.child parent.stat.ino name) b
  rw [free] at looked
  refine (Action.bind_of_ok rfl).trans
    ((Action.bind_of_ok (context_eq_ok_iff.2 ⟨known, rfl⟩)).trans
      ((Action.bind_of_ok (parentOf_of_reaches shows_ known split reaches directory)).trans
        ((Action.bind_of_ok (require_eq_ok_iff.2 ⟨⟨ctx, known, writable⟩, rfl⟩)).trans
          ((Action.bind_of_ok (Action.attempt_of_error looked)).trans ?_))))
  refine Action.guarded_eq_ok_iff.2 ⟨by simp [kind], ?_⟩
  exact (Action.bind_of_ok rfl).trans ((Action.bind_of_ok asked).trans rfl)

end BuiltIn

namespace OnSite

variable {s : OnSite} {outer inner : List Decorator} {id : FactoryId} {session : CatalogSession}

/-- The catalog makes a file that is not there for whoever may write to its directory. -/
theorem Wired.create_of_missing (wired : s.Wired outer inner id session) (mode : Mode)
    {path : String} {ctx : SecurityContext} {parent : Entry} (tree : (s.site.namespace_ id).Tree)
    (known : session.security = some ctx)
    (reaches : (s.site.namespace_ id).Reaches ctx (session.names path).dropLast parent)
    (directory : parent.stat.isDirectory = true)
    (writable : parent.permits ctx (Mode.write ||| Mode.search) = true)
    (missing : (s.site.namespace_ id).at? (session.names path) = none) :
    ∃ next, StackM.catalog (.create path mode) s = .ok () (s.putNamespace id next) := by
  obtain ⟨front, name, whole⟩ := tree.split_of_missing missing
  rw [whole] at missing
  rw [whole, List.dropLast_concat] at reaches
  have proper : Path.IsComponent name := by
    have last : name ∈ session.names path := by simp [whole]
    exact Path.isComponent_of_mem_split last
  have there := Namespace.at?_of_reaches reaches
  obtain ⟨e, lost, kind⟩ := Namespace.child_of_missing there missing
  obtain ⟨created, next, made⟩ := Namespace.create_of_missing tree
    (BuiltIn.template ctx session.umask parent name Mode.regular mode) there directory rfl rfl
    proper missing
  have asked : BuiltIn.ask (some (Site.inodeHandler ⟨inner, .memory id⟩))
      (.create (BuiltIn.template ctx session.umask parent name Mode.regular mode)) ⟨session, s.site⟩ =
      .ok created ⟨session, s.site.putNamespace id next⟩ := by
    apply (BuiltIn.ask_memory_eq_ok_iff (fun _ => rfl)).2
    refine ⟨next, ?_, rfl⟩
    simp [Namespace.handler, Action.update, made]
  exact ⟨next, wired.catalog_of_builtIn rfl (BuiltIn.createEntry_of_free (Site.shows_memory inner id) known
    whole reaches directory writable lost kind asked)⟩

end OnSite
end Stowage
