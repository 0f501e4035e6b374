import Stowage.Proofs.Outlook
import Stowage.Resolution.Basic

/-! Stacks that browse a namespace in memory: the decorators of their catalog end at the built-in one.
Its answers are those of the namespace, for the identity and the working directory of the session;
a librarian on the way hides excluded replicas and nothing else. -/
namespace Stowage

/-- What decorators leave of a list of replicas. -/
def Exclusions.through (x : Exclusions) (outer : List Decorator) (rows : List Replica) :
    List Replica :=
  outer.foldr (fun d rows => match d with | .librarian true => x.hide rows | _ => rows) rows

theorem Exclusions.mem_hide {x : Exclusions} {rows : List Replica} {row : Replica} :
    row ∈ x.hide rows ↔ row ∈ rows ∧ x.contains row.id = false := by
  unfold hide
  simp

/-- A librarian shows what is not excluded, all other decorators show everything. -/
theorem Exclusions.mem_through_iff {x : Exclusions} {outer : List Decorator} {rows : List Replica}
    {row : Replica} :
    row ∈ x.through outer rows ↔
      row ∈ rows ∧ (.librarian true ∈ outer → x.contains row.id = false) := by
  unfold through
  induction outer with
  | nil => simp
  | cons d rest ih =>
    rw [List.foldr_cons]
    split
    · rw [mem_hide, ih]
      simp only [List.mem_cons, true_or, forall_const]
      exact ⟨fun shown => ⟨shown.1.1, shown.2⟩,
        fun kept => ⟨⟨kept.1, fun _ => kept.2⟩, kept.2⟩⟩
    · rename_i passes
      have other : ¬ Decorator.librarian true = d := fun same => passes same.symm
      rw [ih, List.mem_cons]
      simp [other]

theorem Exclusions.through_sublist (x : Exclusions) (outer : List Decorator)
    (rows : List Replica) : List.Sublist (x.through outer rows) rows := by
  unfold through
  induction outer with
  | nil => exact List.Sublist.refl _
  | cons d rest ih =>
    rw [List.foldr_cons]
    split
    · exact List.filter_sublist.trans ih
    · exact ih

/-- Every decorator passes the request on as it is. -/
def CatalogRequest.passed : CatalogRequest → Bool
  | .stat _ | .replicas _ => false
  | _ => true

theorem Decorator.overCatalog_passed {σ : Type} (excluded : Exclusions) (d : Decorator)
    (h : Contract.catalog.Handler σ) {r : CatalogRequest} (passed : r.passed = true) :
    d.overCatalog excluded h r = h r := by
  have forward : Contract.catalog.forward h r = h r := by
    cases r with
    | stat | replicas => cases passed
    | _ => rfl
  by_cases hides : d = .librarian true
  · subst hides
    cases r with
    | stat | replicas => cases passed
    | _ => exact forward
  · rw [d.overCatalog_eq excluded hides]
    exact forward

namespace Site

/-- What all decorators pass on reaches the innermost node. -/
theorem catalogHandler_passed {r : CatalogRequest} (passed : r.passed = true)
    (excluded : Exclusions) (outer : List Decorator) (base : CatalogNode) :
    catalogHandler excluded ⟨outer, base⟩ r = catalogNodeHandler base r := by
  induction outer with
  | nil => rfl
  | cons d rest ih => exact (d.overCatalog_passed excluded _ passed).trans ih

/-- Where no librarian hides replicas, they are those of the node further in. -/
theorem catalogHandler_replicas_of_shown {d : Decorator} (shows : d ≠ .librarian true)
    (excluded : Exclusions) (rest : List Decorator) (base : CatalogNode) (path : String) :
    catalogHandler excluded ⟨d :: rest, base⟩ (.replicas path) =
      catalogHandler excluded ⟨rest, base⟩ (.replicas path) :=
  congrFun (d.overCatalog_eq excluded shows _) _

/-- The replicas that a chain shows are those of its innermost node, as the decorators leave them. -/
theorem catalogHandler_replicas_eq_ok_iff {excluded : Exclusions} {outer : List Decorator}
    {base : CatalogNode} {path : String} {b after : Browsing Site} {rows : List Replica} :
    catalogHandler excluded ⟨outer, base⟩ (.replicas path) b = .ok rows after ↔
      ∃ all, catalogNodeHandler base (.replicas path) b = .ok all after ∧
        rows = excluded.through outer all := by
  induction outer generalizing rows with
  | nil => exact ⟨fun done => ⟨rows, done, rfl⟩, fun ⟨_, done, same⟩ => same ▸ done⟩
  | cons d rest ih =>
    by_cases hides : d = .librarian true
    · subst hides
      change (catalogHandler excluded ⟨rest, base⟩ (.replicas path) >>= fun found =>
        pure (excluded.hide found)) b = _ ↔ _
      constructor
      · intro done
        obtain ⟨found, _, inner, hidden⟩ := Action.bind_eq_ok_iff.1 done
        cases hidden
        obtain ⟨all, run, rfl⟩ := ih.1 inner
        exact ⟨all, run, rfl⟩
      · rintro ⟨all, run, rfl⟩
        exact Action.bind_eq_ok_iff.2 ⟨_, after, ih.2 ⟨all, run, rfl⟩, rfl⟩
    · have left : ∀ all, excluded.through (d :: rest) all = excluded.through rest all := by
        intro all
        unfold Exclusions.through
        rw [List.foldr_cons]
        split
        · exact absurd rfl hides
        · rfl
      simp only [catalogHandler_replicas_of_shown hides, left]
      exact ih

end Site

/-- The components of a path as a session sees it. -/
def CatalogSession.names (session : CatalogSession) (path : String) : List String :=
  Path.split (Path.absolute session.workingDir path)

/-- A path that was made absolute leads where it led before. -/
theorem CatalogSession.names_absolute (session : CatalogSession) (path : String) :
    session.names (Path.absolute session.workingDir path) = session.names path := by
  unfold names
  rw [Path.absolute_absolute]

namespace OnSite

/-- Behind these decorators, the catalog of the stack is the built-in one with this session over
this namespace in memory. -/
def BrowsesThrough (s : OnSite) (outer : List Decorator) (session : CatalogSession)
    (ns : Namespace) : Prop :=
  ∃ inner id, s.stack.catalog = some ⟨outer, .builtIn (some ⟨inner, .memory id⟩) session⟩ ∧
    s.site.namespace_ id = ns

/-- The catalog of the stack is the built-in one with this session over this namespace in memory. -/
def Browses (s : OnSite) (session : CatalogSession) (ns : Namespace) : Prop :=
  ∃ outer, s.BrowsesThrough outer session ns

theorem BrowsesThrough.unique {s : OnSite} {outer other : List Decorator}
    {session later : CatalogSession} {ns next : Namespace}
    (browses : s.BrowsesThrough outer session ns) (again : s.BrowsesThrough other later next) :
    later = session ∧ next = ns := by
  obtain ⟨inner, id, wired, rfl⟩ := browses
  obtain ⟨_, _, same, rfl⟩ := again
  rw [wired] at same
  cases same
  exact ⟨rfl, rfl⟩

section Answers

variable {s t : OnSite} {outer : List Decorator} {session : CatalogSession} {ns : Namespace}
  {path : String}

/-- What the built-in catalog answers over the namespace, the stack answers. -/
theorem catalog_of_builtIn (browses : s.BrowsesThrough outer session ns) {r : CatalogRequest}
    (passed : r.passed = true) {answer : Except Error r.Answer}
    (run : ∀ inode : Contract.inode.Handler Site, ∀ look : Site → Namespace,
      BuiltIn.Shows inode look → look s.site = ns →
        BuiltIn.handler (some inode) r ⟨session, s.site⟩ =
          Action.ofExcept answer ⟨session, s.site⟩) :
    StackM.catalog r s = Action.ofExcept answer s := by
  obtain ⟨inner, id, wired, shown⟩ := browses
  apply StackM.catalog_of_answer wired
  rw [Site.catalogHandler_passed passed]
  exact run _ _ (Site.shows_memory inner id) shown

theorem workingDir_apply (browses : s.BrowsesThrough outer session ns) :
    StackM.catalog .workingDir s = .ok session.workingDir s := by
  have answer := catalog_of_builtIn browses (r := .workingDir) rfl
    (fun _ _ _ _ => show _ = Action.ofExcept (.ok session.workingDir) _ from rfl)
  exact answer

/-- The resolution sees paths from the working directory of the session. -/
theorem absolute_apply (browses : s.BrowsesThrough outer session ns) (path : String) :
    Resolution.absolute path s = .ok (Path.absolute session.workingDir path) s := by
  have directory := workingDir_apply browses
  obtain ⟨inner, id, wired, -⟩ := browses
  refine (Action.bind_of_ok (StackM.need_of_some wired)).trans ?_
  exact Action.bind_of_ok (Action.attempt_of_ok directory)

/-- The entry at a path is the one that the identity of the session finds there. -/
theorem entry_apply (browses : s.BrowsesThrough outer session ns) {ctx : SecurityContext}
    (known : session.security = some ctx) (path : String) :
    StackM.catalog (.entry path) s =
      Action.ofExcept (ns.find ctx (Path.absolute session.workingDir path)) s := by
  apply catalog_of_builtIn browses rfl
  rintro inode look shows_ rfl
  exact BuiltIn.lookup_apply shows_ _ ⟨session, s.site⟩ known

theorem entry_of_unknown (browses : s.BrowsesThrough outer session ns)
    (unknown : session.security = none) (path : String) :
    StackM.catalog (.entry path) s = Action.ofExcept (.error .noSecurityContext) s := by
  apply catalog_of_builtIn browses rfl
  rintro inode look shows_ rfl
  exact BuiltIn.lookup_of_unknown _ _ ⟨session, s.site⟩ unknown

/-- An entry that the stack finds is one that the identity of the session reaches. -/
theorem reaches_of_entry (browses : s.BrowsesThrough outer session ns) {entry : Entry}
    (found : StackM.catalog (.entry path) s = .ok entry t) :
    ∃ ctx, session.security = some ctx ∧ ns.Reaches ctx (session.names path) entry := by
  cases known : session.security with
  | none =>
    rw [entry_of_unknown browses known] at found
    cases found
  | some ctx =>
    rw [entry_apply browses known] at found
    obtain ⟨walk, -⟩ := Action.eq_ok_of_ofExcept found
    exact ⟨ctx, rfl, Namespace.find_eq_ok_iff.1 walk⟩

/-- An entry that the stack misses is not there. -/
theorem at?_of_missed (browses : s.BrowsesThrough outer session ns) {e : Error}
    (missed : StackM.catalog (.entry path) s = .error e t) (kind : e.kind = .fileNotFound) :
    ns.at? (session.names path) = none := by
  cases known : session.security with
  | none =>
    rw [entry_of_unknown browses known] at missed
    cases missed
    cases kind
  | some ctx =>
    rw [entry_apply browses known] at missed
    obtain ⟨walk, -⟩ := Action.eq_error_of_ofExcept missed
    exact Namespace.at?_of_find_missing walk kind

/-- The stack shows replicas exactly of the files that the identity of the session may read. -/
theorem replicas_eq_ok_iff (browses : s.BrowsesThrough outer session ns) {rows : List Replica} :
    StackM.catalog (.replicas path) s = .ok rows t ↔
      (∃ ctx entry all, session.security = some ctx ∧
        ns.Reaches ctx (session.names path) entry ∧
        entry.stat.isDirectory = false ∧ entry.permits ctx Mode.read = true ∧
        ns.replicasOf entry.stat.ino = .ok all ∧
        rows = s.stack.excluded.through outer all) ∧ t = s := by
  obtain ⟨inner, id, wired, rfl⟩ := browses
  constructor
  · intro done
    obtain rfl := (StackM.reads_catalog rfl).of_ok done
    obtain ⟨chain, after, same, run, -⟩ := StackM.catalog_eq_ok done
    obtain rfl := Option.some.inj (same.symm.trans wired)
    obtain ⟨all, answered, rfl⟩ := Site.catalogHandler_replicas_eq_ok_iff.1 run
    obtain ⟨⟨ctx, entry, known, reaches, plain, readable, listed⟩, -⟩ :=
      (BuiltIn.replicas_eq_ok_iff (Site.shows_memory inner id)).1 answered
    exact ⟨⟨ctx, entry, all, known, reaches, plain, readable, listed, rfl⟩, rfl⟩
  · rintro ⟨⟨ctx, entry, all, known, reaches, plain, readable, listed, rfl⟩, rfl⟩
    have answered : BuiltIn.replicas (some (Site.inodeHandler ⟨inner, .memory id⟩)) path
        ⟨session, t.site⟩ = .ok all ⟨session, t.site⟩ :=
      (BuiltIn.replicas_eq_ok_iff (Site.shows_memory inner id)).2
        ⟨⟨ctx, entry, known, reaches, plain, readable, listed⟩, rfl⟩
    have run : Site.catalogHandler t.stack.excluded
        ⟨outer, .builtIn (some ⟨inner, .memory id⟩) session⟩ (.replicas path) ⟨session, t.site⟩ =
          Action.ofExcept (.ok (t.stack.excluded.through outer all)) ⟨session, t.site⟩ :=
      Site.catalogHandler_replicas_eq_ok_iff.2 ⟨all, answered, rfl⟩
    exact StackM.catalog_of_answer wired run

/-- The stack makes new entries only for an identity that may write to the directory of the entry. -/
theorem mayCreate_of_create (browses : s.BrowsesThrough outer session ns) {mode : Mode}
    (made : StackM.catalog (.create path mode) s = .ok () t) :
    ∃ ctx parent, session.security = some ctx ∧
      ns.Reaches ctx (session.names path).dropLast parent ∧
      parent.permits ctx (Mode.write ||| Mode.search) = true := by
  obtain ⟨inner, id, wired, rfl⟩ := browses
  obtain ⟨chain, after, same, run, -⟩ := StackM.catalog_eq_ok made
  obtain rfl := Option.some.inj (same.symm.trans wired)
  rw [Site.catalogHandler_passed rfl] at run
  obtain ⟨ctx, parent, name, created, known, reaches, -, permits, -⟩ :=
    BuiltIn.createEntry_eq_ok (Site.shows_memory inner id) run
  exact ⟨ctx, parent, known, reaches, permits⟩

end Answers

theorem kind_of_unanswered (C : Contract) (r : C.Request) :
    (C.unanswered r).kind = .notImplemented := rfl

/-- A stack that finds an entry, or misses it for want of one, browses a namespace. -/
theorem browses_of_entry {s t : OnSite} {path : String}
    (asked : (∃ entry, StackM.catalog (.entry path) s = .ok entry t) ∨
      ∃ e, StackM.catalog (.entry path) s = .error e t ∧ e.kind = .fileNotFound) :
    ∃ outer session ns, s.BrowsesThrough outer session ns := by
  have refuted : ∀ e : Error, StackM.catalog (.entry path) s = .error e s →
      e.kind ≠ .fileNotFound → False := by
    intro e failed other
    rcases asked with ⟨entry, found⟩ | ⟨fault, missed, kind⟩
    · rw [failed] at found
      cases found
    · rw [failed] at missed
      cases missed
      exact other kind
  cases wired : s.stack.catalog with
  | none =>
    refine (refuted (.noFactory .catalog) ?_ (by decide)).elim
    exact Action.bind_of_error (StackM.need_of_none wired)
  | some chain =>
    obtain ⟨outer, node⟩ := chain
    -- Every other wiring fails before a name is looked up.
    have answers : ∀ e : Error, Site.catalogNodeHandler node (.entry path)
        ⟨node.session, s.site⟩ = Action.ofExcept (.error e) ⟨node.session, s.site⟩ →
        StackM.catalog (.entry path) s = .error e s := by
      intro e run
      have chained : Site.catalogHandler s.stack.excluded ⟨outer, node⟩ (.entry path)
          ⟨node.session, s.site⟩ = Action.ofExcept (.error e) ⟨node.session, s.site⟩ := by
        rw [Site.catalogHandler_passed rfl]
        exact run
      exact StackM.catalog_of_answer wired chained
    cases node with
    | plain node => exact (refuted _ (answers _ rfl) (by simp [kind_of_unanswered])).elim
    | builtIn below session =>
      cases known : session.security with
      | none =>
        have nobody := BuiltIn.lookup_of_unknown (below.map Site.inodeHandler)
          (Path.absolute session.workingDir path) ⟨session, s.site⟩ known
        exact (refuted _ (answers _ nobody) (by decide)).elim
      | some ctx =>
        have identity : BuiltIn.context (⟨session, s.site⟩ : Browsing Site) = .ok ctx _ :=
          BuiltIn.context_eq_ok_iff.2 ⟨known, rfl⟩
        cases below with
        | none =>
          refine (refuted (.noFactory .inode) (answers _ ?_) (by decide)).elim
          exact Action.bind_of_ok identity
        | some inodes =>
          obtain ⟨inner, base⟩ := inodes
          cases base with
          | memory id => exact ⟨outer, session, _, inner, id, wired, rfl⟩
          | plain node =>
            refine (refuted (Contract.inode.unanswered (.child 0 "/")) (answers _ ?_)
              (by decide)).elim
            refine (Action.bind_of_ok identity).trans (Action.bind_of_error ?_)
            unfold BuiltIn.ask Action.zoom
            simp only [Option.map_some]
            rw [Site.inodeHandler_plain (fun _ => rfl)]
            rfl

end OnSite
end Stowage
