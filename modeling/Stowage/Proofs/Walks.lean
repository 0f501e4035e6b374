import Stowage.Catalog.BuiltIn
import Stowage.Namespace
import Stowage.Proofs.Actions

/-! Ways through a namespace. What a list of names leads to is said without regard to who asks, and
so is the way that an identity may take. The look-up of the built-in catalog answers from the two:
it finds an entry exactly if the way there is open, and it misses one only where there is none. -/
namespace Stowage

namespace Namespace

/-- The entry that the names lead to from `current`, whoever asks. -/
def follow (ns : Namespace) (current : Entry) : List String → Option Entry
  | [] => some current
  | name :: rest =>
    match ns.child current.stat.ino name with
    | .ok next => ns.follow next rest
    | .error _ => none

/-- The entry at a path, given by its components. -/
def at? (ns : Namespace) (names : List String) : Option Entry :=
  match ns.child rootParent "/" with
  | .ok root => ns.follow root names
  | .error _ => none

/-- The names lead from an entry to another through directories that `ctx` may search. -/
inductive Opens (ns : Namespace) (ctx : SecurityContext) : Entry → List String → Entry → Prop where
  | here (entry : Entry) : Opens ns ctx entry [] entry
  | down {current next target : Entry} {name : String} {rest : List String}
      (directory : current.stat.isDirectory = true)
      (searchable : current.permits ctx Mode.search = true)
      (named : ns.child current.stat.ino name = .ok next)
      (below : Opens ns ctx next rest target) : Opens ns ctx current (name :: rest) target

/-- The way to the entry at a path is open to `ctx`. -/
def Reaches (ns : Namespace) (ctx : SecurityContext) (names : List String) (entry : Entry) : Prop :=
  ∃ root, ns.child rootParent "/" = .ok root ∧ ns.Opens ctx root names entry

theorem follow_of_opens {ns : Namespace} {ctx : SecurityContext} {current target : Entry}
    {names : List String} (opens : ns.Opens ctx current names target) :
    ns.follow current names = some target := by
  induction opens with
  | here entry => rfl
  | down directory searchable named below ih =>
    unfold follow
    rw [named]
    exact ih

theorem at?_of_reaches {ns : Namespace} {ctx : SecurityContext} {names : List String}
    {entry : Entry} (reaches : ns.Reaches ctx names entry) : ns.at? names = some entry := by
  obtain ⟨root, top, opens⟩ := reaches
  unfold at?
  rw [top]
  exact follow_of_opens opens

section Inclusion

variable {ns next : Namespace} {names : List String} {entry : Entry}
  (kept : ∀ {parent : Nat} {name : String} {below : Entry},
    ns.child parent name = .ok below → next.child parent name = .ok below)
include kept

/-- What stands at a path stands there still, if no name has lost its entry. -/
theorem at?_mono (there : ns.at? names = some entry) : next.at? names = some entry := by
  have walk : ∀ current, ns.follow current names = some entry →
      next.follow current names = some entry := by
    clear there
    induction names with
    | nil => exact fun _ found => found
    | cons name rest ih =>
      intro current found
      unfold follow at found ⊢
      cases named : ns.child current.stat.ino name with
      | error e =>
        rw [named] at found
        cases found
      | ok down =>
        rw [named] at found
        rw [kept named]
        exact ih down found
  unfold at? at there ⊢
  cases top : ns.child rootParent "/" with
  | error e =>
    rw [top] at there
    cases there
  | ok root =>
    rw [top] at there
    rw [kept top]
    exact walk root there

/-- A way stays open, if no name has lost its entry. -/
theorem Reaches.mono {ctx : SecurityContext} (reaches : ns.Reaches ctx names entry) :
    next.Reaches ctx names entry := by
  obtain ⟨root, top, opens⟩ := reaches
  refine ⟨root, kept top, ?_⟩
  clear top
  induction opens with
  | here entry => exact .here entry
  | down directory searchable named below ih => exact .down directory searchable (kept named) ih

end Inclusion

/-- The walk down as the catalog does it, with its own failures. -/
def descend (ns : Namespace) (ctx : SecurityContext) (path : String) (walked : List String)
    (current : Entry) : List String → Except Error Entry
  | [] => .ok current
  | name :: rest =>
    if ¬ current.stat.isDirectory then .error (.notADirectory (Path.join walked))
    else if ¬ current.permits ctx Mode.search then
      .error (.permissionDenied ("not enough permissions to traverse " ++ Path.join walked))
    else
      match ns.child current.stat.ino name with
      | .ok next => ns.descend ctx path (walked ++ [name]) next rest
      | .error e => .error (if e.kind = .fileNotFound then .fileNotFound path else e)

/-- The walk from the root to the entry at a normal path. -/
def find (ns : Namespace) (ctx : SecurityContext) (path : String) : Except Error Entry := do
  ns.descend ctx path [] (← ns.child rootParent "/") (Path.split path)

theorem descend_eq_ok_iff {ns : Namespace} {ctx : SecurityContext} {path : String}
    {walked names : List String} {current target : Entry} :
    ns.descend ctx path walked current names = .ok target ↔ ns.Opens ctx current names target := by
  induction names generalizing walked current with
  | nil =>
    constructor
    · intro found
      cases found
      exact .here _
    · intro opens
      cases opens
      rfl
  | cons name rest ih =>
    unfold descend
    constructor
    · intro found
      split at found
      · cases found
      · rename_i directory
        split at found
        · cases found
        · rename_i searchable
          cases named : ns.child current.stat.ino name with
          | error e => rw [named] at found; cases found
          | ok next =>
            rw [named] at found
            exact .down (Decidable.not_not.1 directory) (Decidable.not_not.1 searchable) named (ih.1 found)
    · intro opens
      cases opens with
      | down directory searchable named below =>
        simp only [directory, searchable, named, not_true_eq_false, if_false]
        exact ih.2 below

/-- The walk misses an entry only where the names lead to none. -/
theorem follow_of_descend_missing {ns : Namespace} {ctx : SecurityContext} {path : String}
    {walked names : List String} {current : Entry} {e : Error}
    (failed : ns.descend ctx path walked current names = .error e) (kind : e.kind = .fileNotFound) :
    ns.follow current names = none := by
  induction names generalizing walked current with
  | nil => cases failed
  | cons name rest ih =>
    unfold descend at failed
    split at failed
    · cases failed
      cases kind
    · split at failed
      · cases failed
        cases kind
      · unfold follow
        cases named : ns.child current.stat.ino name with
        | error fault => rfl
        | ok next =>
          rw [named] at failed
          exact ih failed

theorem find_eq_ok_iff {ns : Namespace} {ctx : SecurityContext} {path : String} {entry : Entry} :
    ns.find ctx path = .ok entry ↔ ns.Reaches ctx (Path.split path) entry := by
  unfold find Reaches
  cases ns.child rootParent "/" with
  | error e =>
    constructor
    · intro found
      cases found
    · rintro ⟨root, top, -⟩
      cases top
  | ok root =>
    constructor
    · intro found
      exact ⟨root, rfl, descend_eq_ok_iff.1 found⟩
    · rintro ⟨_, top, opens⟩
      cases top
      exact descend_eq_ok_iff.2 opens

theorem at?_of_find_missing {ns : Namespace} {ctx : SecurityContext} {path : String} {e : Error}
    (failed : ns.find ctx path = .error e) (kind : e.kind = .fileNotFound) :
    ns.at? (Path.split path) = none := by
  unfold find at failed
  unfold at?
  cases top : ns.child rootParent "/" with
  | error fault => rfl
  | ok root =>
    rw [top] at failed
    exact follow_of_descend_missing failed kind

end Namespace

namespace BuiltIn

variable {ν : Type} {inode : Contract.inode.Handler ν} {look : ν → Namespace}

/-- The questions of a catalog to a handler of inode numbers are answered from a namespace that
its state holds. -/
structure Shows (inode : Contract.inode.Handler ν) (look : ν → Namespace) : Prop where
  entry (ino : Nat) : inode (.entry ino) = Action.query fun v => (look v).entry ino
  child (parent : Nat) (name : String) :
    inode (.child parent name) = Action.query fun v => (look v).child parent name
  replicas (ino : Nat) : inode (.replicas ino) = Action.query fun v => (look v).replicasOf ino

theorem shows_namespace : Shows Namespace.handler id where
  entry _ := rfl
  child _ _ := rfl
  replicas _ := rfl

theorem ask_query {r : InodeRequest} {f : ν → Except Error r.Answer}
    (answers : inode r = Action.query f) (b : Browsing ν) :
    ask (some inode) r b = Action.ofExcept (f b.store) b := by
  unfold ask
  simp only [answers]
  unfold Action.zoom Action.query
  cases f b.store <;> rfl

/-- What a request does to the state of the handler, it does to the store. -/
theorem ask_eq_ok_iff {r : InodeRequest} {answer : r.Answer} {b after : Browsing ν} :
    ask (some inode) r b = .ok answer after ↔
      ∃ store, inode r b.store = .ok answer store ∧ { b with store } = after := by
  unfold ask Action.zoom
  cases run : inode r b.store with
  | ok other store => simp [run, and_comm, and_left_comm]
  | error e store => simp [run]

/-- The identity of the session, which has to be known. -/
theorem context_eq_ok_iff {b after : Browsing ν} {ctx : SecurityContext} :
    context b = .ok ctx after ↔ b.session.security = some ctx ∧ after = b := by
  unfold context Action.query
  cases known : b.session.security with
  | none =>
    simp only [known]
    constructor
    · exact nofun
    · rintro ⟨same, -⟩
      cases same
  | some other =>
    simp only [known]
    constructor
    · intro done
      cases done
      exact ⟨rfl, rfl⟩
    · rintro ⟨same, rfl⟩
      cases same
      rfl

theorem context_of_unknown (b : Browsing ν) (unknown : b.session.security = none) :
    context b = .error .noSecurityContext b := by
  unfold context Action.query
  simp only [unknown]
  rfl

/-- Permission is required of the session's identity, which has to be known. -/
theorem require_eq_ok_iff {entry : Entry} {requested : Mode} {what : String}
    {b after : Browsing ν} :
    require entry requested what b = .ok () after ↔
      (∃ ctx, b.session.security = some ctx ∧ entry.permits ctx requested = true) ∧ after = b := by
  unfold require
  rw [Action.bind_eq_ok_iff]
  constructor
  · rintro ⟨ctx, u, identity, checked⟩
    obtain ⟨known, rfl⟩ := context_eq_ok_iff.1 identity
    by_cases permitted : entry.permits ctx requested = true
    · rw [if_neg (not_not_intro permitted)] at checked
      cases checked
      exact ⟨⟨ctx, known, permitted⟩, rfl⟩
    · rw [if_pos permitted] at checked
      cases checked
  · rintro ⟨⟨ctx, known, permitted⟩, rfl⟩
    refine ⟨ctx, _, context_eq_ok_iff.2 ⟨known, rfl⟩, ?_⟩
    rw [if_neg (not_not_intro permitted)]
    rfl

/-- The file that a replica says it is of has to be there, and to permit writing. -/
theorem requireReplica_eq_ok_iff (shows_ : Shows inode look) {record : Replica}
    {b after : Browsing ν} :
    requireReplica (some inode) record b = .ok () after ↔
      (∃ ctx file, b.session.security = some ctx ∧
        (look b.store).entry record.file = .ok file ∧ file.permits ctx Mode.write = true) ∧
        after = b := by
  have answer := ask_query (shows_.entry record.file) b
  unfold requireReplica
  rw [Action.bind_apply, answer]
  cases found : (look b.store).entry record.file with
  | error e => simp
  | ok file =>
    simp only [Action.ofExcept_ok]
    rw [require_eq_ok_iff]
    simp

theorem childOr_apply (shows_ : Shows inode look) (path : String) (parent : Nat) (name : String)
    (b : Browsing ν) :
    childOr (some inode) path parent name b =
      Action.ofExcept (match (look b.store).child parent name with
        | .ok entry => .ok entry
        | .error e => .error (if e.kind = .fileNotFound then .fileNotFound path else e)) b := by
  have answer := ask_query (shows_.child parent name) b
  unfold childOr
  cases named : (look b.store).child parent name with
  | ok entry =>
    rw [named] at answer
    rw [Action.bind_of_ok (Action.attempt_of_ok answer)]
    rfl
  | error e =>
    rw [named] at answer
    rw [Action.bind_of_ok (Action.attempt_of_error answer)]
    rfl

theorem descend_apply (shows_ : Shows inode look) (ctx : SecurityContext) (path : String)
    (walked names : List String) (current : Entry) (b : Browsing ν) :
    descend (some inode) ctx path walked current names b =
      Action.ofExcept ((look b.store).descend ctx path walked current names) b := by
  induction names generalizing walked current with
  | nil => rfl
  | cons name rest ih =>
    unfold descend Namespace.descend
    by_cases directory : current.stat.isDirectory = true
    · by_cases searchable : current.permits ctx Mode.search = true
      · have next := childOr_apply shows_ path current.stat.ino name b
        simp only [directory, searchable, not_true_eq_false, if_false]
        cases named : (look b.store).child current.stat.ino name with
        | ok entry =>
          rw [named] at next
          exact (Action.bind_of_ok next).trans (ih _ _)
        | error e =>
          rw [named] at next
          exact Action.bind_of_error next
      · rw [if_neg (not_not_intro directory), if_pos searchable]
        simp only [directory, not_true_eq_false, if_false, searchable]
        rfl
    · rw [if_pos directory]
      simp only [directory]
      rfl

/-- The look-up of the built-in catalog is the walk of the session's identity. -/
theorem lookup_apply (shows_ : Shows inode look) (path : String) (b : Browsing ν)
    {ctx : SecurityContext} (known : b.session.security = some ctx) :
    lookup (some inode) path b = Action.ofExcept ((look b.store).find ctx path) b := by
  have identity : context b = .ok ctx b := context_eq_ok_iff.2 ⟨known, rfl⟩
  have top := ask_query (shows_.child 0 "/") b
  unfold lookup
  rw [Action.bind_of_ok identity]
  unfold Namespace.find Namespace.rootParent
  cases named : (look b.store).child 0 "/" with
  | ok root =>
    rw [named] at top
    exact (Action.bind_of_ok top).trans (descend_apply shows_ ctx path [] _ root b)
  | error e =>
    rw [named] at top
    exact Action.bind_of_error top

theorem lookup_of_unknown (below : Below ν) (path : String) (b : Browsing ν)
    (unknown : b.session.security = none) :
    lookup below path b = .error .noSecurityContext b :=
  Action.bind_of_error (context_of_unknown b unknown)

theorem lookup_eq_ok_iff (shows_ : Shows inode look) {path : String} {b after : Browsing ν}
    {entry : Entry} :
    lookup (some inode) path b = .ok entry after ↔
      (∃ ctx, b.session.security = some ctx ∧
        (look b.store).Reaches ctx (Path.split path) entry) ∧ after = b := by
  cases known : b.session.security with
  | none =>
    simp [lookup_of_unknown (some inode) path b known]
  | some ctx =>
    rw [lookup_apply shows_ path b known]
    constructor
    · intro found
      obtain ⟨walk, rfl⟩ := Action.eq_ok_of_ofExcept found
      exact ⟨⟨ctx, rfl, Namespace.find_eq_ok_iff.1 walk⟩, rfl⟩
    · rintro ⟨⟨_, same, reaches⟩, rfl⟩
      cases same
      rw [Namespace.find_eq_ok_iff.2 reaches]
      rfl

/-- The catalog shows replicas exactly of the files that the identity of the session may read. -/
theorem replicas_eq_ok_iff (shows_ : Shows inode look) {path : String} {b after : Browsing ν}
    {rows : List Replica} :
    replicas (some inode) path b = .ok rows after ↔
      (∃ ctx entry, b.session.security = some ctx ∧
        (look b.store).Reaches ctx (Path.split (Path.absolute b.session.workingDir path)) entry ∧
        entry.stat.isDirectory = false ∧ entry.permits ctx Mode.read = true ∧
        (look b.store).replicasOf entry.stat.ino = .ok rows) ∧ after = b := by
  unfold replicas
  constructor
  · intro answered
    obtain ⟨_, _, ⟨⟩, looked⟩ := Action.bind_eq_ok_iff.1 answered
    obtain ⟨entry, _, found, guarded⟩ := Action.bind_eq_ok_iff.1 looked
    obtain ⟨⟨ctx, known, reaches⟩, rfl⟩ := (lookup_eq_ok_iff shows_).1 found
    obtain ⟨plain, granted⟩ := Action.guarded_eq_ok_iff.1 guarded
    obtain ⟨_, _, required, asked⟩ := Action.bind_eq_ok_iff.1 granted
    obtain ⟨⟨_, same, readable⟩, rfl⟩ := require_eq_ok_iff.1 required
    obtain rfl := Option.some.inj (known.symm.trans same)
    rw [ask_query (shows_.replicas entry.stat.ino)] at asked
    obtain ⟨listed, rfl⟩ := Action.eq_ok_of_ofExcept asked
    exact ⟨⟨ctx, entry, known, reaches, Bool.eq_false_iff.2 plain, readable, listed⟩, rfl⟩
  · rintro ⟨⟨ctx, entry, known, reaches, plain, readable, listed⟩, rfl⟩
    refine Action.bind_eq_ok_iff.2 ⟨_, after, rfl, ?_⟩
    refine Action.bind_eq_ok_iff.2
      ⟨entry, after, (lookup_eq_ok_iff shows_).2 ⟨⟨ctx, known, reaches⟩, rfl⟩, ?_⟩
    refine Action.guarded_eq_ok_iff.2 ⟨Bool.eq_false_iff.1 plain, ?_⟩
    refine Action.bind_eq_ok_iff.2
      ⟨(), after, require_eq_ok_iff.2 ⟨⟨ctx, known, readable⟩, rfl⟩, ?_⟩
    rw [ask_query (shows_.replicas entry.stat.ino), listed]
    rfl

theorem parentOf_eq_ok {path name : String} (shows_ : Shows inode look) {b after : Browsing ν}
    {parent : Entry} (held : parentOf (some inode) path b = .ok (parent, name) after) :
    (∃ ctx, b.session.security = some ctx ∧
      (look b.store).Reaches ctx (Path.split path).dropLast parent) ∧
      (Path.split path).dropLast ++ [name] = Path.split path ∧ after = b := by
  unfold parentOf at held
  have clean : ∀ part ∈ (Path.split path).dropLast, Path.IsComponent part :=
    fun part member => Path.isComponent_of_mem_split (List.dropLast_subset _ member)
  unfold Path.parentAndName at held
  cases last : (Path.split path).getLast? with
  | none =>
    simp only [last] at held
    cases held
  | some _ =>
    simp only [last] at held
    obtain ⟨found, _, looked, guarded⟩ := Action.bind_eq_ok_iff.1 held
    obtain ⟨-, done⟩ := Action.guarded_eq_ok_iff.1 guarded
    cases done
    obtain ⟨⟨ctx, known, reaches⟩, rfl⟩ := (lookup_eq_ok_iff shows_).1 looked
    rw [Path.split_join clean] at reaches
    obtain ⟨front, whole⟩ := List.getLast?_eq_some_iff.1 last
    refine ⟨⟨ctx, known, reaches⟩, ?_, rfl⟩
    rw [whole, List.dropLast_concat]

/-- A new entry is made in the directory that its path tells, by an identity that may write there. -/
theorem createEntry_eq_ok (shows_ : Shows inode look) {path : String} {type mode : Mode}
    {b after : Browsing ν} (made : createEntry (some inode) path type mode b = .ok () after) :
    let names := Path.split (Path.absolute b.session.workingDir path)
    ∃ ctx parent name created, b.session.security = some ctx ∧
      (look b.store).Reaches ctx names.dropLast parent ∧ names.dropLast ++ [name] = names ∧
      parent.permits ctx (Mode.write ||| Mode.search) = true ∧
      ask (some inode) (.create (template ctx b.session.umask parent name type mode)) b =
        .ok created after := by
  unfold createEntry at made
  obtain ⟨_, _, ⟨⟩, identified⟩ := Action.bind_eq_ok_iff.1 made
  obtain ⟨ctx, _, identity, opened⟩ := Action.bind_eq_ok_iff.1 identified
  obtain ⟨known, rfl⟩ := context_eq_ok_iff.1 identity
  obtain ⟨⟨parent, name⟩, _, held, granted⟩ := Action.bind_eq_ok_iff.1 opened
  obtain ⟨⟨_, same, reaches⟩, whole, rfl⟩ := parentOf_eq_ok shows_ held
  obtain rfl := Option.some.inj (known.symm.trans same)
  obtain ⟨_, _, required, looked⟩ := Action.bind_eq_ok_iff.1 granted
  obtain ⟨⟨_, again, writable⟩, rfl⟩ := require_eq_ok_iff.1 required
  obtain rfl := Option.some.inj (known.symm.trans again)
  obtain ⟨found, _, tried, rest⟩ := Action.bind_eq_ok_iff.1 looked
  have reads : Action.Reads (ask (some inode) (.child parent.stat.ino name)) :=
    fun b => ⟨_, ask_query (shows_.child _ _) b⟩
  obtain rfl := reads.attempt.of_ok tried
  refine ⟨ctx, parent, name, ?_⟩
  cases found with
  | ok entry =>
    obtain ⟨_, _, thrown, -⟩ := Action.bind_eq_ok_iff.1 rest
    cases thrown
  | error e =>
    obtain ⟨-, asked⟩ := Action.guarded_eq_ok_iff.1 rest
    obtain ⟨_, _, ⟨⟩, asked⟩ := Action.bind_eq_ok_iff.1 asked
    obtain ⟨created, _, done, returned⟩ := Action.bind_eq_ok_iff.1 asked
    cases returned
    exact ⟨created, known, reaches, whole, writable, done⟩

end BuiltIn
end Stowage
