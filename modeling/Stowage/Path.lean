import Stowage.Text

/-!
Logical paths. A path text stands for the list of its components: empty and `.` components say
nothing, and `..` takes back the component before it but never climbs above the root. The text of
such a list is its normal form. Main statements: every component of a path can stand in a normal
form, and splitting a normal form gives the components it was made of.
-/
namespace Stowage.Path

/-- What one component does to the components before it, the nearest first. -/
def enter (stack : List String) (part : String) : List String :=
  if part = "" ∨ part = "." then stack
  else if part = ".." then stack.tail
  else part :: stack

/-- The components of a path. -/
def split (path : String) : List String :=
  ((Text.parts '/' path).foldl enter []).reverse

/-- The normal form of a list of components. -/
def join (components : List String) : String :=
  match components with
  | [] => "/"
  | _ => "/" ++ "/".intercalate components

def isAbsolute (path : String) : Bool :=
  path.toList.head? == some '/'

/-- The normal form of `path` as seen from the directory `cwd`. -/
def absolute (cwd path : String) : String :=
  if isAbsolute path then join (split path) else join (split (cwd ++ "/" ++ path))

/-- The normal form of the parent and the last component, which the root lacks. -/
def parentAndName (path : String) : String × Option String :=
  let components := split path
  (join components.dropLast, components.getLast?)

/-- A component that can stand in a normal form. -/
def IsComponent (part : String) : Prop :=
  part ≠ "" ∧ part ≠ "." ∧ part ≠ ".." ∧ '/' ∉ part.toList

theorem enter_of_isComponent {part : String} (component : IsComponent part) (stack : List String) :
    enter stack part = part :: stack := by
  obtain ⟨nonempty, dot, dots, _⟩ := component
  simp [enter, nonempty, dot, dots]

theorem isComponent_of_mem_enter {stack : List String} {part x : String} (clean : '/' ∉ part.toList)
    (components : ∀ y ∈ stack, IsComponent y) (member : x ∈ enter stack part) : IsComponent x := by
  unfold enter at member
  split at member
  · exact components x member
  · rename_i spoken
    split at member
    · exact components x (List.mem_of_mem_tail member)
    · rename_i down
      rcases List.mem_cons.1 member with rfl | member
      · exact ⟨fun empty => spoken (.inl empty), fun dot => spoken (.inr dot), down, clean⟩
      · exact components x member

theorem isComponent_of_mem_split {path part : String} (member : part ∈ split path) :
    IsComponent part := by
  have all : ∀ (pieces stack : List String), (∀ p ∈ pieces, '/' ∉ p.toList) →
      (∀ y ∈ stack, IsComponent y) → ∀ y ∈ pieces.foldl enter stack, IsComponent y := by
    intro pieces
    induction pieces with
    | nil => exact fun _ _ components => components
    | cons piece rest ih =>
      intro stack clean components
      refine ih _ (fun p inside => clean p (List.mem_cons_of_mem _ inside)) fun y inside => ?_
      exact isComponent_of_mem_enter (clean piece List.mem_cons_self) components inside
  refine all _ [] (fun p inside => Text.not_mem_of_mem_parts inside) (fun _ inside => nomatch inside)
    part (List.mem_reverse.1 member)

theorem foldl_enter {components : List String} (all : ∀ part ∈ components, IsComponent part)
    (stack : List String) : components.foldl enter stack = components.reverse ++ stack := by
  induction components generalizing stack with
  | nil => rfl
  | cons part rest ih =>
    rw [List.foldl_cons, enter_of_isComponent (all part List.mem_cons_self),
      ih fun p inside => all p (List.mem_cons_of_mem _ inside)]
    simp

/-- The components of a normal form are those it was made of. -/
theorem split_join {components : List String} (all : ∀ part ∈ components, IsComponent part) :
    split (join components) = components := by
  cases components with
  | nil => decide +kernel
  | cons first rest =>
    have pieces : Text.parts '/' (join (first :: rest)) = "" :: first :: rest := by
      unfold Text.parts join
      rw [String.toList_append, String.toList_intercalate]
      have slash : "/".toList = ['/'] := rfl
      rw [slash, List.singleton_append]
      rw [List.splitOn_cons_eq_if_modifyHead, if_pos (beq_self_eq_true _), List.splitOn_intercalate]
      · simp [Function.comp_def]
      · intro l inside
        obtain ⟨part, given, rfl⟩ := List.mem_map.1 inside
        exact (all part given).2.2.2
      · simp
    rw [split, pieces, List.foldl_cons, show enter [] "" = [] from rfl, foldl_enter all]
    simp

theorem isAbsolute_join (components : List String) : isAbsolute (join components) = true := by
  cases components with
  | nil => decide +kernel
  | cons first rest =>
    unfold isAbsolute join
    rw [String.toList_append]
    rfl

/-- A path as seen from a directory is the normal form of some components. -/
theorem absolute_eq_join (cwd path : String) :
    ∃ components, (∀ part ∈ components, IsComponent part) ∧
      absolute cwd path = join components := by
  unfold absolute
  split
  · exact ⟨_, fun _ member => isComponent_of_mem_split member, rfl⟩
  · exact ⟨_, fun _ member => isComponent_of_mem_split member, rfl⟩

theorem absolute_ne_empty (cwd path : String) : absolute cwd path ≠ "" := by
  obtain ⟨components, -, same⟩ := absolute_eq_join cwd path
  have slash := isAbsolute_join components
  rw [← same] at slash
  intro empty
  rw [empty] at slash
  cases slash

/-- The normal form of a path is its own normal form, wherever it is seen from. -/
theorem absolute_absolute (cwd other path : String) :
    absolute other (absolute cwd path) = absolute cwd path := by
  obtain ⟨components, all, same⟩ := absolute_eq_join cwd path
  rw [same]
  unfold absolute
  rw [if_pos (isAbsolute_join components), split_join all]

end Stowage.Path
