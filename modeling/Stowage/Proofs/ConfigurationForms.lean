import Stowage.Config.File
import Stowage.Proofs.Actions
import Stowage.Proofs.Texts

/-! The two forms of a configuration. A document lists plugins and options; a text has a line for each of
them, which may stand between blanks and before a comment, and lines that say nothing. The reader of lines
finds in such a text what the document lists, whatever the characters are, and both forms stop at the same
failure with the same done so far. -/
namespace Stowage

namespace Text

/-! ### Names and values -/

/-- A name that is written in one word, outside of comments. -/
structure IsName (word : String) : Prop where
  nonempty : word ≠ ""
  unblank : ∀ c ∈ word.toList, isBlank c = false
  plain : '#' ∉ word.toList

theorem isName_of_all {word : String} (nonempty : word ≠ "")
    (unblank : word.toList.all (!isBlank ·) = true) (plain : '#' ∉ word.toList) : IsName word :=
  ⟨nonempty, fun c member => by simpa using List.all_eq_true.1 unblank c member, plain⟩

/-- A value that fills the rest of a line. -/
structure IsValue (value : String) : Prop where
  trimmed : trim value = value
  one_line : '\n' ∉ value.toList
  plain : '#' ∉ value.toList

theorem IsValue.trimChars_eq {value : String} (fills : IsValue value) :
    trimChars value.toList = value.toList := by
  simpa [trim] using congrArg String.toList fills.trimmed

variable {before cs after : List Char}

theorem IsName.isValue {word : String} (isName : IsName word) : IsValue word where
  trimmed := by
    have kept : trimChars word.toList = word.toList :=
      trimChars_of_ends (fun c first => isName.unblank c (List.mem_of_mem_head? first))
        fun c last => isName.unblank c (List.mem_of_mem_getLast? last)
    rw [trim, kept, String.ofList_toList]
  one_line member := Bool.false_ne_true (isName.unblank '\n' member).symm
  plain := isName.plain

/-! ### Lines -/

/-- A text is split at the first character that is accepted. -/
theorem splitFirst_append {p : Char → Bool} {c : Char} (other : ∀ x ∈ before, p x = false)
    (accepted : p c = true) : splitFirst p (before ++ c :: after) = some (before, after) := by
  induction before with
  | nil => simp [splitFirst, accepted]
  | cons x rest ih =>
    obtain ⟨here, later⟩ := List.forall_mem_cons.1 other
    simp [splitFirst, here, ih later]

theorem splitFirst_eq_none {p : Char → Bool} (other : ∀ x ∈ cs, p x = false) :
    splitFirst p cs = none := by
  induction cs with
  | nil => rfl
  | cons x rest ih =>
    obtain ⟨here, later⟩ := List.forall_mem_cons.1 other
    simp [splitFirst, here, ih later]

/-- A word is the one word in it. -/
theorem words_of_word {word : String} (isName : IsName word) : words word = [word] := by
  have some_ : word.toList ≠ [] := by simpa using isName.nonempty
  unfold words
  rw [List.splitOnP_eq_singleton isName.unblank]
  simp [some_]

/-- A line without the carriage return that may end it. -/
def withoutReturn (line : List Char) : List Char :=
  match line.reverse with
  | '\r' :: rest => rest.reverse
  | _ => line

/-- The lines of a text that is put together of rows. Its last row is a line unless it is empty. -/
theorem lines_intercalate {front : List String} {last : String}
    (clean : ∀ row ∈ front ++ [last], '\n' ∉ row.toList) :
    lines ("\n".intercalate (front ++ [last])) =
      (front.map fun row => String.ofList (withoutReturn row.toList)) ++
        if last = "" then [] else [last] := by
  have pieces : ("\n".intercalate (front ++ [last])).toList.splitOn '\n' =
      (front ++ [last]).map String.toList := by
    rw [String.toList_intercalate]
    refine List.splitOn_intercalate '\n' (fun row member => ?_) (by simp)
    obtain ⟨text, there, rfl⟩ := List.mem_map.1 member
    exact clean text there
  unfold lines
  rw [pieces]
  simp only [List.map_append, List.map_cons, List.map_nil, List.dropLast_concat, List.getLastD_concat,
    List.map_map]
  by_cases empty : last = ""
  · simp only [empty, String.toList_empty, if_true, List.append_nil, List.map_map]
    rfl
  · have filled : last.toList ≠ [] := by simpa using empty
    simp only [empty, filled, if_false, List.map_append, List.map_map, List.map_singleton,
      String.ofList_toList]
    rfl

/-- What stands before the first character that is accepted. -/
theorem fst_splitFirst (p : Char → Bool) (cs : List Char) :
    ((splitFirst p cs).map Prod.fst).getD cs = cs.takeWhile fun c => !p c := by
  induction cs with
  | nil => rfl
  | cons c rest ih =>
    cases accepted : p c with
    | true => simp [splitFirst, accepted]
    | false =>
      rw [List.takeWhile_cons_of_pos (by simp [accepted]), ← ih]
      cases later : splitFirst p rest <;> simp [splitFirst, accepted, later]

end Text

namespace Manager

open Text

/-! ### What lines say -/

/-- A line that shows a statement: blanks may stand around it, and a comment behind it. -/
def Shows (statement line : String) : Prop :=
  '\n' ∉ line.toList ∧ ∃ before after comment,
    line.toList = before ++ statement.toList ++ after ++ comment ∧
    (∀ c ∈ before, isBlank c = true) ∧ (∀ c ∈ after, isBlank c = true) ∧
    ∀ c ∈ comment.head?, c = '#'

/-- A statement is what stands before a comment, without the blanks at its ends. -/
theorem statement_eq (line : String) :
    statement line = String.ofList (trimChars (line.toList.takeWhile (· != '#'))) := by
  have read : (((cut '#' line).map Prod.fst).getD line).toList = line.toList.takeWhile (· != '#') := by
    refine Eq.trans ?_ (fst_splitFirst (· == '#') line.toList)
    unfold cut
    cases splitFirst (· == '#') line.toList <;> simp
  unfold statement trim
  rw [read]

theorem statement_of_shows {text line : String} (plain : '#' ∉ text.toList) (shows : Shows text line) :
    statement line = trim text := by
  obtain ⟨-, before, after, comment, all, ahead, behind, marked⟩ := shows
  have outside : ∀ c ∈ before ++ text.toList ++ after, (c != '#') = true := by
    intro c member
    refine bne_iff_ne.2 fun hash => ?_
    subst hash
    rcases List.mem_append.1 member with member | member
    · rcases List.mem_append.1 member with member | member
      · cases ahead _ member
      · exact plain member
    · cases behind _ member
  have stops : comment.takeWhile (· != '#') = [] := by
    cases comment with
    | nil => rfl
    | cons c rest => simp [marked c rfl]
  rw [statement_eq, all, List.takeWhile_append_of_pos outside, stops, List.append_nil,
    trimChars_append_of_blank ahead behind]
  rfl

/-- Nothing is said by a carriage return. -/
theorem statement_withoutReturn (line : String) :
    statement (String.ofList (withoutReturn line.toList)) = statement line := by
  have blank : ∀ c ∈ ['\r'], isBlank c = true := List.forall_mem_singleton.2 rfl
  rw [statement_eq, statement_eq, String.toList_ofList]
  unfold withoutReturn
  split
  · rename_i rest turned
    have all : line.toList = rest.reverse ++ ['\r'] := by
      have back := congrArg List.reverse turned
      simpa using back
    rw [all, List.takeWhile_append]
    split
    · rename_i outside
      have same : rest.reverse.takeWhile (· != '#') = rest.reverse :=
        (List.takeWhile_prefix _).eq_of_length outside
      have trimmed : trimChars ([] ++ rest.reverse ++ ['\r']) = trimChars rest.reverse :=
        trimChars_append_of_blank nofun blank
      rw [same]
      exact congrArg String.ofList trimmed.symm
    · rfl
  · rfl

/-- A key and its value, as they are written on a line. -/
def written (key value : String) : String :=
  key ++ " " ++ value

/-- Of what was written, trimming takes the blank behind a key without a value. -/
theorem trim_written {key value : String} (word : IsName key) (fills : IsValue value) :
    trim (written key value) = if value = "" then key else written key value := by
  have ahead : ∀ c ∈ key.toList.head?, isBlank c = false := fun c first =>
    word.unblank c (List.mem_of_mem_head? first)
  have all : (written key value).toList = key.toList ++ ' ' :: value.toList := by
    simp [written]
  unfold trim
  rw [all]
  split
  · rename_i empty
    have blank : ∀ c ∈ [' '], isBlank c = true := List.forall_mem_singleton.2 rfl
    have kept : trimChars key.toList = key.toList :=
      trimChars_of_ends ahead fun c last => word.unblank c (List.mem_of_mem_getLast? last)
    have shorter : trimChars ([] ++ key.toList ++ [' ']) = trimChars key.toList :=
      trimChars_append_of_blank nofun blank
    rw [kept] at shorter
    simpa [empty] using congrArg String.ofList shorter
  · rename_i filled
    have kept : trimChars (key.toList ++ ' ' :: value.toList) = key.toList ++ ' ' :: value.toList := by
      refine trimChars_of_ends (fun c first => ahead c ?_) fun c last => ?_
      · have some_ : key.toList ≠ [] := by simpa using word.nonempty
        simpa [List.head?_append_of_ne_nil _ some_] using first
      · have more : value.toList ≠ [] := by simpa using filled
        refine last_of_trimmed fills.trimChars_eq c ?_
        rwa [List.getLast?_append_of_ne_nil _ (List.cons_ne_nil _ _),
          List.getLast?_cons_of_ne_nil more] at last
    rw [kept, ← all, String.ofList_toList]

theorem keyAndValue_written {key value : String} (word : IsName key) (fills : IsValue value) :
    keyAndValue (trim (written key value)) = (key, value) := by
  rw [trim_written word fills]
  unfold keyAndValue
  by_cases empty : value = ""
  · rw [if_pos empty, splitFirst_eq_none word.unblank, empty]
  · have all : (written key value).toList = key.toList ++ ' ' :: value.toList := by
      simp [written]
    rw [if_neg empty, all, splitFirst_append word.unblank rfl]
    simp [fills.trimChars_eq]

theorem trim_written_ne {key value : String} (word : IsName key) (fills : IsValue value) :
    trim (written key value) ≠ "" := by
  rw [trim_written word fills]
  split
  · exact word.nonempty
  · intro empty
    have none_ := congrArg String.toList empty
    simp [written] at none_

/-- Lines that show statements one after another, and lines between them that show nothing. -/
inductive Renders : List String → List String → Prop where
  | nil : Renders [] []
  | idle {statements lines : List String} {line : String} (empty : Shows "" line)
      (rest : Renders statements lines) : Renders statements (line :: lines)
  | stated {statements lines : List String} {statement line : String} (shows : Shows statement line)
      (rest : Renders statements lines) : Renders (statement :: statements) (line :: lines)

/-! ### Carrying out -/

theorem isName_loadPlugin : IsName "LoadPlugin" :=
  isName_of_all (by decide) (by decide) (by decide)

/-- Something that a configuration asks for. -/
inductive Directive where
  | plugin (id : String)
  | option (key value : String)

namespace Directive

/-- The line for it. -/
def text : Directive → String
  | .plugin id => written "LoadPlugin" id
  | .option key value => written key value

/-- What it asks for can be written on a line. -/
def Writable : Directive → Prop
  | .plugin id => IsName id
  | .option key value => IsName key ∧ key ≠ "LoadPlugin" ∧ IsValue value

theorem Writable.plain {directive : Directive} (writable : directive.Writable) :
    '#' ∉ directive.text.toList := by
  cases directive with
  | plugin id => simpa [text, written] using IsName.plain writable
  | option key value => simpa [text, written] using ⟨writable.1.plain, writable.2.2.plain⟩

def act : Directive → Action Manager Unit
  | .plugin id => load id
  | .option key value => configureLenient key value

/-- Carries out directives in order, up to the first that fails. -/
def carryOut : List Directive → Action Manager Unit
  | [] => pure ()
  | directive :: rest => do
    directive.act
    carryOut rest

end Directive

/-- The same done, and failures that differ in their text alone. -/
def SameEnd (first second : Except Error Unit × Manager) : Prop :=
  first.2 = second.2 ∧ Alike first.1 second.1

theorem loadLine_of_empty {line : String} (empty : statement line = "") (number : Nat) :
    loadLine number line = pure () := by
  unfold loadLine
  simp only [empty]
  rfl

/-- A line is carried out as the directive that it shows. -/
theorem loadLine_of_directive {directive : Directive} {line : String} (writable : directive.Writable)
    (shown : statement line = trim directive.text) (number : Nat) (m : Manager) :
    SameEnd ((loadLine number line).outcome m) (directive.act.outcome m) := by
  cases directive with
  | plugin id =>
    have line : loadLine number line = load id := by
      unfold loadLine
      simp only [shown, Directive.text, trim_written_ne isName_loadPlugin writable.isValue,
        keyAndValue_written isName_loadPlugin writable.isValue, words_of_word writable]
      rfl
    rw [line]
    exact ⟨rfl, .refl _⟩
  | option key value =>
    obtain ⟨word, other, fills⟩ := writable
    unfold loadLine
    simp only [shown, Directive.text, trim_written_ne word fills, keyAndValue_written word fills, other,
      if_false]
    rw [Action.outcome_bind_of_ok (Action.attempt_apply _ m)]
    change SameEnd _ ((configureLenient key value).outcome m)
    obtain ⟨e | _, after⟩ := (configureLenient key value).outcome m
    · exact ⟨rfl, rfl, rfl⟩
    · exact ⟨rfl, rfl⟩

/-! ### Whole configurations -/

/-- What one and the other end in the same way, they do so with the same behind it. -/
theorem SameEnd.bind {first second rest others : Action Manager Unit} {m : Manager}
    (same : SameEnd (first.outcome m) (second.outcome m))
    (after : ∀ m, SameEnd (rest.outcome m) (others.outcome m)) :
    SameEnd ((do first; rest : Action Manager Unit).outcome m)
      ((do second; others : Action Manager Unit).outcome m) := by
  cases here : first m with
  | ok u t =>
    cases there : second m with
    | ok v n =>
      rw [Action.outcome_of_ok here, Action.outcome_of_ok there] at same
      obtain rfl : t = n := same.1
      rw [Action.outcome_bind_of_ok here, Action.outcome_bind_of_ok there]
      exact after t
    | error e n =>
      rw [Action.outcome_of_ok here, Action.outcome_of_error there] at same
      cases same.2
  | error e t =>
    cases there : second m with
    | ok v n =>
      rw [Action.outcome_of_error here, Action.outcome_of_ok there] at same
      cases same.2
    | error fault n =>
      rw [Action.outcome_of_error here, Action.outcome_of_error there] at same
      rw [Action.outcome_of_error (Action.bind_of_error here),
        Action.outcome_of_error (Action.bind_of_error there)]
      exact same

/-- The statements are those of directives, with others between them that say nothing. -/
inductive States : List Directive → List String → Prop where
  | nil : States [] []
  | idle {directives : List Directive} {statements : List String} (rest : States directives statements) :
      States directives ("" :: statements)
  | directive {directive : Directive} {directives : List Directive} {statements : List String}
      (writable : directive.Writable) (rest : States directives statements) :
      States (directive :: directives) (trim directive.text :: statements)

theorem Directive.Writable.text_ne {directive : Directive} (writable : directive.Writable) :
    trim directive.text ≠ "" := by
  cases directive with
  | plugin id => exact trim_written_ne isName_loadPlugin (IsName.isValue writable)
  | option key value => exact trim_written_ne writable.1 writable.2.2

/-- The end of a text says nothing. -/
theorem States.of_concat_empty {directives : List Directive} {statements : List String}
    (states : States directives (statements ++ [""])) : States directives statements := by
  generalize all : statements ++ [""] = whole at states
  induction states generalizing statements with
  | nil => simp at all
  | idle rest ih =>
    cases statements with
    | nil =>
      cases all
      exact rest
    | cons s statements =>
      cases all
      exact .idle (ih rfl)
  | directive writable rest ih =>
    cases statements with
    | nil => exact absurd (List.cons.inj all).1.symm writable.text_ne
    | cons s statements =>
      cases all
      exact .directive writable (ih rfl)

theorem loadLinesFrom_of_states {directives : List Directive} {rows : List String}
    (states : States directives (rows.map statement)) (number : Nat) (m : Manager) :
    SameEnd ((loadLinesFrom number rows).outcome m) ((Directive.carryOut directives).outcome m) := by
  induction rows generalizing directives number m with
  | nil =>
    cases states
    exact ⟨rfl, rfl⟩
  | cons row rows ih =>
    rw [List.map_cons] at states
    generalize shown : statement row = text at states
    cases states with
    | idle rest =>
      have skipped : loadLinesFrom number (row :: rows) = loadLinesFrom (number + 1) rows := by
        change (loadLine number row >>= fun _ => loadLinesFrom (number + 1) rows) = _
        rw [loadLine_of_empty shown, pure_bind]
      rw [skipped]
      exact ih rest _ m
    | directive writable rest =>
      exact (loadLine_of_directive writable shown number m).bind fun m => ih rest _ m

theorem Renders.states {directives : List Directive} {rows : List String}
    (writable : ∀ directive ∈ directives, directive.Writable)
    (renders : Renders (directives.map Directive.text) rows) :
    States directives (rows.map statement) := by
  generalize all : directives.map Directive.text = texts at renders
  induction renders generalizing directives with
  | nil =>
    obtain rfl := List.map_eq_nil_iff.1 all
    exact .nil
  | idle empty rest ih =>
    rw [List.map_cons, statement_of_shows (by simp) empty]
    exact .idle (ih writable all)
  | stated shows rest ih =>
    obtain ⟨directive, others, rfl, rfl, rest⟩ := List.map_eq_cons_iff.1 all
    obtain ⟨here, later⟩ := List.forall_mem_cons.1 writable
    rw [List.map_cons, statement_of_shows here.plain shows]
    exact .directive here (ih later rest)

theorem Renders.one_line {texts rows : List String} (renders : Renders texts rows) :
    ∀ row ∈ rows, '\n' ∉ row.toList := by
  induction renders with
  | nil => simp
  | idle shows rest ih | stated shows rest ih => exact List.forall_mem_cons.2 ⟨shows.1, ih⟩

/-- The reader finds the lines that a text was put together of. -/
theorem States.lines {directives : List Directive} {rows : List String}
    (clean : ∀ row ∈ rows, '\n' ∉ row.toList) (states : States directives (rows.map statement)) :
    States directives ((lines ("\n".intercalate rows)).map statement) := by
  rcases rows.eq_nil_or_concat' with rfl | ⟨front, last, rfl⟩
  · exact states
  rw [lines_intercalate clean, List.map_append, List.map_map]
  have kept : front.map (statement ∘ fun row => String.ofList (withoutReturn row.toList)) =
      front.map statement :=
    List.map_congr_left fun row _ => statement_withoutReturn row
  rw [kept]
  rw [List.map_append, List.map_singleton] at states
  split
  · rename_i empty
    rw [empty] at states
    simpa using states.of_concat_empty
  · exact states

theorem Directive.carryOut_append (first rest : List Directive) :
    carryOut (first ++ rest) = (do carryOut first; carryOut rest) := by
  induction first with
  | nil => exact (pure_bind _ _).symm
  | cons directive first ih =>
    have grown : carryOut (directive :: first ++ rest) = (do directive.act; carryOut (first ++ rest)) := rfl
    have alone : carryOut (directive :: first) = (do directive.act; carryOut first) := rfl
    rw [grown, alone, ih, bind_assoc]

theorem loadAll_eq (ids : List String) :
    loadAll (ids.map fun id => { id }) = Directive.carryOut (ids.map Directive.plugin) := by
  induction ids with
  | nil => rfl
  | cons id ids ih =>
    have alone : loadAll ((id :: ids).map fun id => { id }) =
        (do load id; loadAll (ids.map fun id => { id })) := rfl
    rw [alone, ih]
    rfl

theorem offerAll_eq (options : List (String × String)) :
    offerAll options = Directive.carryOut (options.map fun option => .option option.1 option.2) := by
  induction options with
  | nil => rfl
  | cons option options ih =>
    have alone : offerAll (option :: options) =
        (do configureLenient option.1 option.2; offerAll options) := rfl
    rw [alone, ih]
    rfl

/-- Texts are handed on as they are. -/
theorem entries_texts (options : List (String × String)) :
    OptionMap.entries (options.map fun option => (.str option.1, .str option.2)) = .ok options := by
  unfold OptionMap.entries
  induction options with
  | nil => rfl
  | cons option options ih =>
    rw [List.map_cons, List.mapM_cons, ih]
    rfl

/-- A document that lists plugins and options, all of them texts. -/
def document (ids : List String) (options : List (String × String)) : StackConfig where
  plugins := ids.map fun id => { id }
  options := options.map fun option => (.str option.1, .str option.2)

/-- A document is carried out as the directives that it lists. -/
theorem applyConfig_document (ids : List String) (options : List (String × String)) :
    applyConfig (document ids options) =
      Directive.carryOut (ids.map Directive.plugin ++
        options.map fun option => .option option.1 option.2) := by
  unfold applyConfig document
  rw [entries_texts, loadAll_eq, Directive.carryOut_append, ← offerAll_eq]
  rfl

/-- A document and a text that list the same plugins and options do the same to every manager, and fail
alike if they fail. -/
theorem configuration_forms_agree {ids : List String} {options : List (String × String)}
    {rows : List String} (plugins : ∀ id ∈ ids, IsName id)
    (keys : ∀ option ∈ options, IsName option.1 ∧ option.1 ≠ "LoadPlugin")
    (values : ∀ option ∈ options, IsValue option.2)
    (rendered : Renders ((ids.map fun id => "LoadPlugin " ++ id) ++
      options.map fun option => option.1 ++ " " ++ option.2) rows) (m : Manager) :
    SameEnd ((loadLines ("\n".intercalate rows)).outcome m)
      ((applyConfig (document ids options)).outcome m) := by
  have writable : ∀ directive ∈ ids.map Directive.plugin ++
      options.map (fun option => Directive.option option.1 option.2), directive.Writable := by
    refine List.forall_mem_append.2 ⟨?_, ?_⟩
    · simpa [Directive.Writable] using plugins
    · rintro directive member
      obtain ⟨option, there, rfl⟩ := List.mem_map.1 member
      exact ⟨(keys option there).1, (keys option there).2, values option there⟩
  have texts : (ids.map Directive.plugin ++
      options.map fun option => Directive.option option.1 option.2).map Directive.text =
        (ids.map fun id => "LoadPlugin " ++ id) ++ options.map fun option => option.1 ++ " " ++ option.2 := by
    rw [List.map_append, List.map_map, List.map_map]
    rfl
  rw [← texts] at rendered
  rw [applyConfig_document]
  exact loadLinesFrom_of_states ((rendered.states writable).lines rendered.one_line) 1 m

/-- A text with a comment, an empty line and blanks around a statement. -/
theorem configuration_forms_agree_commented :
    SameEnd
      ((loadLines ("\n".intercalate
        ["# one pool", "LoadPlugin memory", "", "\tMemoryPool disk:filesystem # of disks\r", ""])).outcome
          initial)
      ((applyConfig (document ["memory"] [("MemoryPool", "disk:filesystem")])).outcome initial) := by
  have empty : Shows "" "" := ⟨by decide, [], [], [], rfl, nofun, nofun, nofun⟩
  have comment : Shows "" "# one pool" :=
    ⟨by decide, [], [], '#' :: " one pool".toList, rfl, nofun, nofun,
      fun _ same => (Option.some.inj same).symm⟩
  have plugin : Shows ("LoadPlugin " ++ "memory") "LoadPlugin memory" :=
    ⟨by decide, [], [], [], by decide, nofun, nofun, nofun⟩
  have pool : Shows ("MemoryPool" ++ " " ++ "disk:filesystem")
      "\tMemoryPool disk:filesystem # of disks\r" :=
    ⟨by decide, ['\t'], [' '], '#' :: " of disks\r".toList, by decide, List.forall_mem_singleton.2 rfl,
      List.forall_mem_singleton.2 rfl, fun _ same => (Option.some.inj same).symm⟩
  have rendered : Renders ((["memory"].map fun id => "LoadPlugin " ++ id) ++
      [("MemoryPool", "disk:filesystem")].map fun option => option.1 ++ " " ++ option.2)
      ["# one pool", "LoadPlugin memory", "", "\tMemoryPool disk:filesystem # of disks\r", ""] :=
    .idle comment (.stated plugin (.idle empty (.stated pool (.idle empty .nil))))
  refine configuration_forms_agree ?_ ?_ ?_ rendered initial
  · exact List.forall_mem_singleton.2 (isName_of_all (by decide) (by decide) (by decide))
  · exact List.forall_mem_singleton.2
      ⟨isName_of_all (by decide) (by decide) (by decide), by decide⟩
  · exact List.forall_mem_singleton.2 ⟨by decide, by decide, by decide⟩

end Manager

end Stowage
