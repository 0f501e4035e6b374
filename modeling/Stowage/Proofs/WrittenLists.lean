import Stowage.Acl.Text
import Stowage.Proofs.AccessLists
import Stowage.Proofs.Actions
import Stowage.Proofs.Texts

/-! Access control lists as they are written. An item of a text is read exactly if it is a letter for a type,
an octal digit and perhaps an id, and a text exactly if all its items are. A list of permissions of three bits
reads back as it was written, whatever text it came from. -/
namespace Stowage

section Readers

variable {α β : Type} {f : α → Except Error β} {items : List α}

/-- A list is read exactly if each item is. -/
theorem Error.mapM_eq_ok_iff {read : List β} :
    items.mapM f = .ok read ↔ List.Forall₂ (fun a b => f a = .ok b) items read := by
  induction items generalizing read with
  | nil => simp [pure, Except.pure, eq_comm]
  | cons a rest ih =>
    simp only [List.mapM_cons, Error.bind_eq_ok_iff, ih, List.forall₂_cons_left_iff]
    constructor
    · rintro ⟨b, first, later, others, same⟩
      cases same
      exact ⟨b, later, first, others, rfl⟩
    · rintro ⟨b, later, first, others, rfl⟩
      exact ⟨b, first, later, others, rfl⟩

/-- A list that is not read fails with one of its items. -/
theorem Error.exists_of_mapM_eq_error {e : Error} (failed : items.mapM f = .error e) :
    ∃ a ∈ items, f a = .error e := by
  induction items with
  | nil => cases failed
  | cons a rest ih =>
    rw [List.mapM_cons] at failed
    cases first : f a with
    | error _ =>
      rw [first] at failed
      cases failed
      exact ⟨a, List.mem_cons_self, first⟩
    | ok b =>
      cases others : rest.mapM f with
      | error _ =>
        rw [first, others] at failed
        cases failed
        obtain ⟨a, member, here⟩ := ih others
        exact ⟨a, List.mem_cons_of_mem _ member, here⟩
      | ok later =>
        rw [first, others] at failed
        cases failed

/-- Items are related to those of some list exactly if each is related to something. -/
theorem exists_forall₂_iff {R : α → β → Prop} :
    (∃ others, List.Forall₂ R items others) ↔ ∀ a ∈ items, ∃ b, R a b := by
  induction items with
  | nil => simp
  | cons a rest ih =>
    rw [List.forall_mem_cons]
    refine Iff.trans ?_ (and_congr_right fun _ => ih)
    constructor
    · rintro ⟨_, related⟩
      obtain ⟨b, others, first, later, -⟩ := List.forall₂_cons_left_iff.1 related
      exact ⟨⟨b, first⟩, others, later⟩
    · rintro ⟨⟨b, first⟩, others, later⟩
      exact ⟨b :: others, .cons first later⟩

end Readers

/-! ### Items -/

namespace AclEntry

variable {e : AclEntry} {c : Char} {item idText : List Char}

/-- The letters of the types, in capitals where the entry is one of access. -/
def letters : List Char :=
  ['A', 'B', 'C', 'D', 'E', 'F', 'a', 'b', 'c', 'd', 'e', 'f']

/-- The digits of the permissions. -/
def octals : List Char :=
  ['0', '1', '2', '3', '4', '5', '6', '7']

/-- The item is a letter, an octal digit, and perhaps an id in decimal. -/
def IsItem (item : List Char) : Prop :=
  ∃ letter digit idText, item = letter :: digit :: idText ∧ letter ∈ letters ∧ digit ∈ octals ∧
    (idText = [] ∨ ∃ id, id < UInt32.size ∧ Text.Unsigned idText id)

/-- The item says what the entry is: the letter of its type, the digit of its permission, and its id, which may
be left out where it is zero. -/
def Writes (item : List Char) (e : AclEntry) : Prop :=
  ∃ idText, item = e.letter :: Nat.digitChar e.perm.toNat :: idText ∧ e.perm ≤ 7 ∧
    (idText = [] ∧ e.id = 0 ∨ Text.Unsigned idText e.id.toNat)

theorem ofLetter?_eq_some_iff : ofLetter? c = some (e.tag, e.isDefault) ↔ c = e.letter := by
  obtain ⟨tag, isDefault, perm, id⟩ := e
  constructor
  · intro known
    unfold ofLetter? at known
    split at known <;> cases known <;> rfl
  · rintro rfl
    cases tag <;> cases isDefault <;> rfl

theorem mem_letters_iff : c ∈ letters ↔ ∃ tag isDefault, ofLetter? c = some (tag, isDefault) := by
  have known : ∀ c ∈ letters, (ofLetter? c).isSome := by simp [letters, ofLetter?]
  constructor
  · intro member
    obtain ⟨⟨tag, isDefault⟩, stands⟩ := Option.isSome_iff_exists.1 (known c member)
    exact ⟨tag, isDefault, stands⟩
  · rintro ⟨tag, isDefault, stands⟩
    unfold ofLetter? at stands
    split at stands <;> first | decide | cases stands

theorem octal?_eq_some_iff {perm : UInt8} :
    octal? c = some perm ↔ perm ≤ 7 ∧ c = Nat.digitChar perm.toNat := by
  have digits : ∀ n < 8, octal? (Nat.digitChar n) = some (UInt8.ofNat n) := by decide
  constructor
  · intro read
    obtain ⟨⟨least, most⟩, same⟩ := Option.ite_none_right_eq_some.1 read
    obtain rfl := Option.some.inj same
    have low : 48 ≤ c.toNat := UInt32.le_iff_toNat_le.1 (Char.le_def.1 least)
    have high : c.toNat ≤ 55 := UInt32.le_iff_toNat_le.1 (Char.le_def.1 most)
    have value : (UInt8.ofNat (c.toNat - '0'.toNat)).toNat = c.toNat - 48 :=
      UInt8.toNat_ofNat_of_lt' (by show c.toNat - 48 < 256; omega)
    refine ⟨UInt8.le_iff_toNat_le.2 ?_, Char.toNat_inj.1 ?_⟩
    · rw [value]
      show c.toNat - 48 ≤ 7
      omega
    · rw [value, Nat.toNat_digitChar_of_lt_ten (by omega)]
      omega
  · rintro ⟨small, rfl⟩
    rw [digits perm.toNat (Nat.lt_succ_of_le (UInt8.le_iff_toNat_le.1 small)), UInt8.ofNat_toNat]

theorem mem_octals_iff : c ∈ octals ↔ ∃ perm, octal? c = some perm := by
  have known : ∀ c ∈ octals, (octal? c).isSome := by simp [octals, octal?]
  have digits : ∀ n < 8, Nat.digitChar n ∈ octals := by decide
  constructor
  · exact fun member => Option.isSome_iff_exists.1 (known c member)
  · rintro ⟨perm, read⟩
    obtain ⟨small, rfl⟩ := octal?_eq_some_iff.1 read
    exact digits perm.toNat (Nat.lt_succ_of_le (UInt8.le_iff_toNat_le.1 small))

theorem readId?_eq_some_iff {id : UInt32} :
    readId? idText = some id ↔ idText = [] ∧ id = 0 ∨ Text.Unsigned idText id.toNat := by
  unfold readId?
  by_cases nothing : idText = []
  · have unwritten : ¬ Text.Unsigned [] id.toNat := by
      rintro (written | ⟨_, same, -⟩)
      · exact written.some_ rfl
      · cases same
    simp [nothing, unwritten, eq_comm]
  · rw [if_neg nothing, Option.map_eq_some_iff]
    simp only [Text.readUnsigned?_eq_some_iff, nothing, false_and, false_or]
    constructor
    · rintro ⟨n, ⟨written, small⟩, rfl⟩
      rwa [UInt32.toNat_ofNat_of_lt' small]
    · intro written
      exact ⟨id.toNat, ⟨written, id.toNat_lt⟩, UInt32.ofNat_toNat⟩

/-- An item is read exactly if it says what an entry is. -/
theorem read_eq_ok_iff : read item = .ok e ↔ Writes item e := by
  match item with
  | [] => exact ⟨nofun, nofun⟩
  | [_] => exact ⟨nofun, nofun⟩
  | type :: digit :: idText =>
    have parts : read (type :: digit :: idText) = .ok e ↔ ofLetter? type = some (e.tag, e.isDefault) ∧
        octal? digit = some e.perm ∧ readId? idText = some e.id := by
      obtain ⟨tag, isDefault, perm, id⟩ := e
      rw [read]
      rcases ofLetter? type with - | ⟨_, _⟩ <;> cases octal? digit <;> cases readId? idText <;>
        simp [and_assoc]
    rw [parts, ofLetter?_eq_some_iff, octal?_eq_some_iff, readId?_eq_some_iff]
    constructor
    · rintro ⟨rfl, ⟨small, rfl⟩, written⟩
      exact ⟨idText, rfl, small, written⟩
    · rintro ⟨_, same, small, written⟩
      cases same
      exact ⟨rfl, ⟨small, rfl⟩, written⟩

theorem kind_of_read_eq_error {fault : Error} (failed : read item = .error fault) :
    fault.kind = .invalidAcl := by
  unfold read at failed
  split at failed
  · cases failed
    rfl
  · cases failed
    rfl
  · split at failed <;> cases failed <;> rfl

theorem isItem_iff : IsItem item ↔ ∃ e, Writes item e := by
  constructor
  · rintro ⟨letter, digit, idText, rfl, isLetter, isOctal, written⟩
    obtain ⟨tag, isDefault, stands⟩ := mem_letters_iff.1 isLetter
    obtain ⟨perm, value⟩ := mem_octals_iff.1 isOctal
    obtain ⟨small, rfl⟩ := octal?_eq_some_iff.1 value
    obtain ⟨id, stated⟩ : ∃ id : UInt32, idText = [] ∧ id = 0 ∨ Text.Unsigned idText id.toNat := by
      rcases written with nothing | ⟨n, small, written⟩
      · exact ⟨0, .inl ⟨nothing, rfl⟩⟩
      · exact ⟨.ofNat n, .inr (by rwa [UInt32.toNat_ofNat_of_lt' small])⟩
    have same := (ofLetter?_eq_some_iff (e := ⟨tag, isDefault, perm, id⟩)).1 stands
    exact ⟨⟨tag, isDefault, perm, id⟩, idText, by rw [same], small, stated⟩
  · rintro ⟨e, idText, rfl, small, written⟩
    refine ⟨_, _, idText, rfl, ?_, ?_, written.imp And.left fun written => ⟨_, e.id.toNat_lt, written⟩⟩
    · exact mem_letters_iff.2 ⟨_, _, ofLetter?_eq_some_iff.2 rfl⟩
    · exact mem_octals_iff.2 ⟨_, octal?_eq_some_iff.2 ⟨small, rfl⟩⟩

/-- An entry of three bits is written as an item that says what it is. -/
theorem writes_text (small : e.perm ≤ 7) : Writes e.text.toList e := by
  have digit : Nat.toDigits 10 e.perm.toNat = [Nat.digitChar e.perm.toNat] :=
    Nat.toDigits_of_lt_base ((UInt8.le_iff_toNat_le.1 small).trans_lt (by decide))
  refine ⟨Nat.toDigits 10 e.id.toNat, ?_, small, .inr (.inl (Text.digits_toDigits _))⟩
  rw [text, digit, String.toList_ofList]
  rfl

/-- The text of an entry holds neither blanks nor commas. -/
theorem plain_of_mem_text (member : c ∈ e.text.toList) : Text.isBlank c = false ∧ c ≠ ',' := by
  have letter : Text.isBlank e.letter = false ∧ e.letter ≠ ',' := by
    have plain : ∀ c ∈ letters, Text.isBlank c = false ∧ c ≠ ',' := by
      simp [letters, Text.isBlank]
    exact plain _ (mem_letters_iff.2 ⟨_, _, ofLetter?_eq_some_iff.2 rfl⟩)
  have digits : ∀ {n : Nat}, c ∈ Nat.toDigits 10 n → Text.isBlank c = false ∧ c ≠ ',' := by
    intro n inside
    have digit := Text.isDigit_of_mem_toDigits inside
    refine ⟨Text.not_isBlank_of_isDigit digit, ?_⟩
    rintro rfl
    cases digit
  rw [text, String.toList_ofList] at member
  rcases List.mem_cons.1 member with rfl | rest
  · exact letter
  · exact (List.mem_append.1 rest).elim digits digits

theorem trimChars_text (e : AclEntry) : Text.trimChars e.text.toList = e.text.toList :=
  Text.trimChars_of_ends (fun _ first => (plain_of_mem_text (List.mem_of_mem_head? first)).1)
    fun _ last => (plain_of_mem_text (List.mem_of_mem_getLast? last)).1

end AclEntry

/-! ### Lists -/

namespace Acl

open AclEntry

variable {acl : Acl} {t : String}

theorem ofEntries_entries (acl : Acl) : ofEntries acl.entries = acl := by
  obtain ⟨entries, ordered⟩ := acl
  simp [ofEntries, sort_of_ordered ordered]

/-- The items of a list's text are the texts of its entries. -/
theorem items_text (acl : Acl) : items acl.text = acl.entries.map fun e => e.text.toList := by
  have clean : ∀ item ∈ acl.entries.map fun e => e.text.toList, ',' ∉ item := by
    intro item member comma
    obtain ⟨e, -, rfl⟩ := List.mem_map.1 member
    exact (plain_of_mem_text comma).2 rfl
  have filled : ∀ item ∈ acl.entries.map fun e => e.text.toList, item ≠ [] := by
    intro item member
    obtain ⟨e, -, rfl⟩ := List.mem_map.1 member
    simp [AclEntry.text]
  have trimmed : (acl.entries.map fun e => e.text.toList).map Text.trimChars =
      acl.entries.map fun e => e.text.toList := by
    simp [trimChars_text]
  have joined : acl.text.toList = [','].intercalate (acl.entries.map fun e => e.text.toList) := by
    rw [text, String.toList_intercalate, List.map_map]
    rfl
  unfold items
  rw [joined]
  by_cases nothing : acl.entries = []
  · simp [nothing, Text.trimChars, Text.trimStart, Text.trimEnd]
  · rw [List.splitOn_intercalate ',' clean (by simpa using nothing), trimmed]
    exact List.filter_eq_self.2 fun item member => by simpa using filled item member

/-- A text is read exactly if its items say what entries are, and these make up the list. -/
theorem parse_eq_ok_iff :
    parse t = .ok acl ↔ ∃ entries, List.Forall₂ Writes (items t) entries ∧ acl = ofEntries entries := by
  unfold parse
  simp only [Error.bind_eq_ok_iff, Error.mapM_eq_ok_iff, read_eq_ok_iff]
  constructor
  · rintro ⟨entries, written, same⟩
    cases same
    exact ⟨entries, written, rfl⟩
  · rintro ⟨entries, written, rfl⟩
    exact ⟨entries, written, rfl⟩

theorem kind_of_parse_eq_error {fault : Error} (failed : parse t = .error fault) :
    fault.kind = .invalidAcl := by
  unfold parse at failed
  cases read : (items t).mapM AclEntry.read with
  | ok entries =>
    rw [read] at failed
    cases failed
  | error e =>
    rw [read] at failed
    cases failed
    obtain ⟨item, -, unread⟩ := Error.exists_of_mapM_eq_error read
    exact kind_of_read_eq_error unread

/-- A text that is read has permissions of three bits. -/
theorem small_of_parse (read : parse t = .ok acl) : ∀ e ∈ acl.entries, e.perm ≤ 7 := by
  obtain ⟨entries, written, rfl⟩ := parse_eq_ok_iff.1 read
  have small : List.Forall₂ (fun e item => e.perm ≤ 7 ∧ Writes item e) entries (items t) :=
    .flip (written.imp fun _ _ ⟨idText, same, small, stated⟩ => ⟨small, idText, same, small, stated⟩)
  exact fun e member => ((List.forall₂_and_left _ _).1 small).1 e (mem_sort.1 member)

/-- A list of permissions of three bits reads back as it was written. -/
theorem parse_text (small : ∀ e ∈ acl.entries, e.perm ≤ 7) : parse acl.text = .ok acl := by
  refine parse_eq_ok_iff.2 ⟨acl.entries, ?_, (ofEntries_entries acl).symm⟩
  rw [items_text, List.forall₂_map_left_iff, List.forall₂_same]
  exact fun e member => writes_text (small e member)

theorem parse_succeeds_iff (t : String) : (∃ acl, parse t = .ok acl) ↔ ∀ item ∈ items t, IsItem item := by
  have read : (∃ acl, parse t = .ok acl) ↔ ∃ entries, List.Forall₂ Writes (items t) entries := by
    constructor
    · rintro ⟨acl, read⟩
      obtain ⟨entries, written, -⟩ := parse_eq_ok_iff.1 read
      exact ⟨entries, written⟩
    · rintro ⟨entries, written⟩
      exact ⟨ofEntries entries, parse_eq_ok_iff.2 ⟨entries, written, rfl⟩⟩
  simp only [read, isItem_iff, exists_forall₂_iff]

/-- Lists of permissions of three bits read back from their texts. What is read from any text, reads back
from its own, and its permissions have three bits; the text has then an item for each entry that says what
the entry is. A text is read exactly if each of its items, apart by commas, without the blanks around them
and without the empty ones, is a letter of a type, an octal digit, and perhaps an id, a decimal number of
32 bits in front of which a plus sign may stand. Every other text is refused as invalid. -/
theorem text_round_trip (entries : List AclEntry) (t : String) :
    ((∀ e ∈ entries, e.perm ≤ 7) → parse (ofEntries entries).text = .ok (ofEntries entries)) ∧
      (∀ acl, parse t = .ok acl → parse acl.text = .ok acl ∧ (∀ e ∈ acl.entries, e.perm ≤ 7) ∧
        ∃ given, List.Forall₂ Writes (items t) given ∧ acl = ofEntries given) ∧
      ((∃ acl, parse t = .ok acl) ↔ ∀ item ∈ items t, IsItem item) ∧
      ((∃ item ∈ items t, ¬ IsItem item) → ∃ e, parse t = .error e ∧ e.kind = .invalidAcl) := by
  refine ⟨fun small => ?_, fun acl read => ?_, parse_succeeds_iff t, ?_⟩
  · exact parse_text fun e member => small e (mem_sort.1 member)
  · exact ⟨parse_text (small_of_parse read), small_of_parse read, parse_eq_ok_iff.1 read⟩
  · rintro ⟨item, member, other⟩
    cases read : parse t with
    | ok acl => exact absurd ((parse_succeeds_iff t).1 ⟨acl, read⟩ item member) other
    | error e => exact ⟨e, rfl, kind_of_parse_eq_error read⟩

/-- Entries out of order, two of which have one key. -/
def jumbled : List AclEntry :=
  [⟨.user, true, 5, 0xFFFFFFFF⟩, ⟨.mask, false, 7, 0⟩, ⟨.user, true, 1, 0xFFFFFFFF⟩]

/-- Signs, zeros and blanks are not kept, but what they are about is, and no permission is eight. -/
theorem text_round_trip_of_jumbled :
    (ofEntries jumbled).text = "E70,b54294967295,b14294967295" ∧
      parse (ofEntries jumbled).text = .ok (ofEntries jumbled) ∧
      (∃ acl, parse " b5+0042 ,, F0" = .ok acl ∧ acl.text = "F00,b542" ∧ parse acl.text = .ok acl) ∧
      ∃ e, parse "A6,B8" = .error e ∧ e.kind = .invalidAcl := by
  obtain ⟨kept, again, -, -⟩ := text_round_trip jumbled " b5+0042 ,, F0"
  obtain ⟨-, -, -, refused⟩ := text_round_trip jumbled "A6,B8"
  have read : parse " b5+0042 ,, F0" = .ok (ofEntries [⟨.user, true, 5, 42⟩, ⟨.other, false, 0, 0⟩]) :=
    rfl
  refine ⟨by decide +kernel, kept (by decide), ⟨_, read, by decide +kernel, (again _ read).1⟩, refused ?_⟩
  refine ⟨['B', '8'], by decide, ?_⟩
  rintro ⟨_, digit, _, same, -, octal, -⟩
  cases same
  exact absurd octal (by decide)

end Acl
end Stowage
