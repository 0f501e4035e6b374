import Mathlib.Data.List.Basic
import Mathlib.Data.List.DropRight
import Stowage.Text

/-! Texts as they are read. Blanks around a text do not count, and a text without blanks at its ends stays as
it is; a number is read exactly from a row of decimal digits that stands for it, in front of which a plus sign
may stand. -/
namespace Stowage.Text

/-! ### Trimming -/

variable {before cs after : List Char}

theorem trimStart_append_of_blank (blank : ∀ c ∈ before, isBlank c = true) (cs : List Char) :
    trimStart (before ++ cs) = trimStart cs :=
  List.dropWhile_append_of_pos blank

theorem trimEnd_append_of_blank (blank : ∀ c ∈ after, isBlank c = true) (cs : List Char) :
    trimEnd (cs ++ after) = trimEnd cs := by
  have turned : ∀ c ∈ after.reverse, isBlank c = true := by simpa using blank
  unfold trimEnd
  rw [List.reverse_append, List.dropWhile_append_of_pos turned]

/-- Blanks around a text do not count. -/
theorem trimChars_append_of_blank (ahead : ∀ c ∈ before, isBlank c = true)
    (behind : ∀ c ∈ after, isBlank c = true) :
    trimChars (before ++ cs ++ after) = trimChars cs := by
  unfold trimChars
  rw [List.append_assoc, trimStart_append_of_blank ahead]
  cases start : trimStart cs with
  | nil =>
    have blank : ∀ c ∈ cs, isBlank c = true := List.dropWhile_eq_nil_iff.1 start
    rw [trimStart_append_of_blank blank, trimStart, List.dropWhile_eq_nil_iff.2 behind]
  | cons c rest =>
    have grown : trimStart (cs ++ after) = trimStart cs ++ after := by
      unfold trimStart at start ⊢
      rw [List.dropWhile_append, start]
      rfl
    rw [grown, start, trimEnd_append_of_blank behind]

/-- A text that begins and ends with something but blanks stays as it is. -/
theorem trimChars_of_ends (ahead : ∀ c ∈ cs.head?, isBlank c = false)
    (behind : ∀ c ∈ cs.getLast?, isBlank c = false) : trimChars cs = cs := by
  have started : trimStart cs = cs := by
    cases cs with
    | nil => rfl
    | cons c rest => simp [trimStart, ahead c rfl]
  unfold trimChars
  rw [started]
  exact List.rdropWhile_eq_self_iff.2 fun some_ => by
    simp [behind _ (List.getLast?_eq_some_getLast some_)]

theorem last_of_trimmed (trimmed : trimChars cs = cs) : ∀ c ∈ cs.getLast?, isBlank c = false := by
  intro c last
  obtain ⟨some_, rfl⟩ := List.mem_getLast?_eq_getLast last
  have shown : (trimStart cs).rdropWhile isBlank = cs := trimmed
  have other := List.rdropWhile_last_not isBlank (trimStart cs) (by rw [shown]; exact some_)
  simp only [shown] at other
  exact Bool.eq_false_iff.2 other

/-! ### Decimal numbers -/

theorem isDigit_iff {c : Char} : c.isDigit = true ↔ '0' ≤ c ∧ c ≤ '9' := by
  simp [Char.isDigit, Char.le_def]

theorem digit?_of_isDigit {c : Char} (digit : c.isDigit = true) : digit? c = some (c.toNat - '0'.toNat) :=
  if_pos (isDigit_iff.1 digit)

/-- Digits are read as the number that they stand for. -/
theorem readDigits_of_isDigit (acc : Nat) {cs : List Char} (digits : ∀ c ∈ cs, c.isDigit = true) :
    readDigits acc cs = some (Nat.ofDigitChars 10 cs acc) := by
  induction cs generalizing acc with
  | nil => rfl
  | cons c rest ih =>
    obtain ⟨digit, others⟩ := List.forall_mem_cons.1 digits
    rw [readDigits, digit?_of_isDigit digit, Nat.ofDigitChars_cons, Nat.mul_comm]
    exact ih _ others

theorem isDigit_of_mem_toDigits {c : Char} {n : Nat} (member : c ∈ Nat.toDigits 10 n) : c.isDigit = true :=
  Nat.isDigit_of_mem_toDigits (by decide) (by decide) member

theorem digit?_of_not_isDigit {c : Char} (other : c.isDigit = false) : digit? c = none :=
  if_neg fun bounds => absurd (isDigit_iff.2 bounds) (by simp [other])

/-- Nothing but digits is read as a number. -/
theorem readDigits_eq_some_iff {acc n : Nat} {cs : List Char} :
    readDigits acc cs = some n ↔ (∀ c ∈ cs, c.isDigit = true) ∧ Nat.ofDigitChars 10 cs acc = n := by
  by_cases digits : ∀ c ∈ cs, c.isDigit = true
  · rw [readDigits_of_isDigit acc digits, Option.some.injEq, and_iff_right digits]
  · simp only [digits, false_and, iff_false]
    induction cs generalizing acc with
    | nil => exact absurd nofun digits
    | cons c rest ih =>
      cases digit : c.isDigit with
      | false => simp [readDigits, digit?_of_not_isDigit digit]
      | true =>
        rw [readDigits, digit?_of_isDigit digit]
        exact ih (by simpa [digit] using digits)

/-- The characters are decimal digits, at least one, that stand for the number. -/
structure Digits (cs : List Char) (n : Nat) : Prop where
  some_ : cs ≠ []
  digits : ∀ c ∈ cs, c.isDigit = true
  value : Nat.ofDigitChars 10 cs 0 = n

/-- The same, with or without a plus sign in front. -/
def Unsigned (cs : List Char) (n : Nat) : Prop :=
  Digits cs n ∨ ∃ digits, cs = '+' :: digits ∧ Digits digits n

theorem digits_toDigits (n : Nat) : Digits (Nat.toDigits 10 n) n where
  some_ := Nat.toDigits_ne_nil
  digits _ := isDigit_of_mem_toDigits
  value := Nat.ofDigitChars_toDigits (by decide) (by decide)

theorem readNat?_eq_some_iff {cs : List Char} {n : Nat} : readNat? cs = some n ↔ Digits cs n := by
  constructor
  · intro read
    cases cs with
    | nil => cases read
    | cons c rest =>
      obtain ⟨digits, value⟩ := readDigits_eq_some_iff.1 read
      exact ⟨List.cons_ne_nil c rest, digits, value⟩
  · rintro ⟨some_, digits, value⟩
    cases cs with
    | nil => exact absurd rfl some_
    | cons c rest => exact readDigits_eq_some_iff.2 ⟨digits, value⟩

theorem readNat?_toDigits (n : Nat) : readNat? (Nat.toDigits 10 n) = some n :=
  readNat?_eq_some_iff.2 (digits_toDigits n)

theorem readUnsigned?_eq_some_iff {bound : Nat} {cs : List Char} {n : Nat} :
    readUnsigned? bound cs = some n ↔ Unsigned cs n ∧ n < bound := by
  have bounded (o : Option Nat) :
      (do let n ← o; if n < bound then some n else none) = some n ↔ o = some n ∧ n < bound := by
    cases o with
    | none => simp
    | some m =>
      simp only [Option.bind_eq_bind, Option.bind_some, Option.ite_none_right_eq_some, Option.some.injEq]
      constructor
      · rintro ⟨small, rfl⟩
        exact ⟨rfl, small⟩
      · rintro ⟨rfl, small⟩
        exact ⟨small, rfl⟩
  unfold readUnsigned?
  rw [bounded, readNat?_eq_some_iff]
  unfold Unsigned
  split
  · rename_i rest
    have signed : ¬ Digits ('+' :: rest) n := fun written => absurd (written.digits '+' (by simp)) (by decide)
    simp [signed]
  · rename_i plain
    have unsigned : ¬ ∃ digits, cs = '+' :: digits ∧ Digits digits n := fun ⟨_, same, _⟩ => plain _ same
    simp [unsigned]

theorem not_isBlank_of_isDigit {c : Char} (digit : c.isDigit = true) : isBlank c = false := by
  have bounds : 48 ≤ c.toNat ∧ c.toNat ≤ 57 := by
    simpa [Char.isDigit, Char.le_def, UInt32.le_iff_toNat_le] using digit
  simp only [isBlank, Bool.or_eq_false_iff, Bool.and_eq_false_iff, decide_eq_false_iff_not, beq_eq_false_iff_ne]
  omega

end Stowage.Text
