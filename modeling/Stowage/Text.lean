/-!
Reading text: blanks, splitting, decimal numbers. Every reader works on the list of characters;
the versions on `String` wrap it. Main statements: a cut is made at the first separator, and no part
of a split holds the separator. Blanks are the characters of Unicode's `White_Space` property.
-/
namespace Stowage.Text

/-- Unicode's `White_Space` property. -/
def isBlank (c : Char) : Bool :=
  let n := c.toNat
  (9 ≤ n && n ≤ 13) || n == 0x20 || n == 0x85 || n == 0xA0 || n == 0x1680 ||
    (0x2000 ≤ n && n ≤ 0x200A) || n == 0x2028 || n == 0x2029 || n == 0x202F ||
    n == 0x205F || n == 0x3000

/-- Every blank that the core library knows is one. -/
theorem isBlank_of_isWhitespace {c : Char} (h : c.isWhitespace = true) : isBlank c = true := by
  simp only [Char.isWhitespace, Bool.or_eq_true, decide_eq_true_eq] at h
  rcases h with ((rfl | rfl) | rfl) | rfl <;> decide

def trimStart (cs : List Char) : List Char :=
  cs.dropWhile isBlank

def trimEnd (cs : List Char) : List Char :=
  (cs.reverse.dropWhile isBlank).reverse

def trimChars (cs : List Char) : List Char :=
  trimEnd (trimStart cs)

/-- The text without the blanks at its ends. -/
def trim (s : String) : String :=
  String.ofList (trimChars s.toList)

/-- Letters `A` to `Z` in lower case; all other characters stay. -/
def lower (s : String) : String :=
  String.ofList (s.toList.map Char.toLower)

/-- The parts before and after the first character that `p` accepts. -/
def splitFirst (p : Char → Bool) : List Char → Option (List Char × List Char)
  | [] => none
  | c :: rest =>
    if p c then some ([], rest)
    else (splitFirst p rest).map fun (before, after) => (c :: before, after)

/-- The parts before and after the first `sep`. -/
def cut (sep : Char) (s : String) : Option (String × String) :=
  (splitFirst (· == sep) s.toList).map fun (before, after) =>
    (String.ofList before, String.ofList after)

/-- A text is cut where the separator first stands. -/
theorem cut_append {sep : Char} {before after : String} (clean : sep ∉ before.toList) :
    cut sep (before ++ String.singleton sep ++ after) = some (before, after) := by
  have split : ∀ front : List Char, sep ∉ front →
      splitFirst (· == sep) (front ++ sep :: after.toList) = some (front, after.toList) := by
    intro front
    induction front with
    | nil => simp [splitFirst]
    | cons c rest ih =>
      intro clean
      obtain ⟨other, later⟩ := not_or.1 (mt List.mem_cons.2 clean)
      simp [splitFirst, Ne.symm other, ih later]
  simp [cut, split _ clean]

/-- The parts between the occurrences of `sep`, the empty ones included. -/
def parts (sep : Char) (s : String) : List String :=
  (s.toList.splitOn sep).map String.ofList

theorem not_mem_of_mem_splitOn {sep : Char} {cs part : List Char} (member : part ∈ cs.splitOn sep) :
    sep ∉ part := by
  induction cs generalizing part with
  | nil =>
    rw [List.splitOn_nil, List.mem_singleton] at member
    simp [member]
  | cons c rest ih =>
    rw [List.splitOn_cons_eq_if_modifyHead] at member
    split at member
    · rcases List.mem_cons.1 member with rfl | member
      · exact List.not_mem_nil
      · exact ih member
    · rename_i other
      cases pieces : rest.splitOn sep with
      | nil => exact absurd pieces (List.splitOn_ne_nil sep rest)
      | cons first others =>
        rw [pieces, List.modifyHead_cons] at member
        rcases List.mem_cons.1 member with rfl | member
        · intro inside
          rcases List.mem_cons.1 inside with rfl | inside
          · simp at other
          · exact ih (pieces ▸ List.mem_cons_self) inside
        · exact ih (pieces ▸ List.mem_cons_of_mem _ member)

theorem not_mem_of_mem_parts {sep : Char} {s part : String} (member : part ∈ parts sep s) :
    sep ∉ part.toList := by
  obtain ⟨cs, inside, rfl⟩ := List.mem_map.1 member
  rw [String.toList_ofList]
  exact not_mem_of_mem_splitOn inside

/-- The maximal runs of characters that are not blank. -/
def words (s : String) : List String :=
  ((s.toList.splitOnP isBlank).filter (· ≠ [])).map String.ofList

/-- A line ends at a line feed, which may follow one carriage return; what stands after the last
line feed is a line only if it is not empty. -/
def lines (s : String) : List String :=
  let pieces := s.toList.splitOn '\n'
  let ended := pieces.dropLast.map fun line =>
    match line.reverse with
    | '\r' :: rest => rest.reverse
    | _ => line
  let rest := pieces.getLastD []
  (if rest = [] then ended else ended ++ [rest]).map String.ofList

/-- The value of a decimal digit. -/
def digit? (c : Char) : Option Nat :=
  if '0' ≤ c ∧ c ≤ '9' then some (c.toNat - '0'.toNat) else none

/-- The number that a row of decimal digits continues, `acc` being the part already read. -/
def readDigits (acc : Nat) : List Char → Option Nat
  | [] => some acc
  | c :: rest => do readDigits (acc * 10 + (← digit? c)) rest

/-- One or more decimal digits and nothing else. -/
def readNat? : List Char → Option Nat
  | [] => none
  | cs => readDigits 0 cs

/-- A decimal number below `bound`; a plus sign may stand in front. -/
def readUnsigned? (bound : Nat) (cs : List Char) : Option Nat := do
  let n ← readNat? (match cs with
    | '+' :: rest => rest
    | _ => cs)
  if n < bound then some n else none

def readU32? (s : String) : Option UInt32 :=
  (readUnsigned? UInt32.size s.toList).map UInt32.ofNat

def readU64? (s : String) : Option Nat :=
  readUnsigned? UInt64.size s.toList

/-- A decimal number in the range of 64-bit signed words; a sign may stand in front. -/
def readI64? (s : String) : Option Int := do
  let n ← match s.toList with
    | '-' :: rest => (readNat? rest).map fun n => -(n : Int)
    | '+' :: rest => (readNat? rest).map Int.ofNat
    | cs => (readNat? cs).map Int.ofNat
  if -0x8000000000000000 ≤ n ∧ n < 0x8000000000000000 then some n else none

/-- Decimal digits, with a minus sign where there is need of one. -/
def ofInt : Int → String
  | .ofNat n => String.ofList (Nat.toDigits 10 n)
  | .negSucc n => String.ofList ('-' :: Nat.toDigits 10 (n + 1))

end Stowage.Text
