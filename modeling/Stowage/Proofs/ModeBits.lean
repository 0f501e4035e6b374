import Stowage.Proofs.BannedIdentities

/-! Mode words bit by bit. The owner, the group class and everyone else have three bits each, and what a
list says of one of them neither shows in the bits of the others nor in those of the type. -/
namespace Stowage

namespace Mode

/-- Whether the bit with this number is set. -/
def bit (mode : Mode) (i : Nat) : Bool :=
  mode.toBitVec.getLsbD i

theorem eq_of_bits {mode other : Mode} (same : ∀ i, i < 32 → mode.bit i = other.bit i) : mode = other :=
  UInt32.toBitVec_inj.1 (BitVec.eq_of_getLsbD_eq same)

section Bits

variable (mode other : Mode) (i : Nat)

@[simp] theorem bit_and : (mode &&& other).bit i = (mode.bit i && other.bit i) := by
  simp [bit]

@[simp] theorem bit_or : (mode ||| other).bit i = (mode.bit i || other.bit i) := by
  simp [bit]

theorem bit_not (low : i < 32) : (~~~mode).bit i = !mode.bit i := by
  simp [bit, low]

variable {mode} (shift : Mode)

theorem bit_shiftRight (fits : shift.toNat < 32) : (mode >>> shift).bit i = mode.bit (shift.toNat + i) := by
  have amount : (shift.toBitVec % 32).toNat = shift.toNat := by
    rw [BitVec.toNat_umod]
    exact Nat.mod_eq_of_lt fits
  rw [bit, UInt32.toBitVec_shiftRight, BitVec.ushiftRight_eq', BitVec.getLsbD_ushiftRight, amount, bit]

theorem bit_shiftLeft (fits : shift.toNat < 32) (low : i < 32) :
    (mode <<< shift).bit i = (decide (shift.toNat ≤ i) && mode.bit (i - shift.toNat)) := by
  have amount : (shift.toBitVec % 32).toNat = shift.toNat := by
    rw [BitVec.toNat_umod]
    exact Nat.mod_eq_of_lt fits
  rw [bit, UInt32.toBitVec_shiftLeft, BitVec.shiftLeft_eq', BitVec.getLsbD_shiftLeft, amount,
    decide_eq_true low, Bool.true_and, ← decide_not, bit]
  simp only [Nat.not_lt]

end Bits

/-- A word of the lowest bits, so many of them, all set. -/
theorem bit_ones (mode : Mode) (width : Nat) (ones : mode.toNat = 1 <<< width - 1) (i : Nat) :
    mode.bit i = decide (i < width) := by
  rw [bit, ← BitVec.testBit_toNat, UInt32.toNat_toBitVec, ones, Nat.one_shiftLeft,
    Nat.testBit_two_pow_sub_one]

theorem bit_seven (i : Nat) : (7 : Mode).bit i = decide (i < 3) :=
  bit_ones 7 3 rfl i

theorem bit_accessMask (i : Nat) : accessMask.bit i = decide (i < 9) :=
  bit_ones accessMask 9 rfl i

/-- The word has no bits but the lowest three. -/
def Triple (bits : Mode) : Prop :=
  bits &&& 7 = bits

theorem Triple.bit_eq {bits : Mode} (triple : bits.Triple) {i : Nat} (high : 3 ≤ i) :
    bits.bit i = false := by
  rw [← triple, bit_and, bit_seven]
  simp [Nat.not_lt_of_le high]

/-- Three bits are the same if each of them is. -/
theorem Triple.ext {bits other : Mode} (triple : bits.Triple) (again : other.Triple)
    (same : ∀ i, i < 3 → bits.bit i = other.bit i) : bits = other := by
  apply eq_of_bits
  intro i _
  by_cases low : i < 3
  · exact same i low
  · rw [triple.bit_eq (Nat.le_of_not_lt low), again.bit_eq (Nat.le_of_not_lt low)]

theorem triple_iff_le {bits : Mode} : bits.Triple ↔ bits ≤ 7 := by
  have cut : bits.toNat &&& 7 = bits.toNat % 8 := Nat.and_two_pow_sub_one_eq_mod _ 3
  rw [Triple, ← UInt32.toNat_inj, UInt32.toNat_and, UInt32.le_iff_toNat_le]
  change bits.toNat &&& 7 = bits.toNat ↔ bits.toNat ≤ 7
  rw [cut]
  omega

theorem triple_of_le {perm : UInt8} (small : perm ≤ 7) : Triple perm.toUInt32 :=
  triple_iff_le.2 (UInt32.le_iff_toNat_le.2 (UInt8.le_iff_toNat_le.1 small))

theorem Triple.and_left {bits : Mode} (triple : bits.Triple) (first : Mode) : (first &&& bits).Triple := by
  unfold Triple
  rw [UInt32.and_assoc, triple]

theorem Triple.toNat_lt {bits : Mode} (triple : bits.Triple) : bits.toNat < 8 :=
  Nat.lt_succ_of_le (UInt32.le_iff_toNat_le.1 (triple_iff_le.1 triple))

/-- Three bits fit into a permission of a list. -/
theorem Triple.toUInt8_le {bits : Mode} (triple : bits.Triple) : bits.toUInt8 ≤ 7 := by
  have small := triple.toNat_lt
  rw [UInt8.le_iff_toNat_le, UInt32.toNat_toUInt8]
  exact Nat.le_of_lt_succ (Nat.lt_of_le_of_lt (Nat.mod_le _ _) small)

/-- Three bits come back from a permission of a list. -/
theorem Triple.toUInt32_toUInt8 {bits : Mode} (triple : bits.Triple) : bits.toUInt8.toUInt32 = bits := by
  have small := triple.toNat_lt
  apply UInt32.toNat_inj.1
  rw [UInt8.toNat_toUInt32, UInt32.toNat_toUInt8]
  exact Nat.mod_eq_of_lt (by omega)

/-- The three bits from the given one on. -/
def bitsAt (mode : Mode) (shift : Mode) : Mode :=
  (mode >>> shift) &&& 7

section Classes

variable {mode : Mode} {shift : Mode}

theorem bit_bitsAt (fits : shift.toNat ≤ 6) {i : Nat} (low : i < 3) :
    (mode.bitsAt shift).bit i = mode.bit (shift.toNat + i) := by
  rw [bitsAt, bit_and, bit_shiftRight _ shift (by omega), bit_seven, decide_eq_true low, Bool.and_true]

theorem triple_bitsAt (mode shift : Mode) : (mode.bitsAt shift).Triple := by
  unfold Triple bitsAt
  rw [UInt32.and_assoc, UInt32.and_self]

theorem bitsAt_zero (mode : Mode) : mode.bitsAt 0 = mode.otherBits := by
  unfold bitsAt otherBits
  rw [UInt32.shiftRight_zero]

theorem triple_otherBits (mode : Mode) : mode.otherBits.Triple :=
  bitsAt_zero mode ▸ triple_bitsAt mode 0

/-- The nine permission bits are those of the three classes. -/
theorem bitsAt_eq_of_bits {other : Mode} (fits : shift.toNat ≤ 6)
    (same : ∀ i, i < 9 → mode.bit i = other.bit i) : mode.bitsAt shift = other.bitsAt shift := by
  refine (triple_bitsAt _ _).ext (triple_bitsAt _ _) fun i low => ?_
  rw [bit_bitsAt fits low, bit_bitsAt fits low, same _ (by omega)]

theorem bit_eq_of_bitsAt {other : Mode} {i : Nat} (same : mode.bitsAt shift = other.bitsAt shift)
    (fits : shift.toNat ≤ 6) (above : shift.toNat ≤ i) (low : i < shift.toNat + 3) :
    mode.bit i = other.bit i := by
  have place : shift.toNat + (i - shift.toNat) = i := Nat.add_sub_cancel' above
  rw [← place, ← bit_bitsAt fits (by omega), ← bit_bitsAt fits (by omega), same]

/-- Words that show the same of each class have the same nine permission bits. -/
theorem bit_eq_of_classes {other : Mode} (owner : mode.bitsAt 6 = other.bitsAt 6)
    (group : mode.bitsAt 3 = other.bitsAt 3) (others : mode.bitsAt 0 = other.bitsAt 0) {i : Nat}
    (low : i < 9) : mode.bit i = other.bit i := by
  rcases Nat.lt_or_ge i 3 with here | above
  · exact bit_eq_of_bitsAt others (by decide) (Nat.zero_le i) here
  · rcases Nat.lt_or_ge i 6 with here | above'
    · exact bit_eq_of_bitsAt group (by decide) above here
    · exact bit_eq_of_bitsAt owner (by decide) above' low

theorem access_eq_of_classes {other : Mode} (owner : mode.bitsAt 6 = other.bitsAt 6)
    (group : mode.bitsAt 3 = other.bitsAt 3) (others : mode.bitsAt 0 = other.bitsAt 0) :
    mode &&& accessMask = other &&& accessMask := by
  refine eq_of_bits fun i _ => ?_
  rw [bit_and, bit_and, bit_accessMask]
  by_cases low : i < 9
  · rw [bit_eq_of_classes owner group others low]
  · rw [decide_eq_false low, Bool.and_false, Bool.and_false]

theorem bitsAt_perm (mode : Mode) (fits : shift.toNat ≤ 6) : mode.perm.bitsAt shift = mode.bitsAt shift := by
  refine bitsAt_eq_of_bits fits fun i low => ?_
  rw [perm, bit_and, bit_ones permMask 12 rfl]
  simp [show i < 12 by omega]

/-- A word whose permission bits are replaced shows the new ones. -/
theorem bitsAt_replaced (mode bits : Mode) (fits : shift.toNat ≤ 6) :
    ((mode &&& typeMask) ||| bits.perm).bitsAt shift = bits.bitsAt shift := by
  rw [← bitsAt_perm _ fits, perm_replaced, bitsAt_perm _ fits]

/-- The set-group-id bit is none of the nine. -/
theorem bitsAt_setGroupId (mode : Mode) (fits : shift.toNat ≤ 6) :
    (mode ||| setGroupId).bitsAt shift = mode.bitsAt shift ∧
      (mode &&& ~~~setGroupId).bitsAt shift = mode.bitsAt shift := by
  have clear : ∀ i, i < 9 → setGroupId.bit i = false := by decide
  constructor
  · refine bitsAt_eq_of_bits fits fun i low => ?_
    rw [bit_or, clear i low, Bool.or_false]
  · refine bitsAt_eq_of_bits fits fun i low => ?_
    rw [bit_and, bit_not _ _ (by omega), clear i low, Bool.not_false, Bool.and_true]

end Classes

section Shown

variable (mode : Mode) {owner group other : Mode}

/-- The word with these bits in place of its nine permission bits. -/
def withClasses (mode owner group other : Mode) : Mode :=
  (mode &&& ~~~accessMask) ||| (owner <<< 6) ||| (group <<< 3) ||| other

theorem bit_withClasses {i : Nat} (low : i < 32) : (mode.withClasses owner group other).bit i =
    (mode.bit i && decide (9 ≤ i) || decide (6 ≤ i) && owner.bit (i - 6) ||
      decide (3 ≤ i) && group.bit (i - 3) || other.bit i) := by
  rw [withClasses, bit_or, bit_or, bit_or, bit_and, bit_not _ _ low, bit_accessMask,
    bit_shiftLeft _ 6 (by decide) low, bit_shiftLeft _ 3 (by decide) low,
    ← decide_not]
  simp only [Nat.not_lt]
  rfl

variable (isOwner : owner.Triple) (isGroup : group.Triple) (isOther : other.Triple)
include isOwner isGroup isOther

/-- Each class shows the bits that it is given. -/
theorem bitsAt_withClasses : (mode.withClasses owner group other).bitsAt 6 = owner ∧
    (mode.withClasses owner group other).bitsAt 3 = group ∧
    (mode.withClasses owner group other).bitsAt 0 = other := by
  refine ⟨(triple_bitsAt _ _).ext isOwner fun i low => ?_,
    (triple_bitsAt _ _).ext isGroup fun i low => ?_, (triple_bitsAt _ _).ext isOther fun i low => ?_⟩
  · have place : (6 : Mode).toNat = 6 := rfl
    rw [bit_bitsAt (by decide) low, place, bit_withClasses _ (by omega),
      isGroup.bit_eq (show 3 ≤ 6 + i - 3 by omega), isOther.bit_eq (show 3 ≤ 6 + i by omega)]
    simp [show ¬ 9 ≤ 6 + i by omega]
  · have place : (3 : Mode).toNat = 3 := rfl
    rw [bit_bitsAt (by decide) low, place, bit_withClasses _ (by omega),
      isOther.bit_eq (show 3 ≤ 3 + i by omega)]
    simp [show ¬ 9 ≤ 3 + i by omega, show ¬ 6 ≤ 3 + i by omega]
  · have place : (0 : Mode).toNat = 0 := rfl
    rw [bit_bitsAt (by decide) low, place, bit_withClasses _ (by omega)]
    simp [show ¬ 9 ≤ i by omega, show ¬ 6 ≤ i by omega, show ¬ 3 ≤ i by omega]

/-- All but the permission bits stay. -/
theorem bit_withClasses_of_le {i : Nat} (beyond : 9 ≤ i) (low : i < 32) :
    (mode.withClasses owner group other).bit i = mode.bit i := by
  rw [bit_withClasses _ low, isOwner.bit_eq (show 3 ≤ i - 6 by omega),
    isGroup.bit_eq (show 3 ≤ i - 3 by omega), isOther.bit_eq (show 3 ≤ i by omega)]
  simp [beyond]

/-- A word has its own permission bits, and no others. -/
theorem withClasses_eq_iff : mode.withClasses owner group other = mode ↔
    owner = mode.ownerBits ∧ group = mode.groupBits ∧ other = mode.otherBits := by
  obtain ⟨shownOwner, shownGroup, shownOther⟩ := mode.bitsAt_withClasses isOwner isGroup isOther
  constructor
  · intro same
    rw [same] at shownOwner shownGroup shownOther
    exact ⟨shownOwner.symm, shownGroup.symm, shownOther.symm.trans (bitsAt_zero mode)⟩
  · rintro ⟨rfl, rfl, rfl⟩
    apply eq_of_bits
    intro i low
    rcases Nat.lt_or_ge i 9 with access | beyond
    · exact bit_eq_of_classes shownOwner shownGroup (shownOther.trans (bitsAt_zero mode).symm) access
    · exact bit_withClasses_of_le mode isOwner isGroup isOther beyond low

end Shown

end Mode
end Stowage
