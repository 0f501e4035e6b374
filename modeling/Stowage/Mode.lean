/-!
Mode words: the type of an entry, its special bits and nine permission bits, as POSIX lays them
out. A requested access is a word of three bits, read, write and search.
-/
namespace Stowage

/-- A mode word. -/
abbrev Mode := UInt32

namespace Mode

/-- The bits that hold the type of an entry. -/
def typeMask : Mode := 0o170000
def directory : Mode := 0o040000
def regular : Mode := 0o100000
def setGroupId : Mode := 0o002000
def sticky : Mode := 0o001000
/-- Permission bits and special bits, without the type. -/
def permMask : Mode := 0o7777

def isDirectory (mode : Mode) : Bool :=
  mode &&& typeMask == directory

def isRegular (mode : Mode) : Bool :=
  mode &&& typeMask == regular

def perm (mode : Mode) : Mode :=
  mode &&& permMask

/-- The nine permission bits. -/
def accessMask : Mode := 0o777

/-- Whether the set-group-id bit is set. -/
def hasSetGroupId (mode : Mode) : Bool :=
  mode &&& setGroupId != 0

/-- Whether the sticky bit is set. -/
def isSticky (mode : Mode) : Bool :=
  mode &&& sticky != 0

/-- The permission bits of the owner. -/
def ownerBits (mode : Mode) : Mode :=
  (mode >>> 6) &&& 7

/-- The permission bits of the group class. -/
def groupBits (mode : Mode) : Mode :=
  (mode >>> 3) &&& 7

/-- The permission bits of all others. -/
def otherBits (mode : Mode) : Mode :=
  mode &&& 7

def read : Mode := 4
def write : Mode := 2
def search : Mode := 1

/-- Bits outside the type say nothing about the type. -/
theorem type_or {mode bits : Mode} (plain : bits &&& typeMask = 0) :
    (mode ||| bits) &&& typeMask = mode &&& typeMask := by
  have none_ : bits.toNat &&& typeMask.toNat = 0 := by
    rw [← UInt32.toNat_and, plain]
    rfl
  apply UInt32.toNat_inj.1
  rw [UInt32.toNat_and, UInt32.toNat_or, Nat.and_or_distrib_right, none_, Nat.or_zero,
    UInt32.toNat_and]

/-- Part of a word without type bits has no type bits. -/
theorem plain_and {create : Mode} (plain : create &&& typeMask = 0) (bits : Mode) :
    (create &&& bits) &&& typeMask = 0 := by
  rw [UInt32.and_assoc, UInt32.and_comm bits, ← UInt32.and_assoc, plain, UInt32.zero_and]

/-- Permission bits say nothing about the type. -/
theorem type_perm (mode : Mode) : mode.perm &&& typeMask = 0 := by
  have apart : permMask &&& typeMask = 0 := by decide
  unfold perm
  rw [UInt32.and_assoc, apart, UInt32.and_zero]

/-- A word whose permission bits are replaced is of the type that it was of. -/
theorem isDirectory_replaced (mode bits : Mode) :
    isDirectory ((mode &&& typeMask) ||| bits.perm) = isDirectory mode := by
  unfold isDirectory
  rw [type_or (type_perm bits), UInt32.and_assoc, UInt32.and_self]

end Mode
end Stowage
