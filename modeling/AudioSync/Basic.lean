import AudioSync.Lib.MachineInt

namespace AudioSync

abbrev Byte := BitVec 8

/-- Native memory seen from an address: the bytes that lie there and after it. -/
abbrev Pointer := Nat → Byte

namespace Pointer

/-- The `count` bytes from the address on. -/
def bytes (p : Pointer) (count : Nat) : List Byte := (List.range count).map p

/-- Pointer arithmetic on `uint8_t *`. -/
def add (p : Pointer) (offset : Nat) : Pointer := fun i => p (offset + i)

/-- The memory at `p` after `memcpy(p, source, count)`. -/
def memcpy (p source : Pointer) (count : Nat) : Pointer :=
  fun i => if i < count then source i else p i

@[simp]
theorem bytes_length (p : Pointer) (count : Nat) : (p.bytes count).length = count := by
  simp [bytes]

@[simp]
theorem bytes_getElem (p : Pointer) {count i : Nat} (h : i < (p.bytes count).length) :
    (p.bytes count)[i] = p i := by
  simp [bytes]

/-- The bytes behind a copied block are not touched by the copy. -/
@[simp]
theorem add_memcpy (p source : Pointer) (count : Nat) :
    (p.memcpy source count).add count = p.add count := by
  funext i
  simp [add, memcpy]

end Pointer

/-- One second in the microseconds all media and clock times are counted in. -/
def SECOND_MICRO : Int := 1000000

/-- The two data models the native library is built for. -/
inductive Abi where
  | ilp32
  | lp64
  deriving DecidableEq, Repr

namespace Abi

/-- The width of `size_t` and of `ssize_t`. -/
def bits : Abi → Nat
  | ilp32 => 32
  | lp64 => 64

/-- Conversion of a value to `size_t`. -/
def size (abi : Abi) (x : Int) : Nat := MachineInt.toUnsigned abi.bits x

theorem bits_ge (abi : Abi) : 32 ≤ abi.bits := by
  cases abi <;> decide

/-- All that fits 32 bits fits a `size_t`. -/
theorem two_pow_bits_ge (abi : Abi) : 2 ^ 32 ≤ 2 ^ abi.bits :=
  Nat.pow_le_pow_right (by decide) abi.bits_ge

theorem size_of_lt {abi : Abi} {n : Nat} (h : n < 2 ^ abi.bits) : abi.size n = n :=
  MachineInt.toUnsigned_of_lt h

theorem size_natCast (abi : Abi) (n : Nat) : abi.size n = n % 2 ^ abi.bits :=
  MachineInt.toUnsigned_natCast _ _

/-- A sum of two counts, as a `size_t`. -/
theorem size_add (abi : Abi) (m n : Nat) : abi.size ((m : Int) + n) = (m + n) % 2 ^ abi.bits := by
  rw [← Nat.cast_add, size_natCast]

/-- A product of two counts, as a `size_t`. -/
theorem size_mul (abi : Abi) (m n : Nat) : abi.size ((m : Int) * n) = m * n % 2 ^ abi.bits := by
  rw [← Nat.cast_mul, size_natCast]

theorem size_le (abi : Abi) (n : Nat) : abi.size n ≤ n := by
  rw [size_natCast]
  exact Nat.mod_le _ _

theorem size_lt (abi : Abi) (x : Int) : abi.size x < 2 ^ abi.bits :=
  MachineInt.toUnsigned_lt _ _

end Abi

/-- Conversion of a value to `int64_t`. -/
def int64 (x : Int) : Int := MachineInt.toSigned 64 x

/-- Exceptions that the Java code throws and does not catch. -/
inductive JavaException where
  | nullPointer
  | indexOutOfBounds
  deriving DecidableEq, Repr

end AudioSync
