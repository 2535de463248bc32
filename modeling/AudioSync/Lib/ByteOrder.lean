import Mathlib.Tactic.Ring

/-! Byte strings in either order, and the reversal of a word's bytes. -/
namespace ByteOrder

/-- The low `width` bytes of a number, least significant first. -/
def littleEndian : Nat → Nat → List (BitVec 8)
  | 0, _ => []
  | width + 1, n => BitVec.ofNat 8 n :: littleEndian width (n / 256)

/-- The number a little-endian byte string stands for. -/
def value : List (BitVec 8) → Nat
  | [] => 0
  | byte :: bytes => byte.toNat + 256 * value bytes

@[simp]
theorem littleEndian_length (width n : Nat) : (littleEndian width n).length = width := by
  induction width generalizing n with
  | zero => rfl
  | succ width ih => simp [littleEndian, ih]

theorem value_lt (bytes : List (BitVec 8)) : value bytes < 256 ^ bytes.length := by
  induction bytes with
  | nil => simp [value]
  | cons byte bytes ih =>
      have hByte := byte.isLt
      simp only [value, List.length_cons, pow_succ]
      omega

theorem value_littleEndian (width n : Nat) : value (littleEndian width n) = n % 256 ^ width := by
  induction width generalizing n with
  | zero => simp [littleEndian, value, Nat.mod_one]
  | succ width ih =>
      have hSplit : n % (256 * 256 ^ width) = n % 256 + 256 * (n / 256 % 256 ^ width) :=
        Nat.mod_mul
      have hByte : 2 ^ 8 = 256 := by decide
      rw [littleEndian, value, ih, BitVec.toNat_ofNat, hByte, Nat.pow_succ,
        Nat.mul_comm (256 ^ width), hSplit]

theorem littleEndian_value (bytes : List (BitVec 8)) :
    littleEndian bytes.length (value bytes) = bytes := by
  induction bytes with
  | nil => rfl
  | cons byte bytes ih =>
      have hByte := byte.isLt
      have hDiv : (byte.toNat + 256 * value bytes) / 256 = value bytes := by omega
      have hHead : BitVec.ofNat 8 (byte.toNat + 256 * value bytes) = byte := by
        apply BitVec.eq_of_toNat_eq
        rw [BitVec.toNat_ofNat]
        omega
      simp only [List.length_cons, value, littleEndian, hDiv, hHead, ih]

/-- The low `width` bytes of a number in network order, most significant first. -/
def bigEndian (width n : Nat) : List (BitVec 8) := (littleEndian width n).reverse

/-- The number that bytes in network order stand for. -/
def bigValue (bytes : List (BitVec 8)) : Nat := value bytes.reverse

@[simp]
theorem bigEndian_length (width n : Nat) : (bigEndian width n).length = width := by
  simp [bigEndian]

theorem bigValue_lt (bytes : List (BitVec 8)) : bigValue bytes < 256 ^ bytes.length := by
  simpa [bigValue] using value_lt bytes.reverse

theorem bigValue_bigEndian (width n : Nat) : bigValue (bigEndian width n) = n % 256 ^ width := by
  rw [bigValue, bigEndian, List.reverse_reverse, value_littleEndian]

theorem bigEndian_bigValue (bytes : List (BitVec 8)) :
    bigEndian bytes.length (bigValue bytes) = bytes := by
  have hReverse := littleEndian_value bytes.reverse
  rw [List.length_reverse] at hReverse
  rw [bigEndian, bigValue, hReverse, List.reverse_reverse]

/-- The bytes of a 64 bit word in the memory of a little-endian machine. -/
def wordBytes (word : BitVec 64) : List (BitVec 8) := littleEndian 8 word.toNat

/-- The 64 bit word that eight bytes of memory hold. -/
def bytesWord (bytes : List (BitVec 8)) : BitVec 64 := BitVec.ofNat 64 (value bytes)

/-- The word with its bytes in the reverse order. -/
def swap64 (word : BitVec 64) : BitVec 64 := bytesWord (wordBytes word).reverse

@[simp]
theorem bytesWord_wordBytes (word : BitVec 64) : bytesWord (wordBytes word) = word := by
  apply BitVec.eq_of_toNat_eq
  have hWord := word.isLt
  rw [bytesWord, wordBytes, value_littleEndian, BitVec.toNat_ofNat]
  omega

theorem wordBytes_bytesWord {bytes : List (BitVec 8)} (hLength : bytes.length = 8) :
    wordBytes (bytesWord bytes) = bytes := by
  have hValue := value_lt bytes
  rw [hLength] at hValue
  have hBytes := littleEndian_value bytes
  rw [hLength] at hBytes
  rw [wordBytes, bytesWord, BitVec.toNat_ofNat, Nat.mod_eq_of_lt (by simpa using hValue), hBytes]

/-- Swapping twice gives the word back. -/
@[simp]
theorem swap64_swap64 (word : BitVec 64) : swap64 (swap64 word) = word := by
  have hLength : (wordBytes word).reverse.length = 8 := by simp [wordBytes]
  rw [swap64, swap64, wordBytes_bytesWord hLength, List.reverse_reverse, bytesWord_wordBytes]

end ByteOrder
