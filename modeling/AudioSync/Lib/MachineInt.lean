import Mathlib.Data.Int.ModEq
import Mathlib.Tactic.Positivity
import Mathlib.Tactic.Ring

/-! Fixed-width integers as C converts them: an unsigned type of `bits` bits
keeps the residue, a signed one the residue of least absolute value. -/
namespace MachineInt

/-- Conversion to an unsigned type of the given width. -/
def toUnsigned (bits : Nat) (x : Int) : Nat := (x % 2 ^ bits).toNat

/-- Conversion to a signed (two's complement) type of the given width. -/
def toSigned (bits : Nat) (x : Int) : Int := x.bmod (2 ^ bits)

/-- A result of signed arithmetic; overflow is undefined. -/
def checked (bits : Nat) (x : Int) : Option Int :=
  if -2 ^ (bits - 1) ≤ x ∧ x < 2 ^ (bits - 1) then some x else none

/-- The value can be represented. -/
def Fits (bits : Nat) (x : Int) : Prop := -2 ^ (bits - 1) ≤ x ∧ x < 2 ^ (bits - 1)

instance (bits : Nat) (x : Int) : Decidable (Fits bits x) :=
  inferInstanceAs (Decidable (_ ∧ _))

theorem checked_of_fits {bits : Nat} {x : Int} (h : Fits bits x) : checked bits x = some x :=
  if_pos h

/-- What overflows without being negative is large. -/
theorem le_of_not_fits {bits : Nat} {x : Int} (hNonneg : 0 ≤ x) (h : ¬ Fits bits x) :
    2 ^ (bits - 1) ≤ x := by
  have hPos : (0 : Int) < 2 ^ (bits - 1) := Int.pow_pos (by decide)
  by_contra hLess
  exact h ⟨by omega, by omega⟩

theorem lt_of_not_fits {bits : Nat} {x : Int} (hNonpos : x ≤ 0) (h : ¬ Fits bits x) :
    x < -2 ^ (bits - 1) := by
  have hPos : (0 : Int) < 2 ^ (bits - 1) := Int.pow_pos (by decide)
  by_contra hLess
  exact h ⟨by omega, by omega⟩

theorem toUnsigned_lt (bits : Nat) (x : Int) : toUnsigned bits x < 2 ^ bits := by
  have hPos : (0 : Int) < 2 ^ bits := Int.pow_pos (by decide)
  have hLt := Int.emod_lt_of_pos x hPos
  have hNonneg := Int.emod_nonneg x hPos.ne'
  unfold toUnsigned
  have hCast : ((2 ^ bits : Nat) : Int) = 2 ^ bits := by push_cast; rfl
  omega

/-- Values in range are unchanged. -/
theorem toUnsigned_of_lt {bits n : Nat} (h : n < 2 ^ bits) : toUnsigned bits n = n := by
  have hMod : ((n : Int) % 2 ^ bits) = n :=
    Int.emod_eq_of_lt (by omega) (by exact_mod_cast h)
  simp [toUnsigned, hMod]

/-- On natural numbers the conversion is reduction modulo the width. -/
theorem toUnsigned_natCast (bits n : Nat) : toUnsigned bits n = n % 2 ^ bits := by
  unfold toUnsigned
  rw [show ((2 : Int) ^ bits) = ((2 ^ bits : Nat) : Int) by push_cast; rfl, ← Int.natCast_mod]
  exact Int.toNat_natCast _

/-- Exactly the values in range are unchanged. -/
theorem toSigned_eq_self {bits : Nat} {x : Int} (hBits : 0 < bits) :
    toSigned bits x = x ↔ Fits bits x := by
  obtain ⟨width, rfl⟩ : ∃ width, bits = width + 1 := ⟨bits - 1, by omega⟩
  have hHalf : ((2 ^ (width + 1) : Nat) : Int) = 2 * 2 ^ width := by
    push_cast
    ring
  have hPos : (0 : Int) < 2 ^ width := Int.pow_pos (by decide)
  unfold toSigned Fits
  rw [Nat.add_sub_cancel]
  constructor
  · intro hSame
    have hLow := Int.le_bmod (x := x) (m := 2 ^ (width + 1)) (by positivity)
    have hHigh := Int.bmod_lt (x := x) (m := 2 ^ (width + 1)) (by positivity)
    rw [hSame, hHalf] at hLow hHigh
    omega
  · intro hFits
    apply Int.bmod_eq_of_le <;> rw [hHalf] <;> omega

/-- Values that are less than the modulus apart keep their difference. -/
theorem toSigned_inj {bits : Nat} {x y : Int} (hClose : |x - y| < 2 ^ bits) :
    toSigned bits x = toSigned bits y ↔ x = y := by
  constructor
  · intro hEq
    have hMod : x % (2 ^ bits : Nat) = y % (2 ^ bits : Nat) := by
      rw [← Int.bmod_emod (x := x), ← Int.bmod_emod (x := y)]
      exact congrArg (· % _) hEq
    have hDvd : ((2 ^ bits : Nat) : Int) ∣ x - y :=
      Int.dvd_of_emod_eq_zero (Int.emod_eq_emod_iff_emod_sub_eq_zero.mp hMod)
    have hZero := Int.eq_zero_of_abs_lt_dvd hDvd (by exact_mod_cast hClose)
    omega
  · exact congrArg _

end MachineInt
