import AudioSync.Basic
import AudioSync.Lib.Truncation
import Mathlib.Data.Rat.Floor
import Mathlib.Tactic.NormNum

/-! The clock offset on its way from libmsntp's client to the player and the sender.
libmsntp's floating-point seconds are taken as exact. -/
namespace AudioSync.Ntp

open MachineInt Truncation

/-- `struct timeval`. -/
structure Timeval where
  sec : Int
  usec : Int
  deriving DecidableEq, Repr

/-- `convert_time`; `none` is a value out of the range of `time_t`. -/
def convertTime (abi : Abi) (value : ℚ) : Option (Int × Int) :=
  (checked abi.bits (truncate value)).map fun (result : Int) =>
    let millisecs := truncate (1000 * (value - result))
    if 1000 ≤ millisecs then (result + 1, 0) else (result, millisecs)

/-- `convert_timeval`, which puts the milliseconds into `tv_usec`. -/
def convertTimeval (abi : Abi) (value : ℚ) : Option Timeval :=
  (convertTime abi value).map fun converted => ⟨converted.1, converted.2⟩

/-- `msntp_get_offset`, given the result of `run_client`. -/
def msntpGetOffset (abi : Abi) : Except Int ℚ → Option (Except Int Timeval)
  | .error err => some (.error err)
  | .ok offset => (convertTimeval abi offset).map .ok

/-- The microseconds of an offset, as `RunNTPClient` computes them. -/
def offsetUSecs (tv : Timeval) : Option Int :=
  (checked 64 (tv.sec * SECOND_MICRO)).bind fun whole => checked 64 (tv.usec + whole)

/-- The static `lastOffsetUs` of `ReceiverSession::RunNTPClient`, and what was given to
`SendClockOffset` and `audioplayer_setSystemTimeOffset`. -/
structure NtpClient where
  lastOffsetUs : Int
  sent : List Int
  applied : List Int
  deriving DecidableEq, Repr

namespace NtpClient

def initial : NtpClient := ⟨0, [], []⟩

/-- The offset is averaged with the one before. -/
def smooth (client : NtpClient) (offset : Int) : Option Int :=
  if client.lastOffsetUs ≠ 0 then
    (checked 64 (offset + client.lastOffsetUs)).map fun sum => sum.tdiv 2
  else some offset

def apply (client : NtpClient) (offset : Int) : NtpClient :=
  ⟨offset, client.sent ++ [offset], client.applied ++ [offset]⟩

/-- One pass of the loop of `RunNTPClient`; `none` is an overflow. -/
def pass (abi : Abi) (client : NtpClient) (measured : Except Int ℚ) : Option NtpClient :=
  (msntpGetOffset abi measured).bind fun
    | .error _ => some client
    | .ok tv => ((offsetUSecs tv).bind client.smooth).map client.apply

end NtpClient

/-- The first measurement is sent and applied to within a millisecond. -/
def Accurate (abi : Abi) (x : ℚ) : Prop :=
  ∃ offset, NtpClient.initial.pass abi (.ok x) = some ⟨offset, [offset], [offset]⟩ ∧
    |offset - x * 1000000| < 1000

/-- The whole seconds of the offset fit in a `time_t`, and in an `int64_t` as
microseconds. -/
def InRange (abi : Abi) (x : ℚ) : Prop :=
  Fits abi.bits (truncate x) ∧ Fits 64 (truncate x * SECOND_MICRO)

section FirstMeasurement

variable {abi : Abi} {x : ℚ}

/-- The milliseconds that are cut from an offset. -/
def millisecs (x : ℚ) : Int := truncate (1000 * (x - truncate x))

theorem abs_millisecs_lt (x : ℚ) : |millisecs x| < 1000 := by
  have hCut := abs_sub_truncate_lt_one x
  have hMillis := abs_truncate_le (1000 * (x - truncate x))
  rw [abs_mul, abs_of_pos (by norm_num : (0 : ℚ) < 1000)] at hMillis
  have hLt : |(millisecs x : ℚ)| < 1000 := by
    unfold millisecs
    linarith
  exact_mod_cast hLt

theorem convertTimeval_of_fits (hFits : Fits abi.bits (truncate x)) :
    convertTimeval abi x = some ⟨truncate x, millisecs x⟩ := by
  have hLt := (abs_lt.mp (abs_millisecs_lt x)).2
  simp only [convertTimeval, convertTime, checked_of_fits hFits, Option.map_some]
  rw [if_neg (by simpa [millisecs] using hLt)]
  rfl

/-- Adding the milliseconds cannot overflow where the product does not. -/
theorem fits_add_millisecs (hProduct : Fits 64 (truncate x * SECOND_MICRO)) :
    Fits 64 (millisecs x + truncate x * SECOND_MICRO) := by
  obtain ⟨hLow, hHigh⟩ := abs_lt.mp (abs_millisecs_lt x)
  unfold Fits SECOND_MICRO at *
  omega

theorem pass_initial (hRange : InRange abi x) :
    NtpClient.initial.pass abi (.ok x) =
      some (NtpClient.initial.apply (millisecs x + truncate x * SECOND_MICRO)) := by
  obtain ⟨hSeconds, hProduct⟩ := hRange
  simp [NtpClient.pass, msntpGetOffset, convertTimeval_of_fits hSeconds, offsetUSecs,
    checked_of_fits hProduct, checked_of_fits (fits_add_millisecs hProduct), NtpClient.smooth,
    NtpClient.initial]

theorem inRange_of_pass {client : NtpClient}
    (hPass : NtpClient.initial.pass abi (.ok x) = some client) : InRange abi x := by
  by_cases hSeconds : Fits abi.bits (truncate x)
  · by_cases hProduct : Fits 64 (truncate x * SECOND_MICRO)
    · exact ⟨hSeconds, hProduct⟩
    · have hNone : checked 64 (truncate x * SECOND_MICRO) = none := if_neg hProduct
      simp [NtpClient.pass, msntpGetOffset, convertTimeval_of_fits hSeconds, offsetUSecs,
        hNone] at hPass
  · have hNone : checked abi.bits (truncate x) = none := if_neg hSeconds
    simp [NtpClient.pass, msntpGetOffset, convertTimeval, convertTime, hNone] at hPass

/-- The microseconds come out as milliseconds, so all but a thousandth of the
fractional part is missing. -/
theorem deviation (x : ℚ) :
    |((millisecs x + truncate x * SECOND_MICRO : Int) : ℚ) - x * 1000000| =
      1000 * |1000 * (x - truncate x)| - ⌊|1000 * (x - truncate x)|⌋ := by
  have hCut := abs_mul_sub_truncate (by norm_num : (1 : ℚ) ≤ 1000) (1000 * (x - truncate x))
  rw [← hCut, ← abs_neg]
  congr 1
  unfold millisecs SECOND_MICRO
  push_cast
  ring

/-- How far a value that is scaled by a thousand and truncated may be from zero. -/
theorem thousandfold_lt {z : ℚ} (hz : 0 ≤ z) : 1000 * z - ⌊z⌋ < 1000 ↔ z < 1001 / 1000 := by
  have hFloor := Int.floor_le z
  constructor
  · intro hLt
    have hTwo : ⌊z⌋ < 2 := Int.floor_lt.mpr (by push_cast; linarith)
    have hOne : (⌊z⌋ : ℚ) ≤ 1 := by exact_mod_cast Int.lt_add_one_iff.mp hTwo
    linarith
  · intro hLt
    rcases lt_or_ge z 1 with hSmall | hLarge
    · have hNonneg : (0 : ℚ) ≤ ⌊z⌋ := by exact_mod_cast Int.floor_nonneg.mpr hz
      linarith
    · have hOne : (1 : ℚ) ≤ ⌊z⌋ := by exact_mod_cast Int.le_floor.mpr (by exact_mod_cast hLarge)
      linarith

/-- The first offset is right to within a millisecond exactly when its fractional
part is less than 1.001 milliseconds. -/
theorem accurate_iff (abi : Abi) (x : ℚ) :
    Accurate abi x ↔ InRange abi x ∧ |x - truncate x| < 1001 / 1000000 := by
  have hScale : |1000 * (x - truncate x)| = 1000 * |x - truncate x| := by
    rw [abs_mul, abs_of_pos (by norm_num)]
  have hError := thousandfold_lt (abs_nonneg (1000 * (x - truncate x)))
  rw [← deviation, hScale] at hError
  constructor
  · rintro ⟨offset, hPass, hClose⟩
    have hRange := inRange_of_pass hPass
    rw [pass_initial hRange] at hPass
    have hOffset : millisecs x + truncate x * SECOND_MICRO = offset :=
      congrArg NtpClient.lastOffsetUs (Option.some.inj hPass)
    rw [← hOffset] at hClose
    exact ⟨hRange, by linarith [hError.mp hClose]⟩
  · rintro ⟨hRange, hSmall⟩
    exact ⟨_, pass_initial hRange, hError.mpr (by linarith)⟩

/-- Half a second is reported as half a millisecond. -/
theorem not_accurate_half_second : ¬ Accurate .lp64 (1 / 2) := by
  rintro ⟨offset, hPass, hClose⟩
  have hPasses : NtpClient.initial.pass .lp64 (.ok (1 / 2)) = some ⟨500, [500], [500]⟩ := by
    decide +kernel
  rw [hPasses] at hPass
  have hOffset : 500 = offset := congrArg NtpClient.lastOffsetUs (Option.some.inj hPass)
  subst hOffset
  norm_num at hClose

end FirstMeasurement

end AudioSync.Ntp
