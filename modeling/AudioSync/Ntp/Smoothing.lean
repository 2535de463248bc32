import AudioSync.Lib.Transition
import AudioSync.Ntp.Offset

/-! The smoothed clock offsets of the receiver sessions of one process. The offset before is
kept in a static variable, which no session sets back. -/
namespace AudioSync.Ntp

open MachineInt Transition

/-- A measured offset: a time that can be counted in microseconds. -/
structure Measurement where
  tv : Timeval
  offset : Int
  isOffset : offsetUSecs tv = some offset

namespace NtpClient

/-- A pass of the loop with the result of `msntp_get_offset`. -/
def receive (client : NtpClient) : Except Int Timeval → Option NtpClient
  | .error _ => some client
  | .ok tv => ((offsetUSecs tv).bind client.smooth).map client.apply

theorem pass_eq_receive (abi : Abi) (client : NtpClient) (measured : Except Int ℚ) :
    client.pass abi measured = (msntpGetOffset abi measured).bind client.receive := by
  rw [pass]
  congr

/-- `RunNTPClient` in a new session: nothing has been sent or applied. -/
def restart (client : NtpClient) : NtpClient := ⟨client.lastOffsetUs, [], []⟩

end NtpClient

/-- What happens to the NTP clients of one process. -/
inductive ClientEvent where
  | startReceiving
  | measured (result : Except Int Measurement)

/-- The client of the current session, and the offsets that were measured in it. -/
structure ClientProcess where
  client : NtpClient
  measured : List Int

namespace ClientProcess

def boot : ClientProcess := ⟨NtpClient.initial, []⟩

/-- `none` is an overflow. -/
def step (process : ClientProcess) : ClientEvent → Option ClientProcess
  | .startReceiving => some ⟨process.client.restart, []⟩
  | .measured (.error err) =>
      (process.client.receive (.error err)).map fun client => ⟨client, process.measured⟩
  | .measured (.ok measurement) => (process.client.receive (.ok measurement.tv)).map fun client =>
      ⟨client, process.measured ++ [measurement.offset]⟩

/-- The offset that was applied last lies between two offsets that were measured in the session
so far. -/
def Bounded (process : ClientProcess) : Prop :=
  ∀ applied ∈ process.client.applied.getLast?,
    (∃ low ∈ process.measured, low ≤ applied) ∧ ∃ high ∈ process.measured, applied ≤ high

/-- Half of the sum is the second offset. -/
def HalvesTo (lastOffsetUs offset : Int) : Prop :=
  lastOffsetUs = offset ∨ 0 ≤ offset ∧ lastOffsetUs = offset + 1 ∨
    offset ≤ 0 ∧ lastOffsetUs = offset - 1

/-- The first measurement of a session finds no offset of an earlier one, or the same up to what
the division cuts off; and no sum overflows. -/
def Carries (process : ClientProcess) : ClientEvent → Prop
  | .measured (.ok measurement) => process.client.lastOffsetUs ≠ 0 →
      Fits 64 (measurement.offset + process.client.lastOffsetUs) ∧
        (process.measured = [] → HalvesTo process.client.lastOffsetUs measurement.offset)
  | _ => True

/-- What is applied in a session belongs to its measurements. -/
structure Logged (process : ClientProcess) : Prop where
  length : process.client.applied.length = process.measured.length
  last : process.measured ≠ [] → process.client.applied.getLast? = some process.client.lastOffsetUs

section Smoothing

variable {process next : ClientProcess} {measurement : Measurement}

/-- A measurement, if the sum does not overflow. -/
theorem step_measured (process : ClientProcess) (measurement : Measurement) :
    process.step (.measured (.ok measurement)) = (process.client.smooth measurement.offset).map
      fun applied => ⟨process.client.apply applied, process.measured ++ [measurement.offset]⟩ := by
  rw [step, NtpClient.receive, measurement.isOffset, Option.bind_some, Option.map_map]
  rfl

theorem smooth_zero {client : NtpClient} (hZero : client.lastOffsetUs = 0) (offset : Int) :
    client.smooth offset = some offset := if_neg (not_not_intro hZero)

theorem smooth_of_fits {client : NtpClient} {offset : Int} (hLast : client.lastOffsetUs ≠ 0)
    (hFits : Fits 64 (offset + client.lastOffsetUs)) :
    client.smooth offset = some ((offset + client.lastOffsetUs).tdiv 2) := by
  rw [NtpClient.smooth, if_pos hLast, checked_of_fits hFits, Option.map_some]

theorem smooth_eq_none {client : NtpClient} {offset : Int} (hLast : client.lastOffsetUs ≠ 0)
    (hFits : ¬ Fits 64 (offset + client.lastOffsetUs)) : client.smooth offset = none := by
  have hNone : checked 64 (offset + client.lastOffsetUs) = none := if_neg hFits
  rw [NtpClient.smooth, if_pos hLast, hNone, Option.map_none]

/-- Half of a sum, cut towards zero. -/
theorem half_bounds (sum : Int) :
    (0 ≤ sum → 2 * sum.tdiv 2 ≤ sum ∧ sum ≤ 2 * sum.tdiv 2 + 1) ∧
      (sum ≤ 0 → sum ≤ 2 * sum.tdiv 2 ∧ 2 * sum.tdiv 2 ≤ sum + 1) := by
  constructor
  · intro hNonneg
    rw [Int.tdiv_eq_ediv_of_nonneg hNonneg]
    omega
  · intro hNonpos
    have hNeg : sum.tdiv 2 = -((-sum) / 2) := by
      rw [← Int.tdiv_eq_ediv_of_nonneg (by omega), Int.neg_tdiv, neg_neg]
    rw [hNeg]
    omega

/-- The halved sum of two offsets lies between the bounds of both. -/
theorem half_between {low high offset last : Int} (hLow : low ≤ offset ∧ low ≤ last)
    (hHigh : offset ≤ high ∧ last ≤ high) :
    low ≤ (offset + last).tdiv 2 ∧ (offset + last).tdiv 2 ≤ high := by
  have hHalf := half_bounds (offset + last)
  omega

theorem half_eq_iff {offset last : Int} :
    (offset + last).tdiv 2 = offset ↔ HalvesTo last offset := by
  have hHalf := half_bounds (offset + last)
  unfold HalvesTo
  omega

theorem bounded_apply (client : NtpClient) (applied : Int) (measured : List Int) :
    Bounded ⟨client.apply applied, measured⟩ ↔
      (∃ low ∈ measured, low ≤ applied) ∧ ∃ high ∈ measured, applied ≤ high := by
  simp [Bounded, NtpClient.apply]

theorem Logged.boot : Logged boot := ⟨rfl, fun hSome => absurd rfl hSome⟩

/-- Every step keeps the log. -/
theorem Logged.step (h : Logged process) {event : ClientEvent}
    (hStep : process.step event = some next) : Logged next := by
  cases event with
  | startReceiving =>
      cases hStep
      exact ⟨rfl, fun hSome => absurd rfl hSome⟩
  | measured result =>
      cases result with
      | error err =>
          cases hStep
          exact h
      | ok measurement =>
          rw [step_measured] at hStep
          obtain ⟨applied, -, rfl⟩ := Option.map_eq_some_iff.mp hStep
          exact ⟨by simp [NtpClient.apply, h.length], by simp [NtpClient.apply]⟩

/-- The first offset that is applied in a session lies between its measurements when it is the
measured one. -/
theorem bounded_first (client : NtpClient) (offset applied : Int) :
    Bounded ⟨client.apply applied, [offset]⟩ ↔ applied = offset := by
  rw [bounded_apply]
  simp only [List.mem_singleton, exists_eq_left]
  exact antisymm_iff.trans eq_comm

/-- Later ones do in any case. -/
theorem bounded_later (hLogged : Logged process) (hBounded : Bounded process)
    (hSome : process.measured ≠ []) (offset : Int) :
    Bounded ⟨process.client.apply ((offset + process.client.lastOffsetUs).tdiv 2),
      process.measured ++ [offset]⟩ := by
  obtain ⟨⟨low, hLow, hAbove⟩, high, hHigh, hBelow⟩ :=
    hBounded process.client.lastOffsetUs (hLogged.last hSome)
  -- The new offset may lie outside of the bounds so far, and is then a bound itself.
  have hLowest : min low offset ≤ offset ∧ min low offset ≤ process.client.lastOffsetUs := by omega
  have hHighest : offset ≤ max high offset ∧ process.client.lastOffsetUs ≤ max high offset := by
    omega
  have hHalf := half_between hLowest hHighest
  have hMin : min low offset ∈ process.measured ++ [offset] := by
    rcases min_choice low offset with hEq | hEq <;> simp [hEq, hLow]
  have hMax : max high offset ∈ process.measured ++ [offset] := by
    rcases max_choice high offset with hEq | hEq <;> simp [hEq, hHigh]
  rw [bounded_apply]
  exact ⟨⟨_, hMin, hHalf.1⟩, _, hMax, hHalf.2⟩

/-- A measurement can be applied within the bounds exactly when it carries on. -/
theorem bounded_measured_iff (hLogged : Logged process) (hBounded : Bounded process)
    (measurement : Measurement) :
    (∃ next, process.step (.measured (.ok measurement)) = some next ∧ Bounded next) ↔
      process.Carries (.measured (.ok measurement)) := by
  have hCarries : process.Carries (.measured (.ok measurement)) ↔
      (process.client.lastOffsetUs ≠ 0 →
        Fits 64 (measurement.offset + process.client.lastOffsetUs) ∧
          (process.measured = [] →
            HalvesTo process.client.lastOffsetUs measurement.offset)) := Iff.rfl
  rw [step_measured, hCarries]
  by_cases hZero : process.client.lastOffsetUs = 0
  · rw [smooth_zero hZero]
    refine iff_of_true ⟨_, rfl, ?_⟩ fun hLast => absurd hZero hLast
    rw [bounded_apply]
    exact ⟨⟨_, by simp, le_refl _⟩, _, by simp, le_refl _⟩
  · by_cases hFits : Fits 64 (measurement.offset + process.client.lastOffsetUs)
    · simp only [smooth_of_fits hZero hFits, Option.map_some, Option.some.injEq, exists_eq_left',
        ne_eq, hZero, not_false_eq_true, true_implies, hFits, true_and]
      by_cases hFirst : process.measured = []
      · rw [hFirst, List.nil_append, bounded_first, half_eq_iff]
        exact ⟨fun hHalves _ => hHalves, fun hHalves => hHalves rfl⟩
      · exact iff_of_true (bounded_later hLogged hBounded hFirst measurement.offset)
          fun hNone => absurd hNone hFirst
    · simp [smooth_eq_none hZero hFits, hZero, hFits]

theorem bounded_step_iff (hLogged : Logged process) (hBounded : Bounded process)
    (event : ClientEvent) :
    (∃ next, process.step event = some next ∧ Bounded next) ↔ process.Carries event := by
  cases event with
  | startReceiving => exact iff_of_true ⟨_, rfl, fun applied hMem => by cases hMem⟩ trivial
  | measured result =>
      cases result with
      | error err => exact iff_of_true ⟨_, rfl, hBounded⟩ trivial
      | ok measurement => exact bounded_measured_iff hLogged hBounded measurement

/-- In every process, all applied offsets are within the bounds of their sessions, without an
overflow, if and only if each session's first measurement carries on what the ones before have
left. -/
theorem completes_bounded_iff (events : List ClientEvent) :
    Completes step Bounded boot events ↔ Admits step Carries boot events :=
  completes_iff_admits Logged (fun _ _ _ hLogged hStep => hLogged.step hStep)
    (fun _ event hLogged hBounded => bounded_step_iff hLogged hBounded event) Logged.boot
    (fun _ hMem => by cases hMem) events

/-- One second, and one second less. -/
def secondAhead : Measurement := ⟨⟨1, 0⟩, 1000000, by decide⟩

def secondBehind : Measurement := ⟨⟨-1, 0⟩, -1000000, by decide⟩

/-- A receiver that changes over to another sender: the first offset that is applied for this
one is the mean of both. -/
theorem not_completes_bounded_twoSenders :
    ¬ Completes step Bounded boot [.startReceiving, .measured (.ok secondAhead), .startReceiving,
      .measured (.ok secondBehind)] := by
  rintro ⟨-, first, hFirst, -, second, hSecond, -, third, hThird, -, fourth, hFourth, hBounded⟩
  cases hFirst
  cases hSecond
  cases hThird
  cases hFourth
  obtain ⟨-, high, hMem, hHigh⟩ := hBounded 0 (by decide)
  have hOnly : high ∈ [(-1000000 : Int)] := hMem
  rw [List.mem_singleton] at hOnly
  omega

end Smoothing

end ClientProcess

end AudioSync.Ntp
