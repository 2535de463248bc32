import AudioSync.Receiver.Schedule
import Mathlib.Data.List.Chain

/-! The media time `RunNetwork` hands to the decoder, over streams that are longer than
a 32 bit timestamp can count. -/
namespace AudioSync.Receiver

open Rtp Player State

/-- A packet with its unwrapped timestamp. -/
structure Stamped where
  packet : RTPPacket
  time : Nat
  wraps : packet.timestamp = BitVec.ofNat 32 time

/-- What arrives from one sender, in order: the unwrapped timestamps do not decrease,
and their steps can be told from a packet that is late. -/
structure MediaStream where
  items : List Stamped
  steps : items.IsChain fun first next => first.time ≤ next.time ∧ next.time < first.time + 2 ^ 31

namespace MediaStream

def packets (stream : MediaStream) : List RTPPacket := stream.items.map Stamped.packet

def times (stream : MediaStream) : List Nat := stream.items.map Stamped.time

/-- The unwrapped timestamp of the first packet. -/
def first (stream : MediaStream) : Nat := stream.times.headD 0

/-- The media time of each packet. -/
def mediaTimes (stream : MediaStream) : List Int :=
  stream.times.map fun time : Nat => (time : Int) - stream.first

/-- Each packet that a run of `RunNetwork` handles gets its media time, so the times
never decrease. -/
def KeepsMediaTime (stream : MediaStream) : Prop :=
  ∀ (env : Environment) (clock : Clock) (samples channels : BitVec 32) (player : Player.State)
    (batches : List (List RTPPacket)) (state : Receiver.State), batches.flatten = stream.packets →
      runNetwork env clock samples channels player batches = some state →
        enqueueTimes state.codecCalls <+: stream.mediaTimes ∧
          (enqueueTimes state.codecCalls).Pairwise (· ≤ ·)

/-- Less than 2^32 microseconds are received. -/
def Short (stream : MediaStream) : Prop := ∀ time ∈ stream.times, time < stream.first + 2 ^ 32

/-- The first timestamp is not the one that stands for "not recorded", unless no other
follows. -/
def Recorded (stream : MediaStream) : Prop :=
  stream.first % 2 ^ 32 ≠ 2 ^ 32 - 1 ∨ ∀ time ∈ stream.times, time = stream.first

end MediaStream

section Relative

variable {base : Nat} {times : List Nat}

theorem relativeTimes_length (beginTimestamp : BitVec 32) (timestamps : List (BitVec 32)) :
    (relativeTimes beginTimestamp timestamps).length = timestamps.length := by
  induction timestamps generalizing beginTimestamp with
  | nil => rfl
  | cons timestamp rest ih => simp [relativeTimes, ih]

theorem relativeTimes_of_recorded {beginTimestamp : BitVec 32} (hBegin : beginTimestamp ≠ -1)
    (timestamps : List (BitVec 32)) :
    relativeTimes beginTimestamp timestamps =
      timestamps.map fun timestamp => ((timestamp - beginTimestamp).toNat : Int) := by
  induction timestamps with
  | nil => rfl
  | cons timestamp rest ih =>
      have hKeep : beginWith beginTimestamp timestamp = beginTimestamp := if_neg hBegin
      rw [relativeTimes, hKeep, ih]
      rfl

/-- The 32 bit difference of two unwrapped timestamps. -/
theorem toNat_ofNat_sub (h : base ≤ time) :
    (BitVec.ofNat 32 time - BitVec.ofNat 32 base).toNat = (time - base) % 2 ^ 32 := by
  rw [BitVec.toNat_sub, BitVec.toNat_ofNat, BitVec.toNat_ofNat]
  omega

theorem mod_eq_iff_lt (h : base ≤ time) :
    (((time - base) % 2 ^ 32 : Nat) : Int) = time - base ↔ time < base + 2 ^ 32 := by
  omega

theorem ofNat_eq_neg_one (n : Nat) : BitVec.ofNat 32 n = -1 ↔ n % 2 ^ 32 = 2 ^ 32 - 1 := by
  rw [← BitVec.toNat_inj, BitVec.toNat_ofNat]
  rfl

/-- Once the first timestamp is recorded, the times are right for less than 2^32
microseconds. -/
theorem relativeTimes_recorded_iff (hBase : BitVec.ofNat 32 base ≠ -1)
    (hFirst : ∀ time ∈ times, base ≤ time) :
    relativeTimes (BitVec.ofNat 32 base) (times.map (BitVec.ofNat 32)) =
        times.map (fun time : Nat => (time : Int) - base) ↔ ∀ time ∈ times, time < base + 2 ^ 32 := by
  rw [relativeTimes_of_recorded hBase, List.map_map, List.map_inj_left]
  refine forall₂_congr fun time hTime => ?_
  simp only [Function.comp_apply, toNat_ofNat_sub (hFirst time hTime)]
  exact mod_eq_iff_lt (hFirst time hTime)

/-- While it is not recorded, every packet gets the time 0. -/
theorem relativeTimes_unrecorded_iff (hBase : BitVec.ofNat 32 base = -1)
    (hFirst : ∀ time ∈ times, base ≤ time) :
    relativeTimes (-1) (times.map (BitVec.ofNat 32)) =
        times.map (fun time : Nat => (time : Int) - base) ↔
      ∀ time ∈ times, time = base := by
  induction times with
  | nil => simp [relativeTimes]
  | cons time rest ih =>
      have hTime := hFirst time (List.mem_cons_self ..)
      have hRest := ih fun later hLater => hFirst later (List.mem_cons_of_mem _ hLater)
      have hBegin : beginWith (-1) (BitVec.ofNat 32 time) = BitVec.ofNat 32 time := if_pos rfl
      rw [List.map_cons, relativeTimes, hBegin, BitVec.sub_self, List.map_cons, List.cons.injEq,
        List.forall_mem_cons]
      constructor
      · rintro ⟨hZero, hLater⟩
        have hSame : time = base := by
          simp only [BitVec.toNat_zero] at hZero
          omega
        rw [hSame, hBase] at hLater
        exact ⟨hSame, hRest.mp hLater⟩
      · rintro ⟨hSame, hLater⟩
        refine ⟨by simp [hSame], ?_⟩
        rw [hSame, hBase]
        exact hRest.mpr hLater

end Relative

namespace MediaStream

variable (stream : MediaStream)

theorem timestamps_packets :
    stream.packets.map RTPPacket.timestamp = stream.times.map (BitVec.ofNat 32) := by
  simp only [packets, times, List.map_map]
  exact List.map_congr_left fun item _ => item.wraps

/-- No packet is earlier than the first. -/
theorem first_le : ∀ time ∈ stream.times, stream.first ≤ time := by
  have hSorted : stream.times.Pairwise (· ≤ ·) := by
    rw [← List.isChain_iff_pairwise, times, List.isChain_map]
    exact stream.steps.imp fun _ _ hStep => hStep.1
  unfold first
  cases hTimes : stream.times with
  | nil => simp
  | cons time rest =>
      rw [hTimes] at hSorted
      intro later hLater
      rcases List.mem_cons.mp hLater with rfl | hRest
      · exact le_rfl
      · exact List.rel_of_pairwise_cons hSorted hRest

theorem mediaTimes_sorted : stream.mediaTimes.Pairwise (· ≤ ·) := by
  rw [mediaTimes, times, List.map_map, ← List.isChain_iff_pairwise, List.isChain_map]
  refine stream.steps.imp fun _ _ hStep => ?_
  simp only [Function.comp_apply]
  omega

theorem relativeTimes_iff :
    relativeTimes (-1) (stream.packets.map RTPPacket.timestamp) = stream.mediaTimes ↔
      stream.Short ∧ stream.Recorded := by
  have hFirst := stream.first_le
  rw [timestamps_packets]
  unfold mediaTimes Short Recorded
  by_cases hBase : BitVec.ofNat 32 stream.first = -1
  · rw [relativeTimes_unrecorded_iff hBase hFirst]
    have hMod := (ofNat_eq_neg_one _).mp hBase
    constructor
    · intro hSame
      exact ⟨fun time hTime => by rw [hSame time hTime]; omega, Or.inr hSame⟩
    · rintro ⟨-, hOther | hSame⟩
      · exact absurd hMod hOther
      · exact hSame
  · have hMod := mt (ofNat_eq_neg_one _).mpr hBase
    cases hTimes : stream.times with
    | nil => simp [relativeTimes]
    | cons time rest =>
        have hHead : stream.first = time := by simp [first, hTimes]
        rw [hHead] at hBase hFirst hMod ⊢
        rw [hTimes] at hFirst
        have hBegin : beginWith (-1) (BitVec.ofNat 32 time) = BitVec.ofNat 32 time := if_pos rfl
        have hUnchanged : relativeTimes (-1) ((time :: rest).map (BitVec.ofNat 32)) =
            relativeTimes (BitVec.ofNat 32 time) ((time :: rest).map (BitVec.ofNat 32)) := by
          have hKeep : beginWith (BitVec.ofNat 32 time) (BitVec.ofNat 32 time) =
            BitVec.ofNat 32 time := if_neg hBase
          simp only [List.map_cons, relativeTimes, hBegin, hKeep]
        rw [hUnchanged, relativeTimes_recorded_iff hBase hFirst]
        exact (and_iff_left (Or.inl hMod)).symm

/-- A receiver that is never interrupted hands on all packets, and any other some of
the first ones. -/
theorem keepsMediaTime_iff_relativeTimes : stream.KeepsMediaTime ↔
    relativeTimes (-1) (stream.packets.map RTPPacket.timestamp) = stream.mediaTimes := by
  constructor
  · intro hKeeps
    have hSize : 0 < Abi.lp64.size ((1#32).toNat * 2) := by decide
    obtain ⟨run, hInit⟩ := initPlayback_isSome Abi.lp64 ⟨0, 0⟩ (Player.State.boot 44100 1024)
      (by decide : 0 < Player.State.fifoFrames 44100) hSize
    have hRun : runNetwork (steadyEnvironment .lp64) ⟨0, 0⟩ 44100 1 (Player.State.boot 44100 1024)
        [stream.packets] =
        some ((Receiver.State.start run.player).receive (steadyEnvironment .lp64) 0
          [stream.packets]) := by
      unfold runNetwork
      exact congrArg (Option.map _) hInit
    obtain ⟨hPrefix, -⟩ := hKeeps _ _ _ _ _ [stream.packets] _ (by simp) hRun
    have hTimes := (enqueueTimes_pass (steadyEnvironment .lp64) (Receiver.State.start run.player)
      stream.packets).1
    have hAll : enqueueTimes ((Receiver.State.start run.player).receive (steadyEnvironment .lp64) 0
        [stream.packets]).codecCalls =
        relativeTimes (-1) (stream.packets.map RTPPacket.timestamp) := hTimes
    rw [hAll] at hPrefix
    exact hPrefix.eq_of_length (by simp [relativeTimes_length, mediaTimes, packets, times])
  · intro hTimes env clock samples channels player batches state hBatches hRun
    obtain ⟨run, -, rfl⟩ := Option.map_eq_some_iff.mp hRun
    have hPrefix := enqueueTimes_receive env 0 (Receiver.State.start run.player) batches
    have hStart : enqueueTimes (Receiver.State.start run.player).codecCalls = [] := rfl
    rw [hBatches, hStart, List.nil_append] at hPrefix
    have hMedia : enqueueTimes ((Receiver.State.start run.player).receive env 0 batches).codecCalls <+:
        stream.mediaTimes := by
      rw [← hTimes]
      exact hPrefix
    exact ⟨hMedia, stream.mediaTimes_sorted.sublist hMedia.sublist⟩

/-- Every packet of every run gets its media time exactly when the stream is short
and its first timestamp was recorded. -/
theorem keepsMediaTime_iff : stream.KeepsMediaTime ↔ stream.Short ∧ stream.Recorded :=
  stream.keepsMediaTime_iff_relativeTimes.trans stream.relativeTimes_iff

/-- A packet of a stream with nothing but its timestamp. -/
def bareStamped (time : Nat) : Stamped where
  packet := ⟨0, false, 0, BitVec.ofNat 32 time, 0, [], none, []⟩
  time := time
  wraps := rfl

/-- The second packet of a stream that begins at 2^32 - 1 gets the time 0. -/
theorem not_keepsMediaTime_unrecorded :
    ¬ KeepsMediaTime ⟨[bareStamped 4294967295, bareStamped 4294968295], by decide⟩ := by
  rw [keepsMediaTime_iff_relativeTimes]
  decide

end MediaStream

end AudioSync.Receiver
