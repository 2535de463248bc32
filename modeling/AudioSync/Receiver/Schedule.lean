import AudioSync.Receiver.RunNetwork

/-! The sender clock times at which a receiver wants to play what it got. -/
namespace AudioSync.Receiver

open Rtp Player

theorem currentSync_monitorPlayback (platform : Platform) (monotonicUs : Int)
    (player : Player.State) :
    (player.monitorPlayback platform monotonicUs).1.currentSyncSystemTimeUs =
      player.currentSyncSystemTimeUs := by
  simp only [Player.State.monitorPlayback]
  split_ifs <;> rfl

/-- `audioplayer_initPlayback` leaves the player without a synchronised time. -/
theorem currentSync_initPlayback {abi : Abi} {clock : Clock} {samples channels : BitVec 32}
    {player : Player.State} {run : Run}
    (hInit : initPlayback abi clock samples channels player = some run) :
    run.player.currentSyncSystemTimeUs = 0 := by
  obtain ⟨hPos, -, -, hRun⟩ := initPlayback_eq_some hInit
  have hPlayer : run.player = _ := congrArg Prod.fst hRun
  rw [hPlayer]
  rfl

namespace State

/-- The first packet of a stream, if it has a clock time, fixes the start. -/
theorem syncPacket_start (env : Environment) {player : Player.State} {packet : RTPPacket}
    {usec : Int} (hPlayer : player.currentSyncSystemTimeUs = 0)
    (hClock : packet.extension.bind HeaderExtension.clockTime = some usec) :
    ((start player).syncPacket env packet).currentSyncSystemTimeUs = usec := by
  have hFirst : packet.timestamp - beginWith (-1) packet.timestamp = 0 := by
    rw [beginWith, if_pos rfl]
    exact BitVec.sub_self _
  simp only [syncPacket, hClock, start, Player.State.syncPlayback, currentSync_monitorPlayback,
    if_pos hPlayer, hFirst]
  simp

end State

/-- A packet's schedule is `current_syncSystemTimeUs`, as the first packet fixed
it, plus the time the decoder is given. Without a clock time in the first packet
there is none. -/
def scheduleFrom (env : Environment) (player : Player.State) (batches : List (List RTPPacket)) :
    List Int :=
  match batches.flatten with
  | [] => []
  | first :: _ =>
      let sync := ((State.start player).syncPacket env first).currentSyncSystemTimeUs
      match first.extension.bind HeaderExtension.clockTime with
      | none => []
      | some _ => (enqueueTimes ((State.start player).receive env 0 batches).codecCalls).map
          fun timeUs => int64 (sync + timeUs)

/-- The schedule of a whole run of `RunNetwork`. -/
def schedule (env : Environment) (clock : Clock) (samples channels : BitVec 32)
    (player : Player.State) (batches : List (List RTPPacket)) : List Int :=
  match initPlayback env.platform.abi clock samples channels player with
  | none => []
  | some run => scheduleFrom env run.player batches

/-- What the schedules are when every packet is handled. -/
def fullSchedule (usec : Int) (packets : List RTPPacket) : List Int :=
  (relativeTimes (-1) (packets.map RTPPacket.timestamp)).map fun timeUs => int64 (usec + timeUs)

theorem schedule_isPrefix (env : Environment) (clock : Clock) (samples channels : BitVec 32)
    (player : Player.State) {batches : List (List RTPPacket)} {first : RTPPacket}
    {rest : List RTPPacket} {usec : Int} (hFirst : batches.flatten = first :: rest)
    (hClock : first.extension.bind HeaderExtension.clockTime = some usec) :
    schedule env clock samples channels player batches <+: fullSchedule usec (first :: rest) := by
  rw [schedule]
  split
  · exact List.nil_prefix
  · next run hInit =>
      have hTimes := enqueueTimes_receive env 0 (State.start run.player) batches
      rw [hFirst] at hTimes
      simp only [scheduleFrom, hFirst, hClock,
        State.syncPacket_start env (currentSync_initPlayback hInit) hClock]
      exact hTimes.map _

theorem schedule_eq_nil (env : Environment) (clock : Clock) (samples channels : BitVec 32)
    (player : Player.State) {batches : List (List RTPPacket)}
    (hClock : batches.flatten.head?.bind (·.extension.bind HeaderExtension.clockTime) = none) :
    schedule env clock samples channels player batches = [] := by
  rw [schedule]
  split
  · rfl
  · rw [scheduleFrom]
    split
    · rfl
    · next first rest hFirst =>
        rw [hFirst, List.head?_cons, Option.bind_some] at hClock
        rw [hClock]

/-- A receiver that finds all packets at once and is not stopped. -/
def steadyEnvironment (abi : Abi) : Environment where
  platform := ⟨abi, fun _ _ => 0⟩
  monotonicUs _ := 0
  isRunning _ := true
  enqueueStatus _ := Decoder.AMEDIA_OK
  dequeueBuffer _ player := (player, true)

/-- It schedules every packet. -/
theorem schedule_steady {first : RTPPacket} {rest : List RTPPacket} {usec : Int}
    (hClock : first.extension.bind HeaderExtension.clockTime = some usec) :
    schedule (steadyEnvironment .lp64) ⟨0, 0⟩ 44100 1 (Player.State.boot 44100 1024)
      [first :: rest] = fullSchedule usec (first :: rest) := by
  have hSize : 0 < Abi.lp64.size ((1#32).toNat * 2) := by decide
  obtain ⟨run, hInit⟩ := initPlayback_isSome Abi.lp64 ⟨0, 0⟩ (Player.State.boot 44100 1024)
    (by decide : 0 < Player.State.fifoFrames 44100) hSize
  have hTimes := (enqueueTimes_pass (steadyEnvironment .lp64) (State.start run.player)
    (first :: rest)).1
  have hFlatten : [first :: rest].flatten = first :: rest := by simp
  have hSync := State.syncPacket_start (steadyEnvironment .lp64) (currentSync_initPlayback hInit)
    hClock
  rw [schedule]
  split
  · next hNone => exact absurd (hInit.symm.trans hNone) (by simp)
  · next other hOther =>
      cases hInit.symm.trans hOther
      simp only [scheduleFrom, hFlatten, hClock, hSync]
      exact congrArg (List.map _) hTimes

end AudioSync.Receiver
