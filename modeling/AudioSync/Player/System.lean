import AudioSync.Player.Control
import AudioSync.Lib.Transition

/-! The player between the network thread, which fills the FIFO, and OpenSL,
which runs the callback each time a buffer has been played. -/
namespace AudioSync.Player

/-- The player with the call that is in progress on the network thread, what has
gone in and come out so far, and what every run of the callback enqueued. -/
structure System where
  player : State
  call : Option Call
  passed : List (List Byte)
  consumed : List Frame
  slQueue : List SLBuffer
  callbacks : List (List SLBuffer)
  halted : Bool

inductive Event where
  | bufferFinished (clock : Clock)
  | enqueuePCMFrames (chunk : List Byte) (playbackTimeUs : Int)
  | advanceCall (monotonicUs : Int)
  | syncPlayback (monotonicUs systemTimeUs playbackTimeUs : Int)
  | monitorPlayback (monotonicUs : Int)
  | setSystemTimeOffset (offsetUs : Int)
  | setDeviceLatency (latencyUs : Int)

/-- The calls that steer the player and pass no frames. -/
def Event.isControl : Event → Bool
  | .bufferFinished _ => false
  | .enqueuePCMFrames _ _ => false
  | .advanceCall _ => false
  | .syncPlayback _ _ _ => true
  | .monitorPlayback _ => true
  | .setSystemTimeOffset _ => true
  | .setDeviceLatency _ => true

namespace System

/-- The state in which `audioplayer_initPlayback` returns. -/
def start (run : Run) : System :=
  ⟨run.player, none, [], run.consumed, run.enqueued, [run.enqueued], false⟩

/-- A division by zero ends the process; that run of the callback enqueued nothing. -/
def finishCallback (rest : List SLBuffer) (run : Option Run) (system : System) : System :=
  match run with
  | none => { system with halted := true, callbacks := system.callbacks ++ [[]] }
  | some run => { system with
      player := run.player
      consumed := system.consumed ++ run.consumed
      slQueue := rest ++ run.enqueued
      callbacks := system.callbacks ++ [run.enqueued] }

/-- OpenSL runs the callback when a buffer of its queue has been played. The
network thread makes one call at a time. -/
def act (platform : Platform) (system : System) : Event → Option System
  | .bufferFinished clock =>
      match system.slQueue with
      | [] => none
      | _ :: rest =>
          some (system.finishCallback rest (bqPlayerCallback platform.abi clock system.player))
  | .enqueuePCMFrames chunk playbackTimeUs =>
      if system.call.isSome then none
      else some { system with
        call := some (Call.enter chunk playbackTimeUs)
        passed := system.passed ++ [chunk] }
  | .advanceCall monotonicUs => system.call.map fun call =>
      { system with
        player := (call.advance platform monotonicUs system.player).1
        call := (call.advance platform monotonicUs system.player).2 }
  | .syncPlayback monotonicUs systemTimeUs playbackTimeUs =>
      if system.call.isSome then none
      else some { system with
        player := (system.player.syncPlayback platform monotonicUs systemTimeUs playbackTimeUs).1 }
  | .monitorPlayback monotonicUs =>
      if system.call.isSome then none
      else some { system with player := (system.player.monitorPlayback platform monotonicUs).1 }
  | .setSystemTimeOffset offsetUs =>
      some { system with player := { system.player with currentSystemTimeOffsetUs := offsetUs } }
  | .setDeviceLatency latencyUs =>
      some { system with player := { system.player with currentDeviceLatency := latencyUs } }

/-- Nothing happens any more once the process is gone. -/
def step (platform : Platform) (system : System) (event : Event) : Option System :=
  if system.halted then none else system.act platform event

theorem act_of_step {platform : Platform} {system next : System} {event : Event}
    (h : system.step platform event = some next) :
    system.halted = false ∧ system.act platform event = some next := by
  cases hHalted : system.halted with
  | false => exact ⟨rfl, by simpa [step, hHalted] using h⟩
  | true => simp [step, hHalted] at h

end System

end AudioSync.Player
