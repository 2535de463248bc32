import AudioSync.Player.Callback

/-! The calls that steer the player from the network thread. -/
namespace AudioSync.Player

open MachineInt

/-- The build, and the one floating-point result the player uses: the rate offset
`(int32_t) ((double) drift / wait * 1000)` for a drift over a waiting time. -/
structure Platform where
  abi : Abi
  rateOffset : Int → Int → Int

namespace State

/-- The rate `audioplayer_monitorPlayback` would set for a rate offset. -/
def adjustedRate (player : State) (offset : Int) : Int :=
  max 500 (min 2000 (player.currentRatePermille - offset.tdiv 2))

/-- `audioplayer_monitorPlayback`, with the rates it sets. -/
def monitorPlayback (platform : Platform) (monotonicUs : Int) (player : State) :
    State × List Int :=
  let diff := player.currentDiff
  if !player.currentIsPlaying then
    ({ player with monitor := { player.monitor with lastPrint := 0 } }, [])
  else if player.monitor.lastPrint = 0 then
    ({ player with monitor := ⟨monotonicUs, diff, monotonicUs, 2 * SECOND_MICRO⟩ }, [])
  else
    let lastPrint :=
      if 5 * SECOND_MICRO < monotonicUs - player.monitor.lastPrint then monotonicUs
      else player.monitor.lastPrint
    let wait := monotonicUs - player.monitor.lastAdjustment
    if !player.currentEnableJumps && player.monitor.listenTime < wait then
      let offset := platform.rateOffset (player.monitor.lastDiff - diff) wait
      let rate := if 2 ≤ offset.natAbs then [player.adjustedRate offset] else []
      ({ player with
          currentRatePermille := rate.headD player.currentRatePermille
          currentEnableJumps := true
          monitor := ⟨lastPrint, diff, monotonicUs, 5 * SECOND_MICRO⟩ }, rate)
    else if player.currentEnableJumps && player.monitor.lastDiff.natAbs < wait &&
        player.monitor.lastDiff ≠ diff then
      ({ player with
          currentEnableJumps := false
          monitor := { player.monitor with
            lastPrint := lastPrint
            lastDiff := diff
            lastAdjustment := monotonicUs } }, [])
    else ({ player with monitor := { player.monitor with lastPrint := lastPrint } }, [])

/-- `audioplayer_syncPlayback`: the first call fixes the start of the stream. -/
def syncPlayback (platform : Platform) (monotonicUs systemTimeUs playbackTimeUs : Int)
    (player : State) : State × List Int :=
  let synced :=
    if player.currentSyncSystemTimeUs = 0 then
      { player with currentSyncSystemTimeUs := systemTimeUs - playbackTimeUs }
    else player
  synced.monitorPlayback platform monotonicUs

/-- The frames the FIFO is made for: five minutes, as a `uint32_t`. -/
def fifoFrames (samplesPerSec : BitVec 32) : Nat := (samplesPerSec * 60#32 * 5#32).toNat

/-- The globals as `audioplayer_initPlayback` sets them. The clock offset, the
latency, `accuracy`, the monitor's statics and the sample buffers stay. -/
def reset (samplesPerSec numChannels : BitVec 32) (hPos : 0 < samplesPerSec.toNat)
    (player : State) : State :=
  { player with
    currentSamplesPerSec := samplesPerSec.toNat
    currentNumChannels := numChannels.toNat
    currentRatePermille := 1000
    currentBufferedFrames := 0
    currentSyncSystemTimeUs := 0
    currentIsPlaying := false
    currentEnableJumps := false
    currentQueuedFrames := 0
    lastMark := ⟨0, 0⟩
    currentStarted := 0
    currentDrop := 0
    currentDiff := 0
    currentPlaybackMarkQueue := []
    fifo := BoundedQueue.empty (fifoFrames samplesPerSec)
    samplesPerSec_pos := hPos }

/-- The queue stands for the FIFO that is initialised here, at any sample rate up to
seven million. -/
theorem answers_reset {samplesPerSec : BitVec 32} (numChannels : BitVec 32)
    (hPos : 0 < samplesPerSec.toNat) (player : State) (fifoBuffer : Nat → Frame)
    (hFrames : 0 < fifoFrames samplesPerSec) (hLt : fifoFrames samplesPerSec < 2 ^ 31)
    (calls : List (FifoCall Frame)) :
    (AudioUtilsFifo.init (fifoFrames samplesPerSec) fifoBuffer).answers calls =
      some (queueAnswers (player.reset samplesPerSec numChannels hPos).fifo calls) :=
  answers_init fifoBuffer hFrames hLt calls

/-- The globals when the library is loaded and `audioplayer_initGlobal` has been
called with the device's parameters. -/
def boot (samplesPerSec framesPerBuffer : BitVec 32) : State where
  globalSamplesPerSec := samplesPerSec.toNat
  globalFramesPerBuffers := framesPerBuffer.toNat
  currentSamplesPerSec := 44100
  currentNumChannels := 1
  currentRatePermille := 1000
  fifo := BoundedQueue.empty 0
  currentSyncSystemTimeUs := 0
  currentBufferedFrames := 0
  currentSystemTimeOffsetUs := 0
  currentDeviceLatency := 0
  currentPlaybackMarkQueue := []
  currentIsPlaying := false
  currentEnableJumps := false
  currentQueuedFrames := 0
  lastMark := ⟨0, 0⟩
  currentStarted := 0
  currentDrop := 0
  currentDiff := 0
  tempBuffers := fun _ => 0
  tempBuffersIx := 0
  accuracy := 0
  monitor := ⟨0, 0, 0, 0⟩
  samplesPerSec_pos := by decide

end State

theorem samplesPerSec_pos_of_fifoFrames {samplesPerSec : BitVec 32}
    (h : 0 < State.fifoFrames samplesPerSec) : 0 < samplesPerSec.toNat := by
  rcases Nat.eq_zero_or_pos samplesPerSec.toNat with hZero | hPos
  · have : samplesPerSec = 0#32 := BitVec.eq_of_toNat_eq hZero
    subst this
    exact absurd h (by decide)
  · exact hPos

/-- `audioplayer_initPlayback`, up to and including its own call of the callback.
`none` is the failed assertion on an empty FIFO. -/
def initPlayback (abi : Abi) (clock : Clock) (samplesPerSec numChannels : BitVec 32)
    (player : State) : Option Run :=
  if h : 0 < State.fifoFrames samplesPerSec ∧ 0 < abi.size (numChannels.toNat * 2) then
    bqPlayerCallback abi clock
      (player.reset samplesPerSec numChannels (samplesPerSec_pos_of_fifoFrames h.1))
  else none

/-- The callback does not start to play without a synchronised time, so the first
buffer is filler and the FIFO stays empty. -/
theorem initPlayback_eq_some {abi : Abi} {clock : Clock} {samplesPerSec numChannels : BitVec 32}
    {player : State} {run : Run}
    (hInit : initPlayback abi clock samplesPerSec numChannels player = some run) :
    ∃ hPos : 0 < samplesPerSec.toNat,
      0 < abi.size (numChannels.toNat * 2) ∧ run.consumed = [] ∧
      (run.player, run.enqueued) =
        let reset := (player.reset samplesPerSec numChannels hPos).nextBuffer
        let filled := reset.fillerBuffer abi (reset.bufPtr abi)
        (filled.1, [filled.2]) := by
  simp only [initPlayback] at hInit
  split_ifs at hInit with hSize
  refine ⟨samplesPerSec_pos_of_fifoFrames hSize.1, hSize.2, ?_⟩
  simp only [bqPlayerCallback, State.startPlayback, State.nextBuffer, State.reset] at hInit
  cases hInit
  exact ⟨rfl, rfl⟩

theorem initPlayback_isSome (abi : Abi) (clock : Clock) {samplesPerSec numChannels : BitVec 32}
    (player : State) (hFrames : 0 < State.fifoFrames samplesPerSec)
    (hSize : 0 < abi.size (numChannels.toNat * 2)) :
    ∃ run, initPlayback abi clock samplesPerSec numChannels player = some run := by
  simp only [initPlayback, dif_pos (And.intro hFrames hSize)]
  exact ⟨_, rfl⟩

/-- The whole frames of a block of PCM data, as the FIFO copies them. -/
def framesOf (frameSize : Nat) (pcm : List Byte) : List Frame :=
  (List.range (pcm.length / frameSize)).map fun i => (pcm.drop (i * frameSize)).take frameSize

@[simp]
theorem framesOf_length (frameSize : Nat) (pcm : List Byte) :
    (framesOf frameSize pcm).length = pcm.length / frameSize := by
  simp [framesOf]

/-- Where a call of `audioplayer_enqueuePCMFrames` stands. The callback may run
between any two of these points. -/
inductive Phase where
  | write
  | account (written : Nat)
  | check (written : Nat)
  | returning (monitors : Nat)
  deriving DecidableEq, Repr

/-- A call that has not returned; `depth` counts the calls it recursed from. -/
structure Call where
  chunk : List Byte
  playbackTimeUs : Int
  depth : Nat
  phase : Phase

namespace Call

def enter (chunk : List Byte) (playbackTimeUs : Int) : Call := ⟨chunk, playbackTimeUs, 0, .write⟩

/-- One piece of `audioplayer_enqueuePCMFrames`. `none` in the second component
means that the outermost call has returned. -/
def advance (platform : Platform) (monotonicUs : Int) (call : Call) (player : State) :
    State × Option Call :=
  let frames := framesOf (player.frameSize platform.abi) call.chunk
  match call.phase with
  | .write =>
      let (fifo, written) := player.fifo.write frames
      ({ player with fifo := fifo }, some { call with phase := .account written })
  | .account written =>
      let bufferedFrames := platform.abi.size (player.currentBufferedFrames + frames.length)
      ({ player with
          currentBufferedFrames := bufferedFrames
          currentPlaybackMarkQueue :=
            player.currentPlaybackMarkQueue ++ [⟨bufferedFrames, call.playbackTimeUs⟩] },
        some { call with phase := .check written })
  | .check written =>
      if written = 0 ∧ 0 < call.chunk.length ∧ player.currentIsPlaying then
        -- The FIFO took nothing: sleep, and call the function again.
        ((player.monitorPlayback platform monotonicUs).1,
          some { call with depth := call.depth + 1, phase := .write })
      else (player, some { call with phase := .returning call.depth })
  | .returning monitors =>
      ((player.monitorPlayback platform monotonicUs).1,
        match monitors with
        | 0 => none
        | left + 1 => some { call with phase := .returning left })

end Call

end AudioSync.Player
