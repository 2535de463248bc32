import AudioSync.Player.Isolation

/-! The parameters of the device and of the stream, and which of the globals the stages of
the callback leave alone. -/
namespace AudioSync.Player

open MachineInt

/-- The same device, stream and synchronisation. -/
structure SameSetup (player next : State) : Prop extends SameStream player next where
  samplesPerSec : next.currentSamplesPerSec = player.currentSamplesPerSec
  capacity : next.fifo.capacity = player.fifo.capacity
  enableJumps : next.currentEnableJumps = player.currentEnableJumps
  syncSystemTime : next.currentSyncSystemTimeUs = player.currentSyncSystemTimeUs
  systemTimeOffset : next.currentSystemTimeOffsetUs = player.currentSystemTimeOffsetUs
  deviceLatency : next.currentDeviceLatency = player.currentDeviceLatency
  buffered : next.currentBufferedFrames = player.currentBufferedFrames

theorem SameSetup.refl (player : State) : SameSetup player player :=
  ⟨⟨rfl, rfl⟩, rfl, rfl, rfl, rfl, rfl, rfl, rfl⟩

theorem SameSetup.trans {player middle next : State} (left : SameSetup player middle)
    (right : SameSetup middle next) : SameSetup player next where
  framesPerBuffers := right.framesPerBuffers.trans left.framesPerBuffers
  channels := right.channels.trans left.channels
  samplesPerSec := right.samplesPerSec.trans left.samplesPerSec
  capacity := right.capacity.trans left.capacity
  enableJumps := right.enableJumps.trans left.enableJumps
  syncSystemTime := right.syncSystemTime.trans left.syncSystemTime
  systemTimeOffset := right.systemTimeOffset.trans left.systemTimeOffset
  deviceLatency := right.deviceLatency.trans left.deviceLatency
  buffered := right.buffered.trans left.buffered

namespace State

variable {abi : Abi} {player : State}

/-- The loop of a late start only reads and counts. -/
theorem dropLate_frame (abi : Abi) (address : Nat) (drop : Int) (player : State) :
    ∃ fifo memory, fifo.capacity = player.fifo.capacity ∧
      (player.dropLate abi address drop).1 = { player with
        fifo := fifo
        tempBuffers := memory
        currentQueuedFrames :=
          player.currentQueuedFrames + (player.dropLate abi address drop).2.length } := by
  fun_induction dropLate abi address drop player with
  | case1 drop player requestFrames read hNone =>
      refine ⟨read.1.fifo, read.1.tempBuffers, rfl, ?_⟩
      rw [hNone, Nat.cast_zero, add_zero]
      rfl
  | case2 drop player requestFrames read hSome counted hMore later ih =>
      obtain ⟨fifo, memory, hCapacity, hLater⟩ := ih
      refine ⟨fifo, memory, hCapacity, ?_⟩
      rw [hLater, List.length_append, Nat.cast_add, ← add_assoc]
      rfl
  | case3 drop player requestFrames read hSome counted hDone =>
      exact ⟨read.1.fifo, read.1.tempBuffers, rfl, rfl⟩

theorem sameSetup_dropLate (address : Nat) (drop : Int) :
    SameSetup player (player.dropLate abi address drop).1 := by
  obtain ⟨fifo, memory, hCapacity, hDropped⟩ := dropLate_frame abi address drop player
  rw [hDropped]
  exact ⟨⟨rfl, rfl⟩, rfl, hCapacity, rfl, rfl, rfl, rfl, rfl⟩

theorem sameSetup_startPlayback (clock : Clock) (address : Nat) :
    SameSetup player (player.startPlayback abi clock address).1 := by
  have hDecided : SameSetup player (player.decideStart clock) :=
    ⟨⟨rfl, rfl⟩, rfl, rfl, rfl, rfl, rfl, rfl, rfl⟩
  simp only [startPlayback]
  split_ifs
  · exact hDecided.trans (sameSetup_dropLate address _)
  · exact hDecided
  · exact SameSetup.refl player

theorem sameSetup_decided (clock : Clock) : SameSetup player (player.decided abi clock) := by
  have hNext : SameSetup player player.nextBuffer :=
    ⟨⟨rfl, rfl⟩, rfl, rfl, rfl, rfl, rfl, rfl, rfl⟩
  exact hNext.trans (sameSetup_startPlayback clock _)

theorem sameSetup_measure (clock : Clock) : SameSetup player (player.measure abi clock) := by
  unfold measure advanceMarks
  split <;> exact ⟨⟨rfl, rfl⟩, rfl, rfl, rfl, rfl, rfl, rfl, rfl⟩

/-- The player with the lateness measured, after the start decision. -/
def measured (abi : Abi) (clock : Clock) (player : State) : State :=
  (player.decided abi clock).measure abi clock

theorem sameSetup_measured (abi : Abi) (clock : Clock) (player : State) :
    SameSetup player (player.measured abi clock) :=
  (sameSetup_decided clock).trans (sameSetup_measure clock)

theorem sameSetup_playSilence (bufPtr : Nat) (drop : Int) :
    SameSetup player (player.playSilence abi bufPtr drop).player := by
  unfold playSilence
  dsimp only
  split_ifs <;> exact ⟨⟨rfl, rfl⟩, rfl, rfl, rfl, rfl, rfl, rfl, rfl⟩

theorem sameSetup_squeeze {bufPtr frameCount : Nat} {drop : Int} {next : State}
    (hSqueeze : player.squeeze abi bufPtr frameCount drop = some next) : SameSetup player next := by
  obtain ⟨-, memory, -, rfl⟩ := squeeze_eq_some hSqueeze
  exact ⟨⟨rfl, rfl⟩, rfl, rfl, rfl, rfl, rfl, rfl, rfl⟩

theorem sameSetup_playFrames {bufPtr requestFrames : Nat} {drop : Option Int} {run : Run}
    (hRun : player.playFrames abi bufPtr requestFrames drop = some run) :
    SameSetup player run.player := by
  cases played_of_playFrames hRun with
  | starved hNone => exact ⟨⟨rfl, rfl⟩, rfl, rfl, rfl, rfl, rfl, rfl, rfl⟩
  | plain hSome hPlain => exact ⟨⟨rfl, rfl⟩, rfl, rfl, rfl, rfl, rfl, rfl, rfl⟩
  | squeezed hSome hDrop hFull hSqueeze =>
      obtain ⟨⟨hFrames, hChannels⟩, hRate, hCapacity, hJumps, hSync, hOffset, hLatency, hBuffered⟩ :=
        sameSetup_squeeze hSqueeze
      exact ⟨⟨hFrames, hChannels⟩, hRate, hCapacity, hJumps, hSync, hOffset, hLatency, hBuffered⟩

theorem sameSetup_play {bufPtr : Nat} {run : Run} (hRun : player.play abi bufPtr = some run) :
    SameSetup player run.player := by
  unfold play at hRun
  cases hJump : player.jumpFor player.currentDiff with
  | silence =>
      rw [hJump] at hRun
      cases hRun
      exact sameSetup_playSilence bufPtr _
  | speedUp =>
      rw [hJump] at hRun
      exact sameSetup_playFrames hRun
  | none =>
      rw [hJump] at hRun
      exact sameSetup_playFrames hRun

end State

/-- A run of the callback changes neither the device nor the stream. -/
theorem sameSetup_bqPlayerCallback {abi : Abi} {clock : Clock} {player : State} {run : Run}
    (hRun : bqPlayerCallback abi clock player = some run) : SameSetup player run.player := by
  rw [bqPlayerCallback_eq] at hRun
  dsimp only at hRun
  split_ifs at hRun with hPlaying
  · obtain ⟨played, hPlay, rfl⟩ := Option.map_eq_some_iff.mp hRun
    have hPlayed := (State.sameSetup_measured abi clock player).trans (State.sameSetup_play hPlay)
    exact ⟨hPlayed.toSameStream, hPlayed.samplesPerSec, hPlayed.capacity, hPlayed.enableJumps,
      hPlayed.syncSystemTime, hPlayed.systemTimeOffset, hPlayed.deviceLatency, hPlayed.buffered⟩
  · cases hRun
    exact (State.sameSetup_decided clock).trans ⟨⟨rfl, rfl⟩, rfl, rfl, rfl, rfl, rfl, rfl, rfl⟩

/-- Measuring the lateness moves on in the marks. -/
theorem State.measure_frame (abi : Abi) (clock : Clock) (player : State) :
    ∃ last queue diff drop, player.measure abi clock = { player with
      lastMark := last
      currentPlaybackMarkQueue := queue
      currentDiff := diff
      currentDrop := drop } := by
  unfold State.measure State.advanceMarks
  split_ifs
  · exact ⟨_, _, _, _, rfl⟩
  · exact ⟨player.lastMark, player.currentPlaybackMarkQueue, _, _, rfl⟩

theorem State.queuedFrames_measure (abi : Abi) (clock : Clock) (player : State) :
    (player.measure abi clock).currentQueuedFrames = player.currentQueuedFrames := by
  obtain ⟨last, queue, diff, drop, hMeasured⟩ := measure_frame abi clock player
  rw [hMeasured]

theorem State.fifo_measured (abi : Abi) (clock : Clock) (player : State) :
    (player.measured abi clock).fifo = (player.decided abi clock).fifo := by
  obtain ⟨last, queue, diff, drop, hMeasured⟩ := measure_frame abi clock (player.decided abi clock)
  rw [measured, hMeasured]

/-- A playing callback that neither speeds up nor plays silence. -/
theorem bqPlayerCallback_plain {abi : Abi} {clock : Clock} {player : State}
    (hPlaying : (player.decided abi clock).currentIsPlaying = true)
    (hJump : (player.measured abi clock).jumpFor (player.measured abi clock).currentDiff = .none)
    (hSome : 0 < min player.globalFramesPerBuffers (player.decided abi clock).fifo.fill) :
    ∃ run, bqPlayerCallback abi clock player = some run ∧
      run.player.fifo.fill = (player.decided abi clock).fifo.fill - player.globalFramesPerBuffers ∧
      run.player.currentQueuedFrames = (player.decided abi clock).currentQueuedFrames +
        (min player.globalFramesPerBuffers (player.decided abi clock).fifo.fill : Nat) ∧
      run.player.currentIsPlaying = true ∧
      run.player.accuracy = (player.decided abi clock).accuracy ∧
      run.enqueued ≠ [] := by
  have hSame := State.sameSetup_measured abi clock player
  obtain ⟨last, queue, diff, drop, hFrame⟩ :=
    State.measure_frame abi clock (player.decided abi clock)
  have hMeasured : player.measured abi clock = _ := hFrame
  have hFifo := State.fifo_measured abi clock player
  have hPlay : (player.measured abi clock).play abi (player.nextBuffer.bufPtr abi) =
      some (State.enqueueRun abi (player.nextBuffer.bufPtr abi)
        (min player.globalFramesPerBuffers (player.measured abi clock).fifo.fill)
        ((player.measured abi clock).fifo.read player.globalFramesPerBuffers).2
        ((player.measured abi clock).fifoRead (2 * player.nextBuffer.bufPtr abi)
          player.globalFramesPerBuffers).1) := by
    rw [State.play, hJump, hSame.framesPerBuffers]
    exact State.playFrames_of_plain (by rw [hFifo]; omega) (Or.inl rfl)
  rw [bqPlayerCallback_eq]
  dsimp only
  rw [if_pos hPlaying]
  refine ⟨_, congrArg _ hPlay, ?_, ?_, ?_, ?_, List.cons_ne_nil _ _⟩
  · show ((player.measured abi clock).fifo.read player.globalFramesPerBuffers).1.fill = _
    rw [BoundedQueue.read_fill, hFifo]
  · show (player.measured abi clock).currentQueuedFrames + _ = _
    rw [hFifo, hMeasured]
  · show (player.measured abi clock).currentIsPlaying = true
    rw [hMeasured]
    exact hPlaying
  · show (player.measured abi clock).accuracy = _
    rw [hMeasured]

end AudioSync.Player
