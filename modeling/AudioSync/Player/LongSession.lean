import AudioSync.Player.PlaybackClock

/-! A playback session and its clock, also when it is a long one: the counter of the frames
that were passed is a `size_t`. -/
namespace AudioSync.Player

open MachineInt Transition

namespace Marked

theorem inStep_start (platform : Platform) {clock : Clock} {samplesPerSec numChannels : BitVec 32}
    {player : State} {run : Run}
    (hInit : initPlayback platform.abi clock samplesPerSec numChannels player = some run) :
    (start run).InStep platform (platform.abi.size (numChannels.toNat * 2))
      samplesPerSec.toNat := by
  obtain ⟨hPos, -, -, hRun⟩ := initPlayback_eq_some hInit
  have hPlayer : run.player = _ := congrArg Prod.fst hRun
  have hTracks : Tracks platform.abi (platform.abi.size (numChannels.toNat * 2))
      samplesPerSec.toNat none [] []
      (player.reset samplesPerSec numChannels hPos) :=
    ⟨rfl, rfl, ⟨[], rfl, by simp [State.reset]⟩, List.pairwise_singleton _ _,
      by simp [mediaTimeUs, State.reset], rfl, Nat.two_pow_pos _, fun _ => rfl, by simp⟩
  have hAccounts : Accounts True (player.reset samplesPerSec numChannels hPos) [] run.player := by
    rw [hPlayer]
    exact Accounts.of_fields rfl rfl rfl rfl rfl
  have hKeeps : KeepsMarks (player.reset samplesPerSec numChannels hPos) run.player := by
    rw [hPlayer]
    exact ⟨rfl, rfl, rfl, le_refl _⟩
  exact hTracks.of_keepsMarks hKeeps hAccounts fun _ => trivial

/-- The playback clock is accurate in every run since `audioplayer_initPlayback` with rightly
stamped chunks that find room, as long as the numbers stay in range. -/
theorem meets_accurate (platform : Platform) (clock : Clock)
    (samplesPerSec numChannels : BitVec 32) (player : State) (run : Run)
    (hInit : initPlayback platform.abi clock samplesPerSec numChannels player = some run)
    (events : List Event)
    (hSupposed : Meets (step platform) (Supposed platform) (start run) events)
    (hRange : Meets (step platform) (InRange platform) (start run) events) :
    Meets (step platform) (Accurate platform) (start run) events :=
  meets_of_inv (fun _ _ _ hInStep hOk hStep =>
    ⟨hInStep.accurate hOk.2, hInStep.step hOk.1 hOk.2 hStep⟩) (inStep_start platform hInit)
    (hSupposed.and hRange)

section Call

/-- The player once a call has written, counted and marked its chunk. -/
def enqueued (abi : Abi) (chunk : List Byte) (playbackTimeUs : Int) (player : State) : State :=
  let frames := framesOf (player.frameSize abi) chunk
  let bufferedFrames := abi.size (player.currentBufferedFrames + frames.length)
  { player with
    fifo := (player.fifo.write frames).1
    currentBufferedFrames := bufferedFrames
    currentPlaybackMarkQueue := player.currentPlaybackMarkQueue ++
      [PlaybackMark.mk bufferedFrames playbackTimeUs] }

/-- A call that has written something does not start over. -/
theorem step_check (platform : Platform) (system : System) (call : Call)
    (marks : List PlaybackMark) (monotonicUs : Int) {written : Nat}
    (hHalted : system.halted = false)
    (hCall : system.call = some { call with phase := .check written }) (hWritten : 0 < written) :
    step platform ⟨system, marks⟩ (.advanceCall monotonicUs) =
      some ⟨{ system with call := some { call with phase := .returning call.depth } }, marks⟩ := by
  have hDone : ¬ (written = 0 ∧ 0 < call.chunk.length ∧
      system.player.currentIsPlaying = true) := by omega
  simp [step, System.step, System.act, System.newMarks, Call.newMarks, Call.advance, hHalted,
    hCall, hDone]

/-- A call that no other event interrupts and that the FIFO has room for. -/
theorem run_wholeCall (platform : Platform) (system : System) (marks : List PlaybackMark)
    {chunk : List Byte} (playbackTimeUs monotonicUs : Int) (hHalted : system.halted = false)
    (hCall : system.call = none)
    (hSome : 0 < (framesOf (system.player.frameSize platform.abi) chunk).length)
    (hFree : (framesOf (system.player.frameSize platform.abi) chunk).length ≤
      system.player.fifo.free)
    (hStamp : Supposed platform ⟨system, marks⟩ (.enqueuePCMFrames chunk playbackTimeUs)) :
    Meets (step platform) (Supposed platform) ⟨system, marks⟩
        (System.wholeCall chunk playbackTimeUs monotonicUs) ∧
      ∃ marks', run (step platform) ⟨system, marks⟩
          (System.wholeCall chunk playbackTimeUs monotonicUs) =
        some ⟨{ system with
          player := ((enqueued platform.abi chunk playbackTimeUs system.player).monitorPlayback
            platform monotonicUs).1
          passed := system.passed ++ [chunk] }, marks'⟩ := by
  obtain ⟨player, call, passed, consumed, slQueue, callbacks, halted⟩ := system
  dsimp only at hHalted hCall hSome hFree
  subst hHalted hCall
  have hWritten : 0 < min player.fifo.free
      (framesOf (player.frameSize platform.abi) chunk).length := by omega
  have hCheck (before : List PlaybackMark) := step_check platform
    ⟨enqueued platform.abi chunk playbackTimeUs player,
      some ⟨chunk, playbackTimeUs, 0, .check _⟩, passed ++ [chunk], consumed, slQueue, callbacks,
      false⟩
    ⟨chunk, playbackTimeUs, 0, .write⟩ before monotonicUs rfl rfl hWritten
  have hWrite : ∀ call ∈ some (Call.enter chunk playbackTimeUs), call.phase = .write →
      (framesOf (player.frameSize platform.abi) call.chunk).length ≤ player.fifo.free := by
    rintro _ ⟨⟩ -
    exact hFree
  constructor
  · apply meets_cons_of_step rfl hStamp
    apply meets_cons_of_step rfl hWrite
    apply meets_cons_of_step rfl (by rintro _ ⟨⟩ ⟨⟩)
    apply meets_cons_of_step (hCheck _) (by rintro _ ⟨⟩ ⟨⟩)
    exact meets_cons_of_step rfl (by rintro _ ⟨⟩ ⟨⟩) trivial
  · exact ⟨_, run_cons_eq_some.mpr ⟨_, rfl, run_cons_eq_some.mpr ⟨_, rfl, run_cons_eq_some.mpr
      ⟨_, rfl, run_cons_eq_some.mpr ⟨_, hCheck _, run_cons_eq_some.mpr ⟨_, rfl, rfl⟩⟩⟩⟩⟩⟩

end Call

section Rounds

def roundClock (k : Nat) : Clock := ⟨1 + 128000 * k, 10000⟩

/-- One round of a mono stream of 8 kHz on a device with buffers of 1024 frames: a chunk of as
many frames, and the callback that plays them. The clock is right to the microsecond. -/
def round (k : Nat) : List Event :=
  System.wholeCall (List.replicate 2048 0) (mediaTimeUs 8000 (1024 * k + 1024)) (128000 * k) ++
    [.bufferFinished (roundClock k)]

def rounds (k : Nat) : Nat → List Event
  | 0 => []
  | count + 1 => round k ++ rounds (k + 1) count

/-- The player with so many frames in its FIFO after so many rounds. The callback plays, or
will start to when it runs next. -/
structure InTime (k fill : Nat) (player : State) : Prop where
  framesPerBuffers : player.globalFramesPerBuffers = 1024
  channels : player.currentNumChannels = 1
  samplesPerSec : player.currentSamplesPerSec = 8000
  sync : player.currentSyncSystemTimeUs = 1
  systemTimeOffset : player.currentSystemTimeOffsetUs = 0
  deviceLatency : player.currentDeviceLatency = 0
  capacity : player.fifo.capacity = 2400000
  fill : player.fifo.fill = fill
  queued : player.currentQueuedFrames = 1024 * k
  starts : player.currentIsPlaying = true ∧ player.accuracy = 10000 ∨
    player.currentIsPlaying = false ∧ player.accuracy = 0 ∧ k = 0

/-- The system between two rounds. -/
structure Steady (k : Nat) (marked : Marked) : Prop where
  halted : marked.system.halted = false
  call : marked.system.call = none
  slQueue : marked.system.slQueue ≠ []
  passed : (marked.system.passed.flatMap (framesOf 2)).length = 1024 * k
  inTime : InTime k 0 marked.system.player

theorem framesOf_chunk : (framesOf 2 (List.replicate 2048 0)).length = 1024 := by
  rw [framesOf_length, List.length_replicate]

variable {offset : Int → Int → Int} {k : Nat} {marked : Marked} {player : State}

theorem InTime.frameSize_eq {fill : Nat} (h : InTime k fill player) :
    player.frameSize .ilp32 = 2 := by
  rw [State.frameSize, h.channels]
  rfl

theorem InTime.enqueued (h : InTime k 0 player) (offset : Int → Int → Int) (monotonicUs : Int) :
    InTime k 1024 ((enqueued .ilp32 (List.replicate 2048 0) (mediaTimeUs 8000 (1024 * k + 1024))
      player).monitorPlayback ⟨.ilp32, offset⟩ monotonicUs).1 := by
  have hFill : (player.fifo.write (framesOf (player.frameSize .ilp32)
      (List.replicate 2048 0))).1.fill = 1024 := by
    have hEmpty : player.fifo.contents.length = 0 := h.fill
    rw [h.frameSize_eq, BoundedQueue.fill, BoundedQueue.write_contents_of_room, List.length_append,
      hEmpty, framesOf_chunk]
    rw [BoundedQueue.free, h.capacity, hEmpty, framesOf_chunk]
    decide
  unfold State.monitorPlayback
  dsimp only
  split_ifs <;>
    exact ⟨h.framesPerBuffers, h.channels, h.samplesPerSec, h.sync, h.systemTimeOffset,
      h.deviceLatency, h.capacity, hFill, h.queued, h.starts⟩

/-- The callback of a round starts to play without a drop, if it does not play already. -/
theorem InTime.decided {fill : Nat} (h : InTime k fill player) :
    (player.decided .ilp32 (roundClock k)).currentIsPlaying = true ∧
      (player.decided .ilp32 (roundClock k)).accuracy = 10000 ∧
      (player.decided .ilp32 (roundClock k)).fifo = player.fifo ∧
      (player.decided .ilp32 (roundClock k)).currentQueuedFrames =
        player.currentQueuedFrames := by
  unfold State.decided State.startPlayback
  rcases h.starts with ⟨hPlaying, hAccuracy⟩ | ⟨hIdle, hAccuracy, hFirst⟩
  · have hGoesOn : (!player.nextBuffer.currentIsPlaying &&
        player.nextBuffer.currentSyncSystemTimeUs ≠ 0) = false := by
      rw [show player.nextBuffer.currentIsPlaying = true from hPlaying]
      rfl
    rw [if_neg (by rw [hGoesOn]; exact Bool.false_ne_true)]
    exact ⟨hPlaying, hAccuracy, rfl, rfl⟩
  · have hDecides : (!player.nextBuffer.currentIsPlaying &&
        player.nextBuffer.currentSyncSystemTimeUs ≠ 0) = true := by
      simp [State.nextBuffer, hIdle, h.sync]
    have hDiff : player.nextBuffer.startDiff (roundClock k) = 0 := by
      simp [State.startDiff, State.nowUs, State.nextBuffer, roundClock, h.sync,
        h.systemTimeOffset, h.deviceLatency, hFirst]
    have hAccurate : (player.nextBuffer.decideStart (roundClock k)).accuracy = 10000 := by
      simp [State.decideStart, State.nextBuffer, roundClock, hAccuracy]
    rw [if_pos hDecides]
    dsimp only
    rw [hDiff, hAccurate, if_neg (by decide)]
    refine ⟨?_, hAccurate, rfl, rfl⟩
    show decide (player.nextBuffer.startDiff _ < (player.nextBuffer.decideStart _).accuracy) = true
    rw [hDiff, hAccurate]
    rfl

/-- The callback of a round plays all frames as they are, when its clock is right. -/
theorem InTime.bqPlayerCallback (h : InTime k 1024 player)
    (hLow : (player.measured .ilp32 (roundClock k)).playbackTimeUs .ilp32 * 8000 ≤
      (player.decided .ilp32 (roundClock k)).currentQueuedFrames * SECOND_MICRO)
    (hHigh : (player.decided .ilp32 (roundClock k)).currentQueuedFrames * SECOND_MICRO <
      ((player.measured .ilp32 (roundClock k)).playbackTimeUs .ilp32 + 2) * 8000) :
    ∃ run, Player.bqPlayerCallback .ilp32 (roundClock k) player = some run ∧
      InTime (k + 1) 0 run.player ∧ run.enqueued ≠ [] := by
  obtain ⟨hPlaying, hAccuracy, hFifo, hQueued⟩ := h.decided
  have hSame := State.sameSetup_measured .ilp32 (roundClock k) player
  have hDiff := State.currentDiff_measured .ilp32 (roundClock k) player
  have hSteady : (player.measured .ilp32 (roundClock k)).accuracy = 10000 := by
    obtain ⟨last, queue, diff, drop, hMeasured⟩ :=
      State.measure_frame .ilp32 (roundClock k) (player.decided .ilp32 (roundClock k))
    rw [State.measured, hMeasured]
    exact hAccuracy
  have hNow : (player.measured .ilp32 (roundClock k)).nowUs (roundClock k) = 1 + 128000 * k := by
    rw [State.nowUs, hSame.systemTimeOffset, hSame.deviceLatency, h.systemTimeOffset,
      h.deviceLatency, add_zero, add_zero]
    rfl
  rw [hQueued, h.queued] at hLow hHigh
  rw [hNow, hSame.syncSystemTime, h.sync] at hDiff
  have hJump : (player.measured .ilp32 (roundClock k)).jumpFor
      (player.measured .ilp32 (roundClock k)).currentDiff = .none := by
    have hHalf : (10000 : Int).tdiv 2 = 5000 := rfl
    have hMinus : (-10000 : Int).tdiv 2 = -5000 := rfl
    simp only [SECOND_MICRO] at hLow hHigh
    have hLate : ¬ 5000 ≤ (player.measured .ilp32 (roundClock k)).currentDiff := by omega
    have hEarly : ¬ (player.measured .ilp32 (roundClock k)).currentDiff ≤ -5000 := by omega
    rw [State.jumpFor, hSteady, hHalf, hMinus, if_neg hLate, if_neg hEarly, ite_self]
  obtain ⟨run, hRun, hFill, hCount, hPlays, hSame', hEnqueued⟩ :=
    bqPlayerCallback_plain hPlaying hJump (by rw [hFifo, h.fill, h.framesPerBuffers]; decide)
  have hSetup := sameSetup_bqPlayerCallback hRun
  rw [hFifo, h.fill, h.framesPerBuffers] at hFill hCount
  refine ⟨run, hRun, ⟨?_, ?_, ?_, ?_, ?_, ?_, ?_, ?_, ?_, ?_⟩, hEnqueued⟩
  · rw [hSetup.framesPerBuffers, h.framesPerBuffers]
  · rw [hSetup.channels, h.channels]
  · rw [hSetup.samplesPerSec, h.samplesPerSec]
  · rw [hSetup.syncSystemTime, h.sync]
  · rw [hSetup.systemTimeOffset, h.systemTimeOffset]
  · rw [hSetup.deviceLatency, h.deviceLatency]
  · rw [hSetup.capacity, h.capacity]
  · rw [hFill]
  · rw [hCount, hQueued, h.queued, min_self]
    push_cast
    ring
  · exact Or.inl ⟨hPlays, hSame'.trans hAccuracy⟩

/-- The frames of so many rounds do not overflow a correction. -/
theorem fits_round {queued : Int} {last : Nat} (hReached : (last : Int) ≤ queued)
    (hQueued : queued ≤ 2 ^ 32) : Fits 64 (SECOND_MICRO * (queued - last)) := by
  unfold SECOND_MICRO
  constructor
  · norm_num
    omega
  · norm_num at hQueued ⊢
    omega

/-- The call of a round is as supposed, and the callback finds its frames. -/
theorem Steady.wholeCall (h : Steady k marked) (offset : Int → Int → Int) :
    Meets (step ⟨.ilp32, offset⟩) (Supposed ⟨.ilp32, offset⟩) marked
        (System.wholeCall (List.replicate 2048 0) (mediaTimeUs 8000 (1024 * k + 1024))
          (128000 * k)) ∧
      ∃ middle, run (step ⟨.ilp32, offset⟩) marked
          (System.wholeCall (List.replicate 2048 0) (mediaTimeUs 8000 (1024 * k + 1024))
            (128000 * k)) = some middle ∧
        middle.system = { marked.system with
          player := ((Marked.enqueued .ilp32 (List.replicate 2048 0)
            (mediaTimeUs 8000 (1024 * k + 1024)) marked.system.player).monitorPlayback
              ⟨.ilp32, offset⟩ (128000 * k)).1
          passed := marked.system.passed ++ [List.replicate 2048 0] } ∧
        InTime k 1024 middle.system.player ∧ middle.system.halted = false ∧
        middle.system.slQueue ≠ [] := by
  have hSize := h.inTime.frameSize_eq
  have hFrames : (framesOf (marked.system.player.frameSize .ilp32)
      (List.replicate 2048 0)).length = 1024 := by rw [hSize, framesOf_chunk]
  have hFree : (framesOf (marked.system.player.frameSize .ilp32)
      (List.replicate 2048 0)).length ≤ marked.system.player.fifo.free := by
    have hEmpty : marked.system.player.fifo.contents.length = 0 := h.inTime.fill
    rw [hFrames, BoundedQueue.free, h.inTime.capacity, hEmpty]
    decide
  have hStamp : Supposed ⟨.ilp32, offset⟩ marked (.enqueuePCMFrames (List.replicate 2048 0)
      (mediaTimeUs 8000 (1024 * k + 1024))) := by
    show mediaTimeUs 8000 (1024 * k + 1024) = _
    rw [System.framesPassed, hFrames, hSize, h.passed, h.inTime.samplesPerSec]
  obtain ⟨hSupposed, marks, hRun⟩ := run_wholeCall ⟨.ilp32, offset⟩ marked.system marked.marks
    (mediaTimeUs 8000 (1024 * k + 1024)) (128000 * k) h.halted h.call
    (by rw [hFrames]; decide) hFree hStamp
  exact ⟨hSupposed, _, hRun, rfl, h.inTime.enqueued offset (128000 * k), h.halted, h.slQueue⟩

/-- The callback of a round. -/
theorem step_bufferFinished (platform : Platform) {clock : Clock}
    (hHalted : marked.system.halted = false) (hQueue : marked.system.slQueue ≠ []) {run : Run}
    (hRun : bqPlayerCallback platform.abi clock marked.system.player = some run) :
    step platform marked (.bufferFinished clock) = some ⟨{ marked.system with
      player := run.player
      consumed := marked.system.consumed ++ run.consumed
      slQueue := marked.system.slQueue.tail ++ run.enqueued
      callbacks := marked.system.callbacks ++ [run.enqueued] }, marked.marks⟩ := by
  obtain ⟨⟨player, call, passed, consumed, slQueue, callbacks, halted⟩, marks⟩ := marked
  dsimp only at hHalted hQueue hRun
  subst hHalted
  cases slQueue with
  | nil => exact absurd rfl hQueue
  | cons buffer rest =>
      simp [step, System.step, System.act, System.finishCallback, System.newMarks, hRun]

theorem step_bufferFinished_isSome (platform : Platform) (clock : Clock)
    (hHalted : marked.system.halted = false) (hQueue : marked.system.slQueue ≠ []) :
    ∃ next, step platform marked (.bufferFinished clock) = some next := by
  obtain ⟨⟨player, call, passed, consumed, slQueue, callbacks, halted⟩, marks⟩ := marked
  dsimp only at hHalted hQueue
  subst hHalted
  cases slQueue with
  | nil => exact absurd rfl hQueue
  | cons buffer rest => exact ⟨_, rfl⟩

/-- What the callback of a round needs to be accurate. -/
theorem InTime.inRange (h : InTime k 1024 marked.system.player)
    (hInStep : marked.InStep ⟨.ilp32, offset⟩ 2 8000) (hLess : k < 2 ^ 22) :
    marked.InRange ⟨.ilp32, offset⟩ (.bufferFinished (roundClock k)) := by
  intro _
  obtain ⟨hMeasured, hLatest⟩ := (Tracks.decided hInStep (roundClock k)).measure (roundClock k)
  have hReached := hMeasured.reached
  obtain ⟨-, -, -, hQueued⟩ := h.decided
  rw [State.queuedFrames_measure] at hReached
  rw [← hLatest]
  apply fits_round hReached
  show (marked.system.player.decided .ilp32 (roundClock k)).currentQueuedFrames ≤ _
  rw [hQueued, h.queued]
  norm_num at hLess ⊢
  omega

/-- A round within the range of `size_t`. -/
theorem Steady.round (h : Steady k marked) (hInStep : marked.InStep ⟨.ilp32, offset⟩ 2 8000)
    (hLess : k + 1 < 2 ^ 22) :
    Meets (step ⟨.ilp32, offset⟩) (Supposed ⟨.ilp32, offset⟩) marked (Marked.round k) ∧
      Meets (step ⟨.ilp32, offset⟩) (InRange ⟨.ilp32, offset⟩) marked (Marked.round k) ∧
      ∃ next, run (step ⟨.ilp32, offset⟩) marked (Marked.round k) = some next ∧
        Steady (k + 1) next ∧ next.InStep ⟨.ilp32, offset⟩ 2 8000 := by
  obtain ⟨hSupposed, middle, hCalled, hSystem, hReady, hHalted, hSlQueue⟩ := h.wholeCall offset
  have hFrames : (framesOf (marked.system.player.frameSize .ilp32)
      (List.replicate 2048 0)).length = 1024 := by rw [h.inTime.frameSize_eq, framesOf_chunk]
  have hRange : Meets (step ⟨.ilp32, offset⟩) (InRange ⟨.ilp32, offset⟩) marked
      (System.wholeCall (List.replicate 2048 0) (mediaTimeUs 8000 (1024 * k + 1024))
        (128000 * k)) := by
    intro entered hEnter
    constructor
    · show marked.system.framesPassed .ilp32 + _ < 2 ^ 32
      rw [framesPassed_eq hInStep, h.passed, hFrames]
      omega
    · exact meets_of_forall_mem (by simp [InRange])
  have hMiddle := (always_of_meets (fun _ _ _ hBefore hOk hStep => InStep.step hBefore hOk.1 hOk.2
    hStep) hInStep (hSupposed.and hRange)).of_run hCalled
  have hCallback := hReady.inRange hMiddle (by omega)
  have hNothing : middle.Supposed ⟨.ilp32, offset⟩ (.bufferFinished (roundClock k)) := trivial
  obtain ⟨-, hLow, hHigh⟩ := hMiddle.accurate hCallback hReady.decided.1
  rw [hReady.samplesPerSec] at hLow hHigh
  obtain ⟨run, hRun, hNext, hEnqueued⟩ := hReady.bqPlayerCallback hLow hHigh
  have hStep := step_bufferFinished ⟨.ilp32, offset⟩ hHalted hSlQueue hRun
  refine ⟨(meets_append hCalled).mpr ⟨hSupposed, meets_cons_of_step hStep hNothing trivial⟩,
    (meets_append hCalled).mpr ⟨hRange, meets_cons_of_step hStep hCallback trivial⟩,
    _, (run_append hCalled).trans (run_cons_eq_some.mpr ⟨_, hStep, rfl⟩),
    ⟨hHalted, ?_, ?_, ?_, hNext⟩, hMiddle.step hNothing hCallback hStep⟩
  · rw [hSystem]
    exact h.call
  · exact List.append_ne_nil_of_right_ne_nil _ hEnqueued
  · rw [hSystem, List.flatMap_append, List.length_append, h.passed, List.flatMap_singleton,
      framesOf_chunk]
    rfl

/-- Before a round no mark is ahead of the frames that have been enqueued. -/
theorem Steady.marks_le (h : Steady k marked) (hInStep : marked.InStep ⟨.ilp32, offset⟩ 2 8000) :
    marked.system.player.currentBufferedFrames = 1024 * k ∧
      ∀ mark ∈ marked.system.player.lastMark :: marked.system.player.currentPlaybackMarkQueue,
        mark.frameCount ≤ 1024 * k := by
  have hBuffered : marked.system.player.currentBufferedFrames = 1024 * k := by
    have hTotal := Tracks.buffered hInStep
    rw [h.call, h.passed] at hTotal
    exact hTotal
  refine ⟨hBuffered, fun mark hMark => ?_⟩
  obtain ⟨front, hSplit, -⟩ := Tracks.split hInStep
  rw [← hBuffered]
  exact (Tracks.stamped hInStep mark (by rw [hSplit]; exact List.mem_append_right _ hMark)).2

/-- A mark that has wrapped around to the first frame counts as reached. -/
theorem lastMark_wrapped {player : State} {frames : Nat} {marks : List PlaybackMark} {time : Int}
    (hQueue : (player.decided .ilp32 (roundClock k)).currentPlaybackMarkQueue =
      marks ++ [⟨0, time⟩])
    (hCount : (player.decided .ilp32 (roundClock k)).currentQueuedFrames = frames)
    (hMarks : ∀ mark ∈ (player.decided .ilp32 (roundClock k)).lastMark :: marks,
      mark.frameCount ≤ frames) :
    (player.measured .ilp32 (roundClock k)).lastMark = ⟨0, time⟩ := by
  have hNarrow : Abi.ilp32 = .lp64 → (frames : Int) < 2 ^ 64 := fun hAbi => nomatch hAbi
  have hReached : State.markReached .ilp32
      (player.decided .ilp32 (roundClock k)).lastMark.frameCount
      (player.decided .ilp32 (roundClock k)).currentQueuedFrames = true := by
    rw [hCount, markReached_iff (Int.natCast_nonneg _) hNarrow, Nat.cast_le]
    exact hMarks _ List.mem_cons_self
  rw [State.measured, State.lastMark_measure hReached, hQueue, hCount]
  apply dequeueMarks_all (Int.natCast_nonneg _) hNarrow
  intro mark hMark
  rw [List.mem_append, List.mem_singleton] at hMark
  rcases hMark with hOld | rfl
  · exact Nat.cast_le.mpr (hMarks mark (List.mem_cons_of_mem _ hOld))
  · exact Int.natCast_nonneg _

/-- The frames since a mark at the first frame are not corrected backwards. -/
theorem correction_nonneg_of_wrapped {player : State} {frames : Nat} {time : Int}
    (hQueued : player.currentQueuedFrames = frames) (hLastMark : player.lastMark = ⟨0, time⟩)
    (hSmall : frames ≤ 2 ^ 32) : 0 ≤ player.correction .ilp32 := by
  rw [State.correction_eq, hQueued, hLastMark]
  · dsimp only
    rw [Nat.cast_zero, sub_zero]
    exact Int.ediv_nonneg (mul_nonneg (by decide) (Int.natCast_nonneg _)) (Int.natCast_nonneg _)
  · rw [hQueued, hLastMark]
    exact Int.natCast_nonneg _
  · rw [hQueued, hLastMark]
    apply fits_round (Int.natCast_nonneg _)
    exact_mod_cast hSmall

/-- The round in which the frames wrap around. -/
theorem Steady.wraps (h : Steady k marked) (hInStep : marked.InStep ⟨.ilp32, offset⟩ 2 8000)
    (hLast : k + 1 = 2 ^ 22) :
    Meets (step ⟨.ilp32, offset⟩) (Supposed ⟨.ilp32, offset⟩) marked (Marked.round k) ∧
      ¬ Meets (step ⟨.ilp32, offset⟩) (Accurate ⟨.ilp32, offset⟩) marked (Marked.round k) := by
  obtain ⟨hSupposed, middle, hCalled, hSystem, hReady, hHalted, hSlQueue⟩ := h.wholeCall offset
  obtain ⟨next, hStep⟩ :=
    step_bufferFinished_isSome ⟨.ilp32, offset⟩ (roundClock k) hHalted hSlQueue
  refine ⟨(meets_append hCalled).mpr ⟨hSupposed, meets_cons_of_step hStep trivial trivial⟩,
    fun hMeets => ?_⟩
  obtain ⟨-, hLow, -⟩ := (((meets_append hCalled).mp hMeets).2 next hStep).1 hReady.decided.1
  obtain ⟨-, -, -, hQueued⟩ := hReady.decided
  have hKeeps := State.keepsMarks_decided .ilp32 (roundClock k) middle.system.player
  obtain ⟨hBuffered, hMarks⟩ := h.marks_le hInStep
  have hQueue : (middle.system.player.decided .ilp32 (roundClock k)).currentPlaybackMarkQueue =
      marked.system.player.currentPlaybackMarkQueue ++
        [⟨0, mediaTimeUs 8000 (1024 * k + 1024)⟩] := by
    rw [hKeeps.queue, hSystem,
      (State.keepsMarks_monitorPlayback ⟨.ilp32, offset⟩ (128000 * k) _).queue, Marked.enqueued,
      h.inTime.frameSize_eq, framesOf_chunk, hBuffered]
    have hWraps : ((1024 * k : Nat) : Int) + (1024 : Nat) = (2 ^ 32 : Nat) := by omega
    rw [hWraps]
    rfl
  have hKept : (middle.system.player.decided .ilp32 (roundClock k)).lastMark =
      marked.system.player.lastMark := by
    rw [hKeeps.lastMark, hSystem,
      (State.keepsMarks_monitorPlayback ⟨.ilp32, offset⟩ (128000 * k) _).lastMark]
    rfl
  have hCount : (middle.system.player.decided .ilp32 (roundClock k)).currentQueuedFrames =
      (1024 * k : Nat) := by
    rw [hQueued, hReady.queued]
    push_cast
    rfl
  have hLastMark := lastMark_wrapped hQueue hCount (hKept ▸ hMarks)
  have hMeasured : (middle.system.player.measured .ilp32 (roundClock k)).currentQueuedFrames =
      (1024 * k : Nat) := by rw [State.measured, State.queuedFrames_measure, hCount]
  have hCorrection := correction_nonneg_of_wrapped hMeasured hLastMark (by omega)
  rw [State.playbackTimeUs, hLastMark, hReady.samplesPerSec] at hLow
  rw [hCount] at hLow
  unfold mediaTimeUs SECOND_MICRO at hLow
  norm_num at hLow hLast
  omega

/-- The stream is synchronised before the first round. -/
theorem steady_start (offset : Int → Int → Int) :
    ∃ run synced, initPlayback .ilp32 ⟨0, 10000⟩ 8000#32 1#32 (State.boot 48000#32 1024#32) =
        some run ∧
      step ⟨.ilp32, offset⟩ (start run) (.syncPlayback 0 1 0) = some synced ∧
      Steady 0 synced ∧ synced.InStep ⟨.ilp32, offset⟩ 2 8000 := by
  obtain ⟨run, hInit⟩ := initPlayback_isSome .ilp32 ⟨0, 10000⟩ (State.boot 48000#32 1024#32)
    (by decide : 0 < State.fifoFrames 8000#32) (by decide : 0 < Abi.ilp32.size ((1#32).toNat * 2))
  have hInStep := inStep_start ⟨.ilp32, offset⟩ hInit
  obtain ⟨hPos, -, -, hRun⟩ := initPlayback_eq_some hInit
  have hPlayer : run.player = _ := congrArg Prod.fst hRun
  have hQueue : run.enqueued = _ := congrArg Prod.snd hRun
  have hStep : step ⟨.ilp32, offset⟩ (start run) (.syncPlayback 0 1 0) =
      some ⟨{ System.start run with
        player := (run.player.syncPlayback ⟨.ilp32, offset⟩ 0 1 0).1 }, []⟩ := rfl
  have hSupposed : (start run).Supposed ⟨.ilp32, offset⟩ (.syncPlayback 0 1 0) := trivial
  have hRange : (start run).InRange ⟨.ilp32, offset⟩ (.syncPlayback 0 1 0) := trivial
  have hNext := hInStep.step hSupposed hRange hStep
  refine ⟨run, _, hInit, hStep, ⟨rfl, rfl, ?_, rfl, ?_⟩, hNext⟩
  · show run.enqueued ≠ []
    rw [hQueue]
    exact List.cons_ne_nil _ _
  · show InTime 0 0 (run.player.syncPlayback ⟨.ilp32, offset⟩ 0 1 0).1
    rw [hPlayer]
    exact ⟨rfl, rfl, rfl, rfl, rfl, rfl, rfl, rfl, rfl, Or.inr ⟨rfl, rfl, rfl⟩⟩

theorem Steady.rounds (count : Nat) : ∀ {k marked}, Steady k marked →
    marked.InStep ⟨.ilp32, offset⟩ 2 8000 → k + count + 1 = 2 ^ 22 →
      Meets (step ⟨.ilp32, offset⟩) (Supposed ⟨.ilp32, offset⟩) marked (rounds k (count + 1)) ∧
        ¬ Meets (step ⟨.ilp32, offset⟩) (Accurate ⟨.ilp32, offset⟩) marked
          (rounds k (count + 1)) := by
  induction count with
  | zero =>
      intro k marked hSteady hInStep hLast
      simpa [Marked.rounds] using hSteady.wraps hInStep hLast
  | succ count ih =>
      intro k marked hSteady hInStep hLast
      obtain ⟨hSupposed, -, next, hRun, hNext, hNextInStep⟩ := hSteady.round hInStep (by omega)
      obtain ⟨hLater, hWrong⟩ := ih hNext hNextInStep (by omega)
      exact ⟨(meets_append hRun).mpr ⟨hSupposed, hLater⟩,
        fun hMeets => hWrong ((meets_append hRun).mp hMeets).2⟩

theorem meets_accurate_round :
    ∃ run, initPlayback .ilp32 ⟨0, 10000⟩ 8000#32 1#32 (State.boot 48000#32 1024#32) = some run ∧
      Meets (step ⟨.ilp32, fun _ _ => 0⟩) (Accurate ⟨.ilp32, fun _ _ => 0⟩) (start run)
        (.syncPlayback 0 1 0 :: round 0) := by
  obtain ⟨run, synced, hInit, hSynced, hSteady, hInStep⟩ := steady_start fun _ _ => 0
  obtain ⟨hSupposed, hRange, -⟩ := hSteady.round hInStep (by decide)
  exact ⟨run, hInit, meets_accurate _ _ _ _ _ run hInit _
    (meets_cons_of_step hSynced trivial hSupposed) (meets_cons_of_step hSynced trivial hRange)⟩

/-- With a 32 bit `size_t`, after six days of a mono stream of 8 kHz: its last mark counts
2^32 frames, which wraps around to 0. -/
theorem not_meets_accurate_wrapped :
    ∃ run, initPlayback .ilp32 ⟨0, 10000⟩ 8000#32 1#32 (State.boot 48000#32 1024#32) = some run ∧
      Meets (step ⟨.ilp32, fun _ _ => 0⟩) (Supposed ⟨.ilp32, fun _ _ => 0⟩) (start run)
        (.syncPlayback 0 1 0 :: rounds 0 (2 ^ 22)) ∧
      ¬ Meets (step ⟨.ilp32, fun _ _ => 0⟩) (Accurate ⟨.ilp32, fun _ _ => 0⟩) (start run)
        (.syncPlayback 0 1 0 :: rounds 0 (2 ^ 22)) := by
  obtain ⟨run, synced, hInit, hSynced, hSteady, hInStep⟩ := steady_start fun _ _ => 0
  obtain ⟨hSupposed, hWrong⟩ := hSteady.rounds (2 ^ 22 - 1) hInStep (by decide)
  exact ⟨run, hInit, meets_cons_of_step hSynced trivial hSupposed,
    fun hMeets => hWrong (hMeets synced hSynced).2⟩

end Rounds

end Marked

end AudioSync.Player
