import AudioSync.Player.Marks
import AudioSync.Player.CatchUp

/-! Two successive runs of the callback: what the second one measures is what the first one
has left of the lateness. -/
namespace AudioSync.Player

open MachineInt

/-- The lateness keeps its sign and does not grow, up to two microseconds of rounding. After
a correction that was not cut short it is less than a frame. -/
structure Converges (uncapped : Prop) (rate : Nat) (diff diff' : Int) : Prop where
  late : 0 ≤ diff → -2 ≤ diff' ∧ diff' ≤ diff + 2
  early : diff ≤ 0 → diff - 2 ≤ diff' ∧ diff' ≤ 2
  corrected : uncapped → |diff'| * rate < SECOND_MICRO + 2 * rate

/-- From the lateness that exact arithmetic would leave, times the rate. -/
theorem Converges.of_rest {uncapped : Prop} {rate : Nat} {diff diff' rest : Int}
    (hRate : 0 < rate) (hRest : |diff' * rate - rest| < 2 * rate)
    (hLate : 0 ≤ diff → 0 ≤ rest ∧ rest ≤ diff * rate)
    (hEarly : diff ≤ 0 → diff * rate ≤ rest ∧ rest ≤ 0)
    (hCorrected : uncapped → |rest| < SECOND_MICRO) : Converges uncapped rate diff diff' := by
  have hPos : (0 : Int) < rate := by exact_mod_cast hRate
  obtain ⟨hLow, hHigh⟩ := abs_lt.mp hRest
  constructor
  · intro hNonneg
    obtain ⟨hZero, hLess⟩ := hLate hNonneg
    have hAbove : (-2) * (rate : Int) < diff' * rate := by linarith
    have hBelow : diff' * rate < (diff + 2) * rate := by linarith
    have hAbove' := lt_of_mul_lt_mul_right hAbove hPos.le
    have hBelow' := lt_of_mul_lt_mul_right hBelow hPos.le
    omega
  · intro hNonpos
    obtain ⟨hMore, hZero⟩ := hEarly hNonpos
    have hAbove : (diff - 2) * rate < diff' * rate := by linarith
    have hBelow : diff' * rate < 2 * (rate : Int) := by linarith
    have hAbove' := lt_of_mul_lt_mul_right hAbove hPos.le
    have hBelow' := lt_of_mul_lt_mul_right hBelow hPos.le
    omega
  · intro hUncapped
    obtain ⟨hLess, hMore⟩ := abs_lt.mp (hCorrected hUncapped)
    rw [← abs_of_pos hPos, ← abs_mul, abs_of_pos hPos]
    exact abs_lt.mpr ⟨by linarith, by linarith⟩

/-- After a correction that was not cut short, little must be left. -/
theorem Converges.rest_lt {uncapped : Prop} {rate : Nat} {diff diff' rest : Int}
    (h : Converges uncapped rate diff diff') (hUncapped : uncapped) (hRate : 0 < rate)
    (hRest : |diff' * rate - rest| < 2 * rate) : |rest| < SECOND_MICRO + 4 * rate := by
  have hPos : (0 : Int) < rate := by exact_mod_cast hRate
  have hLess := h.corrected hUncapped
  rw [← abs_of_pos hPos, ← abs_mul, abs_of_pos hPos] at hLess
  obtain ⟨hLow, hHigh⟩ := abs_lt.mp hRest
  obtain ⟨hLow', hHigh'⟩ := abs_lt.mp hLess
  exact abs_lt.mpr ⟨by linarith, by linarith⟩

namespace State

/-- The marks place the next frame, and so many frames behind it, exactly: they are stamped
without rounding, and none of them is too long ago for the arithmetic of the callback. -/
structure ExactMarks (ahead : Nat) (player : State) : Prop where
  reached : (player.lastMark.frameCount : Int) ≤ player.currentQueuedFrames
  exact : ∀ mark ∈ player.lastMark :: player.currentPlaybackMarkQueue,
    mark.playbackTimeUs * player.currentSamplesPerSec = mark.frameCount * SECOND_MICRO
  recent : ∀ mark ∈ player.lastMark :: player.currentPlaybackMarkQueue,
    player.currentQueuedFrames + ahead ≤ mark.frameCount + 2 ^ 43
  small : player.currentQueuedFrames + ahead < 2 ^ 63

section Exact

variable {abi : Abi} {player : State} {ahead : Nat}

/-- The marks that are left were there before, and the last one has been reached. -/
theorem dequeueMarks_mem {queuedFrames : Int} {last : PlaybackMark} (hNonneg : 0 ≤ queuedFrames)
    (hLess : abi = .lp64 → queuedFrames < 2 ^ 64)
    (hReached : (last.frameCount : Int) ≤ queuedFrames)
    (queue : List PlaybackMark) :
    ((dequeueMarks abi queuedFrames last queue).1.frameCount : Int) ≤ queuedFrames ∧
      ∀ mark ∈ (dequeueMarks abi queuedFrames last queue).1 ::
        (dequeueMarks abi queuedFrames last queue).2, mark ∈ last :: queue := by
  obtain ⟨taken, hQueue, hLast, hTaken, -⟩ := dequeueMarks_spec hNonneg hLess queue last
  have hMem : (dequeueMarks abi queuedFrames last queue).1 ∈ last :: taken := by
    rw [hLast]
    exact List.getLastD_mem_cons
  constructor
  · rcases List.mem_cons.mp hMem with hSame | hOther
    · rw [hSame]
      exact hReached
    · exact hTaken _ hOther
  · intro mark hMark
    rw [hQueue, ← List.cons_append]
    rcases List.mem_cons.mp hMark with rfl | hRest
    · exact List.mem_append_left _ hMem
    · exact List.mem_append_right _ hRest

theorem ExactMarks.advanceMarks (h : player.ExactMarks ahead) :
    (player.advanceMarks abi).ExactMarks ahead := by
  have hNonneg : 0 ≤ player.currentQueuedFrames := (Int.natCast_nonneg _).trans h.reached
  have hLess : abi = .lp64 → player.currentQueuedFrames < 2 ^ 64 := by
    have hSmall := h.small
    omega
  have hAdvanced : player.advanceMarks abi = { player with
      lastMark := (dequeueMarks abi player.currentQueuedFrames player.lastMark
        player.currentPlaybackMarkQueue).1
      currentPlaybackMarkQueue := (dequeueMarks abi player.currentQueuedFrames
        player.lastMark player.currentPlaybackMarkQueue).2 } :=
    if_pos ((markReached_iff hNonneg hLess).mpr h.reached)
  obtain ⟨hReached, hMem⟩ :=
    dequeueMarks_mem hNonneg hLess h.reached player.currentPlaybackMarkQueue
  rw [hAdvanced]
  exact ⟨hReached, fun mark hMark => h.exact mark (hMem mark hMark),
    fun mark hMark => h.recent mark (hMem mark hMark), h.small⟩

theorem ExactMarks.measure (h : player.ExactMarks ahead) (clock : Clock) :
    (player.measure abi clock).ExactMarks ahead := by
  have hAdvanced : (player.advanceMarks abi).ExactMarks ahead := h.advanceMarks
  exact ⟨hAdvanced.reached, hAdvanced.exact, hAdvanced.recent, hAdvanced.small⟩

/-- Marks that are exact ahead are exact when so many frames have been counted. -/
theorem ExactMarks.of_keepsMarks {next : State} (h : player.ExactMarks ahead)
    (hKeeps : KeepsMarks player next)
    (hAhead : next.currentQueuedFrames ≤ player.currentQueuedFrames + ahead) :
    next.ExactMarks 0 := by
  have hReached := h.reached
  have hQueued := hKeeps.queued
  have hSmall := h.small
  refine ⟨?_, ?_, ?_, ?_⟩
  · rw [hKeeps.lastMark]
    omega
  · rw [hKeeps.lastMark, hKeeps.queue, hKeeps.samplesPerSec]
    exact h.exact
  · rw [hKeeps.lastMark, hKeeps.queue]
    intro mark hMark
    have hRecent := h.recent mark hMark
    omega
  · omega

/-- The media time of the callback is that of its position, rounded down. -/
theorem ExactMarks.playbackTimeUs (h : player.ExactMarks ahead) :
    player.playbackTimeUs abi =
      player.currentQueuedFrames * SECOND_MICRO / player.currentSamplesPerSec := by
  have hPos : (0 : Int) < player.currentSamplesPerSec := by
    exact_mod_cast player.samplesPerSec_pos
  have hExact := h.exact player.lastMark List.mem_cons_self
  have hRecent := h.recent player.lastMark List.mem_cons_self
  have hReached := h.reached
  have hFits : Fits 64 (SECOND_MICRO *
      (player.currentQueuedFrames - player.lastMark.frameCount)) := by
    unfold SECOND_MICRO
    constructor
    · norm_num
      omega
    · norm_num at hRecent ⊢
      omega
  have hProduct : player.currentQueuedFrames * SECOND_MICRO =
      SECOND_MICRO * (player.currentQueuedFrames - player.lastMark.frameCount) +
        player.lastMark.playbackTimeUs * player.currentSamplesPerSec := by
    rw [hExact]
    ring
  rw [State.playbackTimeUs, correction_eq hReached hFits, hProduct,
    Int.add_mul_ediv_right _ _ hPos.ne', add_comm]

/-- A player that plays has nothing to decide. -/
theorem decided_of_playing (abi : Abi) (clock : Clock) (hPlaying : player.currentIsPlaying = true) :
    player.decided abi clock = player.nextBuffer := by
  have hDecides : ¬ (!player.nextBuffer.currentIsPlaying &&
      player.nextBuffer.currentSyncSystemTimeUs ≠ 0) = true := by
    rw [show player.nextBuffer.currentIsPlaying = true from hPlaying]
    exact Bool.false_ne_true
  unfold decided startPlayback
  rw [if_neg hDecides]

theorem ExactMarks.measured (h : player.ExactMarks ahead) (clock : Clock)
    (hPlaying : player.currentIsPlaying = true) : (player.measured abi clock).ExactMarks ahead := by
  have hNext : player.nextBuffer.ExactMarks ahead := ⟨h.reached, h.exact, h.recent, h.small⟩
  rw [State.measured, decided_of_playing abi clock hPlaying]
  exact hNext.measure clock

theorem queuedFrames_measured (clock : Clock) (hPlaying : player.currentIsPlaying = true) :
    (player.measured abi clock).currentQueuedFrames = player.currentQueuedFrames := by
  rw [State.measured, queuedFrames_measure, decided_of_playing abi clock hPlaying]
  rfl

/-- The lateness that is measured with exact marks. -/
theorem ExactMarks.currentDiff (h : player.ExactMarks ahead) (clock : Clock)
    (hPlaying : player.currentIsPlaying = true) :
    (player.measured abi clock).currentDiff = player.nowUs clock -
      (player.currentSyncSystemTimeUs +
        player.currentQueuedFrames * SECOND_MICRO / player.currentSamplesPerSec) := by
  have hSame := sameSetup_measured abi clock player
  rw [currentDiff_measured, (h.measured clock hPlaying).playbackTimeUs, nowUs, nowUs,
    queuedFrames_measured clock hPlaying, hSame.systemTimeOffset, hSame.deviceLatency,
    hSame.syncSystemTime, hSame.samplesPerSec]

/-- The lateness after a buffer has been played, when more frames than the buffer has were
counted. -/
theorem nextDiff_bounds {next : State} {clock clock' : Clock} {frames : Nat} {surplus : Int}
    (hMarks : player.ExactMarks ahead) (hNext : next.ExactMarks 0) (hSame : SameSetup player next)
    (hPlaying : player.currentIsPlaying = true) (hPlaying' : next.currentIsPlaying = true)
    (hQueued : next.currentQueuedFrames = player.currentQueuedFrames + frames + surplus)
    (hClock : |(clock'.coarseTimeUs - clock.coarseTimeUs) * player.currentSamplesPerSec -
      frames * SECOND_MICRO| < player.currentSamplesPerSec) :
    |(next.measured abi clock').currentDiff * player.currentSamplesPerSec -
        ((player.measured abi clock).currentDiff * player.currentSamplesPerSec -
          surplus * SECOND_MICRO)| < 2 * player.currentSamplesPerSec := by
  have hPos : (0 : Int) < player.currentSamplesPerSec := by
    exact_mod_cast player.samplesPerSec_pos
  have hFloor := Int.ediv_mul_le (player.currentQueuedFrames * SECOND_MICRO) hPos.ne'
  have hFloor' := Int.ediv_mul_le (next.currentQueuedFrames * SECOND_MICRO) hPos.ne'
  have hCeil := Int.lt_ediv_add_one_mul_self (player.currentQueuedFrames * SECOND_MICRO) hPos
  have hCeil' := Int.lt_ediv_add_one_mul_self (next.currentQueuedFrames * SECOND_MICRO) hPos
  obtain ⟨hLow, hHigh⟩ := abs_lt.mp hClock
  rw [hMarks.currentDiff clock hPlaying, hNext.currentDiff clock' hPlaying', nowUs, nowUs,
    hSame.systemTimeOffset, hSame.deviceLatency, hSame.syncSystemTime, hSame.samplesPerSec]
  rw [abs_lt]
  generalize player.currentQueuedFrames * SECOND_MICRO / player.currentSamplesPerSec = time at *
  generalize next.currentQueuedFrames * SECOND_MICRO / player.currentSamplesPerSec = time' at *
  rw [hQueued] at hFloor' hCeil'
  constructor <;> linarith


/-- A run that plays is one of `play`. -/
theorem bqPlayerCallback_of_playing {clock : Clock} (hPlaying : player.currentIsPlaying = true) :
    bqPlayerCallback abi clock player =
      ((player.measured abi clock).play abi (player.nextBuffer.bufPtr abi)).map fun run =>
        { run with consumed := player.skipped abi clock ++ run.consumed } := by
  have hDecided : (player.decided abi clock).currentIsPlaying = true := by
    rw [decided_of_playing abi clock hPlaying]
    exact hPlaying
  rw [bqPlayerCallback_eq]
  dsimp only
  rw [if_pos hDecided]
  rfl

/-- What measuring leaves alone. -/
theorem measured_of_playing (abi : Abi) (clock : Clock)
    (hPlaying : player.currentIsPlaying = true) :
    (player.measured abi clock).fifo = player.fifo ∧
      (player.measured abi clock).currentIsPlaying = true ∧
      (player.measured abi clock).accuracy = player.accuracy ∧
      (player.measured abi clock).frameSize abi = player.frameSize abi := by
  obtain ⟨last, queue, diff, drop, hMeasured⟩ :=
    measure_frame abi clock (player.decided abi clock)
  rw [State.measured, hMeasured, decided_of_playing abi clock hPlaying]
  exact ⟨rfl, hPlaying, rfl, rfl⟩

end Exact

section Outcome

variable {abi : Abi} {player : State}

/-- The bytes of a device buffer, computed in two ways. -/
theorem size_frames
    (hLess : player.globalFramesPerBuffers * player.frameSize abi < MAX_BUFFER_SIZE) :
    abi.size (player.globalFramesPerBuffers * player.currentNumChannels * 2) =
        player.globalFramesPerBuffers * player.frameSize abi ∧
      player.maxBufferSize abi = player.globalFramesPerBuffers * player.frameSize abi := by
  have hWide := abi.two_pow_bits_ge
  have hSmall : player.globalFramesPerBuffers * player.frameSize abi < 2 ^ abi.bits := by
    simp only [MAX_BUFFER_SIZE] at hLess
    omega
  constructor
  · rw [size_frameCount, Nat.mod_eq_of_lt hSmall]
  · rw [maxBufferSize, Abi.size_mul, Nat.mod_eq_of_lt hSmall]

/-- A run that enqueues a whole buffer and counts more frames than it has. -/
structure EnqueuesWhole (abi : Abi) (player : State) (surplus : Int) (run : Run) : Prop where
  buffer : ∃ buffer, run.enqueued = [buffer] ∧
    buffer.data.length = player.globalFramesPerBuffers * player.frameSize abi
  queued : run.player.currentQueuedFrames =
    player.currentQueuedFrames + player.globalFramesPerBuffers + surplus

theorem slBuffer_whole
    (hLess : player.globalFramesPerBuffers * player.frameSize abi < MAX_BUFFER_SIZE)
    (address : Nat) (filled : State) :
    (filled.slBuffer address
        (player.globalFramesPerBuffers * player.frameSize abi)).data.length =
      player.globalFramesPerBuffers * player.frameSize abi := by
  simp only [MAX_BUFFER_SIZE] at hLess
  rw [slBuffer_length]
  exact toUnsigned_of_lt (by omega)

/-- A buffer of silence counts the frames behind the silence, if there are any. -/
def silenceSurplus (abi : Abi) (frames fill : Nat) (drop : Int) : Int :=
  if drop < frames then (min (abi.size (frames - drop)) fill : Nat) - (frames : Int)
  else -(frames : Int)

theorem playSilence_whole (bufPtr : Nat)
    (hLess : player.globalFramesPerBuffers * player.frameSize abi < MAX_BUFFER_SIZE)
    (drop : Int) :
    player.EnqueuesWhole abi
      (silenceSurplus abi player.globalFramesPerBuffers player.fifo.fill drop)
      (player.playSilence abi bufPtr drop) := by
  have hSize := (size_frames hLess).2
  unfold playSilence silenceSurplus
  dsimp only
  split_ifs with hRoom hSome
  · refine ⟨⟨_, rfl, ?_⟩, ?_⟩
    · rw [hSize]
      exact slBuffer_whole hLess _ _
    · show player.currentQueuedFrames + _ = _
      rw [fifoRead_frames, BoundedQueue.read_length]
      ring
  · refine ⟨⟨_, rfl, ?_⟩, ?_⟩
    · show (slBuffer _ _ (player.maxBufferSize abi)).data.length = _
      rw [hSize]
      exact slBuffer_whole hLess _ _
    · show player.currentQueuedFrames = _
      rw [fifoRead_frames, BoundedQueue.read_length] at hSome
      omega
  · refine ⟨⟨_, rfl, ?_⟩, ?_⟩
    · show (slBuffer _ _ (player.maxBufferSize abi)).data.length = _
      rw [hSize]
      exact slBuffer_whole hLess _ _
    · show player.currentQueuedFrames = _
      ring

theorem playFrames_whole (bufPtr : Nat)
    (hLess : player.globalFramesPerBuffers * player.frameSize abi < MAX_BUFFER_SIZE)
    (hPos : 0 < player.globalFramesPerBuffers)
    (hFill : player.globalFramesPerBuffers ≤ player.fifo.fill) :
    ∃ run, player.playFrames abi bufPtr player.globalFramesPerBuffers none = some run ∧
      player.EnqueuesWhole abi 0 run := by
  have hCount : min player.globalFramesPerBuffers player.fifo.fill =
      player.globalFramesPerBuffers := Nat.min_eq_left hFill
  have hRun : player.playFrames abi bufPtr player.globalFramesPerBuffers none = _ :=
    playFrames_of_plain (by omega) (Or.inl rfl)
  rw [hCount] at hRun
  refine ⟨_, hRun, ⟨_, rfl, ?_⟩, ?_⟩
  · show (slBuffer _ _ (abi.size
      (player.globalFramesPerBuffers * player.currentNumChannels * 2))).data.length = _
    rw [(size_frames hLess).1]
    exact slBuffer_whole hLess _ _
  · exact (add_zero _).symm

/-- A full read of a callback that is catching up: all frames are counted, if the run returns. -/
theorem playFrames_squeezed (bufPtr : Nat)
    (hLess : player.globalFramesPerBuffers * player.frameSize abi < MAX_BUFFER_SIZE)
    {requestFrames : Nat} (hPos : 0 < requestFrames) (hFill : requestFrames ≤ player.fifo.fill)
    (drop : Int) :
    ((player.playFrames abi bufPtr requestFrames (some drop)).isSome ↔
        drop ≠ 0 ∧ (0 < drop → toSigned 32 ((requestFrames : Int).tdiv drop) ≠ 0)) ∧
      ∀ run, player.playFrames abi bufPtr requestFrames (some drop) = some run →
        player.EnqueuesWhole abi (player.surplus abi requestFrames) run := by
  have hCount : (player.fifo.read requestFrames).2.length = requestFrames := by
    rw [BoundedQueue.read_length, min_eq_left hFill]
  have hReturns : ((player.fifoRead (2 * bufPtr) requestFrames).1.squeeze abi bufPtr requestFrames
      drop).isSome ↔ _ := squeeze_isSome_iff abi bufPtr _ hPos
  constructor
  · rw [← hReturns, playFrames_of_full hPos hFill, Option.isSome_map]
  · intro run hRun
    cases played_of_playFrames hRun with
    | starved hNone => omega
    | plain hSome hPlain =>
        rcases hPlain with hNone | hShort
        · cases hNone
        · exact absurd hCount hShort
    | squeezed hSome hDrop hFull hSqueeze =>
        rw [hCount] at hSqueeze
        obtain ⟨-, memory, -, rfl⟩ := squeeze_eq_some hSqueeze
        refine ⟨⟨_, rfl, ?_⟩, ?_⟩
        · show (slBuffer _ _ (abi.size
            (player.globalFramesPerBuffers * player.currentNumChannels * 2))).data.length = _
          rw [(size_frames hLess).1]
          exact slBuffer_whole hLess _ _
        · show player.currentQueuedFrames + player.surplus abi requestFrames + _ = _
          ring

end Outcome

end State

end AudioSync.Player
