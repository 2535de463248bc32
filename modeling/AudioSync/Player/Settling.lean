import AudioSync.Player.Lateness

/-! The corrections of a playing callback, one for each way in which it jumps. -/
namespace AudioSync.Player

open MachineInt

namespace State

/-- How many frames a run that plays asks the FIFO for. -/
def requestedFrames (abi : Abi) (clock : Clock) (player : State) : Nat :=
  let measured := player.measured abi clock
  match measured.jumpFor measured.currentDiff with
  | .none => measured.globalFramesPerBuffers
  | .speedUp => (measured.speedUpRequest abi measured.currentDrop).1
  | .silence =>
      if -measured.currentDrop < measured.globalFramesPerBuffers then
        abi.size (measured.globalFramesPerBuffers - -measured.currentDrop)
      else 0

/-- A player that corrects its lateness: it plays with jumps enabled on a device whose buffer
is smaller than `MAX_BUFFER_SIZE`, its marks are exact, and the FIFO holds what is requested. -/
structure Corrects (abi : Abi) (clock : Clock) (player : State) : Prop where
  playing : player.currentIsPlaying = true
  enableJumps : player.currentEnableJumps = true
  accuracy : 0 ≤ player.accuracy
  samplesPerSec : player.currentSamplesPerSec < 2 ^ 32
  size_pos : 0 < player.globalFramesPerBuffers * player.frameSize abi
  size_lt : player.globalFramesPerBuffers * player.frameSize abi < MAX_BUFFER_SIZE
  marks : player.ExactMarks (player.fifo.fill + 2 ^ 33)
  requested : player.requestedFrames abi clock ≤ player.fifo.fill

/-- From one clock reading to the other the frames of a buffer are played, up to a microsecond. -/
def PlaysFor (abi : Abi) (player : State) (buffer : SLBuffer) (clock clock' : Clock) : Prop :=
  |(clock'.coarseTimeUs - clock.coarseTimeUs) * player.currentSamplesPerSec -
    (buffer.data.length / player.frameSize abi : Nat) * SECOND_MICRO| < player.currentSamplesPerSec

/-- There is a correction, and it is cut short neither by `MAX_BUFFER_SIZE` nor by the length
of one silent buffer. -/
def Uncapped (abi : Abi) (clock : Clock) (player : State) : Prop :=
  let measured := player.measured abi clock
  match measured.jumpFor measured.currentDiff with
  | .none => False
  | .speedUp =>
      measured.tooLarge abi
        (abi.size (measured.globalFramesPerBuffers + measured.currentDrop)) = false
  | .silence => -measured.currentDrop ≤ measured.globalFramesPerBuffers

/-- A run of the callback enqueues one buffer, and the run after that buffer has been played
measures no more than what may be left. -/
def Settles (abi : Abi) (clock : Clock) (player : State) : Prop :=
  ∃ run buffer, bqPlayerCallback abi clock player = some run ∧ run.enqueued = [buffer] ∧
    ∀ clock', player.PlaysFor abi buffer clock clock' →
      Converges (player.Uncapped abi clock) player.currentSamplesPerSec
        (player.measured abi clock).currentDiff (run.player.measured abi clock').currentDiff

/-- The product of lateness and rate does not overflow, nor does the request, unless the
correction is cut short anyway; and there is a frame to drop when the callback is late. -/
def CountsLateness (abi : Abi) (clock : Clock) (player : State) : Prop :=
  let measured := player.measured abi clock
  match measured.jumpFor measured.currentDiff with
  | .none => True
  | .speedUp =>
      if measured.tooLarge abi
          (abi.size (measured.globalFramesPerBuffers + measured.currentDrop)) = true then
        measured.globalFramesPerBuffers < measured.maxFrames abi
      else Fits 64 (measured.currentDiff * measured.currentSamplesPerSec) ∧
        0 < measured.currentDrop ∧
        (measured.globalFramesPerBuffers : Int) + measured.currentDrop < 2 ^ abi.bits
  | .silence =>
      Fits 64 (measured.currentDiff * measured.currentSamplesPerSec) ∨
        measured.globalFramesPerBuffers < -measured.currentDrop

section Settling

variable {abi : Abi} {clock : Clock} {player : State}

namespace Corrects

theorem frameSize_pos (h : player.Corrects abi clock) : 0 < player.frameSize abi :=
  Nat.pos_of_mul_pos_left h.size_pos

/-- What is left after a run that enqueues a whole buffer. -/
theorem rest_bounds (h : player.Corrects abi clock) {run : Run} {surplus : Int}
    (hPlay : (player.measured abi clock).play abi (player.nextBuffer.bufPtr abi) = some run)
    (hWhole : (player.measured abi clock).EnqueuesWhole abi surplus run)
    (hAhead : player.globalFramesPerBuffers + surplus ≤ player.fifo.fill + 2 ^ 33)
    {buffer : SLBuffer} (hBuffer : run.enqueued = [buffer]) {clock' : Clock}
    (hClock : player.PlaysFor abi buffer clock clock') :
    |(run.player.measured abi clock').currentDiff * player.currentSamplesPerSec -
        ((player.measured abi clock).currentDiff * player.currentSamplesPerSec -
          surplus * SECOND_MICRO)| < 2 * player.currentSamplesPerSec := by
  have hSame := sameSetup_measured abi clock player
  obtain ⟨-, hPlaying, -, hFrameSize⟩ := measured_of_playing abi clock h.playing
  have hQueued := hWhole.queued
  rw [queuedFrames_measured clock h.playing, hSame.framesPerBuffers] at hQueued
  have hNext : run.player.ExactMarks 0 := by
    apply (h.marks.measured clock h.playing).of_keepsMarks (keepsMarks_play hPlay)
    rw [hQueued, queuedFrames_measured clock h.playing]
    push_cast
    omega
  have hFrames : buffer.data.length / player.frameSize abi = player.globalFramesPerBuffers := by
    obtain ⟨other, hOther, hLength⟩ := hWhole.buffer
    rw [hBuffer] at hOther
    cases hOther
    rw [hLength, hSame.framesPerBuffers, hFrameSize, Nat.mul_div_cancel _ h.frameSize_pos]
  unfold PlaysFor at hClock
  rw [hFrames] at hClock
  exact nextDiff_bounds h.marks hNext (hSame.trans (sameSetup_play hPlay)) h.playing
    ((isPlaying_play hPlay).trans hPlaying) hQueued hClock

/-- A clock that goes on for the length of a buffer. -/
theorem exists_playsFor (abi : Abi) (clock : Clock) (player : State) (buffer : SLBuffer) :
    ∃ clock', player.PlaysFor abi buffer clock clock' := by
  have hPos : (0 : Int) < player.currentSamplesPerSec := by
    exact_mod_cast player.samplesPerSec_pos
  have hFloor := Int.ediv_mul_le
    (((buffer.data.length / player.frameSize abi : Nat) : Int) * SECOND_MICRO) hPos.ne'
  have hCeil := Int.lt_ediv_add_one_mul_self
    (((buffer.data.length / player.frameSize abi : Nat) : Int) * SECOND_MICRO) hPos
  refine ⟨⟨clock.coarseTimeUs + ((buffer.data.length / player.frameSize abi : Nat) : Int) *
    SECOND_MICRO / player.currentSamplesPerSec, 0⟩, ?_⟩
  unfold PlaysFor
  rw [add_sub_cancel_left, abs_lt]
  constructor <;> linarith

/-- Runs of `play` that enqueue a whole buffer settle when the rest is small enough. -/
theorem settles_of_whole (h : player.Corrects abi clock) {run : Run} {surplus : Int}
    (hPlay : (player.measured abi clock).play abi (player.nextBuffer.bufPtr abi) = some run)
    (hWhole : (player.measured abi clock).EnqueuesWhole abi surplus run)
    (hAhead : player.globalFramesPerBuffers + surplus ≤ player.fifo.fill + 2 ^ 33)
    (hConverges : ∀ diff',
      |diff' * player.currentSamplesPerSec -
        ((player.measured abi clock).currentDiff * player.currentSamplesPerSec -
          surplus * SECOND_MICRO)| < 2 * player.currentSamplesPerSec →
      Converges (player.Uncapped abi clock) player.currentSamplesPerSec
        (player.measured abi clock).currentDiff diff') : player.Settles abi clock := by
  obtain ⟨buffer, hBuffer, -⟩ := hWhole.buffer
  refine ⟨{ run with consumed := player.skipped abi clock ++ run.consumed }, buffer, ?_, hBuffer,
    fun clock' hClock => hConverges _ (h.rest_bounds hPlay hWhole hAhead hBuffer hClock)⟩
  rw [bqPlayerCallback_of_playing h.playing, hPlay]
  rfl

/-- After an uncapped correction that settles little is left. -/
theorem rest_of_settles (h : player.Corrects abi clock) (hSettles : player.Settles abi clock)
    (hUncapped : player.Uncapped abi clock) :
    ∃ run, (player.measured abi clock).play abi (player.nextBuffer.bufPtr abi) = some run ∧
      run.enqueued ≠ [] ∧
      ∀ surplus, (player.measured abi clock).EnqueuesWhole abi surplus run →
        player.globalFramesPerBuffers + surplus ≤ player.fifo.fill + 2 ^ 33 →
        |(player.measured abi clock).currentDiff * player.currentSamplesPerSec -
          surplus * SECOND_MICRO| < SECOND_MICRO + 4 * player.currentSamplesPerSec := by
  obtain ⟨run, buffer, hRun, hBuffer, hConverges⟩ := hSettles
  rw [bqPlayerCallback_of_playing h.playing] at hRun
  obtain ⟨played, hPlay, rfl⟩ := Option.map_eq_some_iff.mp hRun
  have hEnqueued : played.enqueued = [buffer] := hBuffer
  refine ⟨played, hPlay, by rw [hEnqueued]; exact List.cons_ne_nil _ _, ?_⟩
  intro surplus hWhole hAhead
  obtain ⟨clock', hClock⟩ := exists_playsFor abi clock player buffer
  exact (hConverges clock' hClock).rest_lt hUncapped player.samplesPerSec_pos
    (h.rest_bounds hPlay hWhole hAhead hEnqueued hClock)

theorem sizes (h : player.Corrects abi clock) :
    0 < player.globalFramesPerBuffers ∧ player.globalFramesPerBuffers < 8192 ∧
      (player.measured abi clock).globalFramesPerBuffers *
        (player.measured abi clock).frameSize abi < MAX_BUFFER_SIZE := by
  obtain ⟨-, -, -, hFrameSize⟩ := measured_of_playing abi clock h.playing
  have hSame := sameSetup_measured abi clock player
  have hLess := h.size_lt
  refine ⟨Nat.pos_of_mul_pos_right h.size_pos, ?_, ?_⟩
  · exact (Nat.le_mul_of_pos_right _ h.frameSize_pos).trans_lt hLess
  · rw [hSame.framesPerBuffers, hFrameSize]
    exact hLess

/-- Without a jump nothing is corrected. -/
theorem settles_none (h : player.Corrects abi clock)
    (hJump : (player.measured abi clock).jumpFor (player.measured abi clock).currentDiff = .none) :
    player.Settles abi clock := by
  obtain ⟨hPos, hSmall, hLess⟩ := h.sizes
  obtain ⟨hFifo, -, -, -⟩ := measured_of_playing abi clock h.playing
  have hSame := sameSetup_measured abi clock player
  have hFill : (player.measured abi clock).globalFramesPerBuffers ≤
      (player.measured abi clock).fifo.fill := by
    have hRequested := h.requested
    rw [requestedFrames, hJump] at hRequested
    rw [hFifo]
    exact hRequested
  obtain ⟨run, hRun, hWhole⟩ := playFrames_whole (player.nextBuffer.bufPtr abi) hLess
    (by rw [hSame.framesPerBuffers]; exact hPos) hFill
  have hPlay : (player.measured abi clock).play abi (player.nextBuffer.bufPtr abi) = some run := by
    rw [play, hJump]
    exact hRun
  have hUncapped : ¬ player.Uncapped abi clock := by
    rw [Uncapped, hJump]
    exact not_false
  refine h.settles_of_whole hPlay hWhole (by omega) fun diff' hRest => ?_
  refine Converges.of_rest player.samplesPerSec_pos hRest ?_ ?_ fun hNot => absurd hNot hUncapped
  · intro hNonneg
    have hProduct : 0 ≤ (player.measured abi clock).currentDiff * player.currentSamplesPerSec :=
      mul_nonneg hNonneg (Int.natCast_nonneg _)
    omega
  · intro hNonpos
    have hProduct : (player.measured abi clock).currentDiff * player.currentSamplesPerSec ≤ 0 :=
      mul_nonpos_of_nonpos_of_nonneg hNonpos (Int.natCast_nonneg _)
    omega

theorem diff_nonneg (h : player.Corrects abi clock)
    (hJump : (player.measured abi clock).jumpFor (player.measured abi clock).currentDiff =
      .speedUp) : 0 ≤ (player.measured abi clock).currentDiff := by
  obtain ⟨-, -, hAccuracy, -⟩ := measured_of_playing abi clock h.playing
  have hHalf : 0 ≤ player.accuracy.tdiv 2 := Int.tdiv_nonneg h.accuracy (by decide)
  unfold jumpFor at hJump
  rw [hAccuracy] at hJump
  split_ifs at hJump with hJumps hLate
  omega

theorem diff_nonpos (h : player.Corrects abi clock)
    (hJump : (player.measured abi clock).jumpFor (player.measured abi clock).currentDiff =
      .silence) : (player.measured abi clock).currentDiff ≤ 0 := by
  obtain ⟨-, -, hAccuracy, -⟩ := measured_of_playing abi clock h.playing
  have hHalf : 0 ≤ player.accuracy.tdiv 2 := Int.tdiv_nonneg h.accuracy (by decide)
  unfold jumpFor at hJump
  rw [hAccuracy, Int.neg_tdiv] at hJump
  split_ifs at hJump with hJumps hLate hEarly
  omega

end Corrects

/-- Division by a million leaves less than a million, on the side of zero. -/
theorem tdiv_second_bounds (product : Int) :
    |product - product.tdiv SECOND_MICRO * SECOND_MICRO| < SECOND_MICRO ∧
      (0 ≤ product → 0 ≤ product.tdiv SECOND_MICRO ∧
        product.tdiv SECOND_MICRO * SECOND_MICRO ≤ product) ∧
      (product ≤ 0 → product.tdiv SECOND_MICRO ≤ 0 ∧
        product ≤ product.tdiv SECOND_MICRO * SECOND_MICRO) := by
  unfold SECOND_MICRO
  rw [abs_lt]
  rcases le_or_gt 0 product with hNonneg | hNeg
  · rw [Int.tdiv_eq_ediv_of_nonneg hNonneg]
    omega
  · have hOpposite := Int.tdiv_eq_ediv_of_nonneg (a := -product) (b := 1000000) (by omega)
    rw [Int.neg_tdiv] at hOpposite
    omega

namespace Corrects

theorem currentDrop_of_fits
    (hFits : Fits 64 ((player.measured abi clock).currentDiff *
      (player.measured abi clock).currentSamplesPerSec)) :
    (player.measured abi clock).currentDrop =
      ((player.measured abi clock).currentDiff * player.currentSamplesPerSec).tdiv
        SECOND_MICRO := by
  have hSame := sameSetup_measured abi clock player
  rw [scaledDiff_measured, scaledDiff, int64, (toSigned_eq_self (by decide)).mpr hFits,
    hSame.samplesPerSec]

/-- What is left after silence: the part of the lateness that is less than a frame, or what
does not fit into one buffer. -/
theorem silence_rest {frames fill : Nat} {product drop : Int} (hPos : 0 < frames)
    (hSmall : frames < 8192) (hProduct : product ≤ 0)
    (hDrop : Fits 64 product → drop = product.tdiv SECOND_MICRO)
    (hExact : Fits 64 product ∨ frames < -drop)
    (hRequested : -drop < frames → abi.size (frames - -drop) ≤ fill) :
    product ≤ product - silenceSurplus abi frames fill (-drop) * SECOND_MICRO ∧
      product - silenceSurplus abi frames fill (-drop) * SECOND_MICRO ≤ 0 ∧
      (-drop ≤ frames →
        |product - silenceSurplus abi frames fill (-drop) * SECOND_MICRO| < SECOND_MICRO) := by
  obtain ⟨hQuotient, -, hBelow⟩ := tdiv_second_bounds product
  obtain ⟨hNonpos, hFloor⟩ := hBelow hProduct
  unfold silenceSurplus
  split_ifs with hRoom
  · -- Part of the buffer is silence: exactly the frames that it is early.
    have hFits := hExact.resolve_right (by omega)
    rw [← hDrop hFits] at hQuotient hFloor hNonpos
    have hFrames : abi.size (frames - -drop) = frames - drop.natAbs := by
      have hCast : (frames - -drop : Int) = (frames - drop.natAbs : Nat) := by omega
      have hWide := abi.two_pow_bits_ge
      rw [hCast]
      exact Abi.size_of_lt (by omega)
    have hFill := hRequested hRoom
    have hSame : ((min (abi.size (frames - -drop)) fill : Nat) : Int) - frames = drop := by
      omega
    rw [hSame]
    refine ⟨?_, by omega, fun _ => hQuotient⟩
    simp only [SECOND_MICRO]
    omega
  · by_cases hFits : Fits 64 product
    · rw [← hDrop hFits] at hQuotient hFloor
      obtain ⟨hLow, hHigh⟩ := abs_lt.mp hQuotient
      simp only [abs_lt, SECOND_MICRO] at hFloor hLow hHigh ⊢
      omega
    · have hLong := hExact.resolve_left hFits
      have hHuge := lt_of_not_fits hProduct hFits
      norm_num at hHuge
      simp only [SECOND_MICRO]
      omega

/-- Silence settles unless its length is a frame count that has come of an overflow. -/
theorem settles_silence (h : player.Corrects abi clock)
    (hJump : (player.measured abi clock).jumpFor (player.measured abi clock).currentDiff =
      .silence) :
    player.Settles abi clock ↔
      Fits 64 ((player.measured abi clock).currentDiff *
          (player.measured abi clock).currentSamplesPerSec) ∨
        (player.measured abi clock).globalFramesPerBuffers <
          -(player.measured abi clock).currentDrop := by
  obtain ⟨hPos, hSmall, hLess⟩ := h.sizes
  obtain ⟨hFifo, -, -, -⟩ := measured_of_playing abi clock h.playing
  have hSame := sameSetup_measured abi clock player
  have hEarly := h.diff_nonpos hJump
  have hProduct : (player.measured abi clock).currentDiff * player.currentSamplesPerSec ≤ 0 :=
    mul_nonpos_of_nonpos_of_nonneg hEarly (Int.natCast_nonneg _)
  have hWhole := playSilence_whole (player.nextBuffer.bufPtr abi) hLess
    (-(player.measured abi clock).currentDrop)
  have hPlay : (player.measured abi clock).play abi (player.nextBuffer.bufPtr abi) =
      some ((player.measured abi clock).playSilence abi (player.nextBuffer.bufPtr abi)
        (-(player.measured abi clock).currentDrop)) := by
    rw [play, hJump]
  have hRequested : -(player.measured abi clock).currentDrop <
        (player.measured abi clock).globalFramesPerBuffers →
      abi.size ((player.measured abi clock).globalFramesPerBuffers -
        -(player.measured abi clock).currentDrop) ≤ player.fifo.fill := by
    intro hRoom
    have hAll := h.requested
    rw [requestedFrames, hJump] at hAll
    rwa [if_pos hRoom] at hAll
  have hUncapped : player.Uncapped abi clock ↔ -(player.measured abi clock).currentDrop ≤
      (player.measured abi clock).globalFramesPerBuffers := by
    rw [Uncapped, hJump]
  have hDrop (hFits : Fits 64 ((player.measured abi clock).currentDiff *
      (player.measured abi clock).currentSamplesPerSec)) := currentDrop_of_fits hFits
  rw [hFifo] at hWhole
  rw [hSame.samplesPerSec] at hDrop ⊢
  rw [hSame.framesPerBuffers] at hRequested hUncapped hWhole ⊢
  have hAhead : player.globalFramesPerBuffers +
      silenceSurplus abi player.globalFramesPerBuffers player.fifo.fill
        (-(player.measured abi clock).currentDrop) ≤ player.fifo.fill + 2 ^ 33 := by
    unfold silenceSurplus
    split_ifs <;> omega
  constructor
  · intro hSettles
    by_contra hNot
    push Not at hNot
    obtain ⟨hOverflow, hShort⟩ := hNot
    obtain ⟨run, hRun, -, hRest⟩ := h.rest_of_settles hSettles (hUncapped.mpr hShort)
    rw [hPlay] at hRun
    cases hRun
    obtain ⟨hLow, -⟩ := abs_lt.mp (hRest _ hWhole hAhead)
    have hHuge := lt_of_not_fits hProduct hOverflow
    have hRate := h.samplesPerSec
    unfold silenceSurplus at hLow
    simp only [SECOND_MICRO] at hLow
    norm_num at hHuge hRate
    split_ifs at hLow <;> omega
  · intro hExact
    obtain ⟨hMore, hNonpos, hLittle⟩ :=
      silence_rest hPos hSmall hProduct hDrop hExact hRequested
    apply h.settles_of_whole hPlay hWhole hAhead
    intro diff' hLeft
    refine Converges.of_rest player.samplesPerSec_pos hLeft ?_ (fun _ => ⟨hMore, hNonpos⟩)
      fun hShort => hLittle (hUncapped.mp hShort)
    -- A lateness of zero is not early, and there is nothing to wait for.
    intro hNonneg
    have hZero : (player.measured abi clock).currentDiff = 0 := by omega
    rw [hZero, zero_mul] at hMore hNonpos ⊢
    exact ⟨hMore, hNonpos⟩

/-- Frames counted ahead stay within what the marks allow for. -/
theorem surplus_le (h : player.Corrects abi clock) {frameCount : Nat}
    (hFill : frameCount ≤ player.fifo.fill) (next : State)
    (hFrames : next.globalFramesPerBuffers = player.globalFramesPerBuffers) :
    player.globalFramesPerBuffers + next.surplus abi frameCount ≤ player.fifo.fill + 2 ^ 33 := by
  obtain ⟨-, hSmall, -⟩ := h.sizes
  cases abi with
  | ilp32 =>
      have hLess := toUnsigned_lt 32 (frameCount - next.globalFramesPerBuffers : Int)
      show (player.globalFramesPerBuffers : Int) +
        (toUnsigned 32 (frameCount - next.globalFramesPerBuffers : Int) : Nat) ≤ _
      omega
  | lp64 =>
      show (player.globalFramesPerBuffers : Int) +
        (frameCount - next.globalFramesPerBuffers : Int) ≤ _
      omega

/-- A callback that is catching up finds its frames and squeezes them. -/
theorem play_speedUp (h : player.Corrects abi clock)
    (hJump : (player.measured abi clock).jumpFor (player.measured abi clock).currentDiff =
      .speedUp) {request : Nat × Int}
    (hRequest : (player.measured abi clock).speedUpRequest abi
      (player.measured abi clock).currentDrop = request) :
    request.1 ≤ player.fifo.fill ∧
      (player.measured abi clock).play abi (player.nextBuffer.bufPtr abi) =
        (player.measured abi clock).playFrames abi (player.nextBuffer.bufPtr abi) request.1
          (some request.2) := by
  have hRequested := h.requested
  rw [requestedFrames, hJump] at hRequested
  rw [play, hJump, ← hRequest]
  exact ⟨hRequested, rfl⟩

/-- The frames of a request that is cut short are not more than those that are late. -/
theorem capped_rest
    (hProduct : 0 ≤ (player.measured abi clock).currentDiff * player.currentSamplesPerSec)
    (hLarge : (player.measured abi clock).tooLarge abi
      (abi.size ((player.measured abi clock).globalFramesPerBuffers +
        (player.measured abi clock).currentDrop)) = true)
    (hFramePos : 0 < (player.measured abi clock).frameSize abi) :
    (((player.measured abi clock).maxFrames abi : Int) -
        (player.measured abi clock).globalFramesPerBuffers) * SECOND_MICRO ≤
      (player.measured abi clock).currentDiff * player.currentSamplesPerSec := by
  have hSame := sameSetup_measured abi clock player
  have hMax := maxFrames_le abi (player.measured abi clock)
  have hCut : ((player.measured abi clock).maxFrames abi : Int) <
      abi.size ((player.measured abi clock).globalFramesPerBuffers +
        (player.measured abi clock).currentDrop) := by
    have hBytes := of_decide_eq_true hLarge
    rw [← Nat.cast_mul] at hBytes
    exact Nat.cast_lt.mpr ((Nat.div_lt_iff_lt_mul hFramePos).mpr
      (hBytes.trans_le (Abi.size_le abi _)))
  by_cases hFits : Fits 64 ((player.measured abi clock).currentDiff *
      (player.measured abi clock).currentSamplesPerSec)
  · have hDrop := currentDrop_of_fits hFits
    obtain ⟨-, hAbove, -⟩ := tdiv_second_bounds
      ((player.measured abi clock).currentDiff * player.currentSamplesPerSec)
    rw [← hDrop] at hAbove
    obtain ⟨hNonneg, hFloor⟩ := hAbove hProduct
    obtain ⟨drop, hNat⟩ := Int.eq_ofNat_of_zero_le hNonneg
    have hSize := Abi.size_le abi
      ((player.measured abi clock).globalFramesPerBuffers + drop)
    rw [hNat] at hCut hFloor
    push_cast at hSize
    simp only [SECOND_MICRO] at hFloor ⊢
    omega
  · rw [hSame.samplesPerSec] at hFits
    have hHuge := le_of_not_fits hProduct hFits
    norm_num at hHuge
    simp only [SECOND_MICRO]
    omega

/-- A catching up that is cut short settles when there is something to drop. -/
theorem settles_capped (h : player.Corrects abi clock)
    (hJump : (player.measured abi clock).jumpFor (player.measured abi clock).currentDiff =
      .speedUp)
    (hLarge : (player.measured abi clock).tooLarge abi
      (abi.size ((player.measured abi clock).globalFramesPerBuffers +
        (player.measured abi clock).currentDrop)) = true) :
    player.Settles abi clock ↔ (player.measured abi clock).globalFramesPerBuffers <
      (player.measured abi clock).maxFrames abi := by
  obtain ⟨hPos, hSmall, hLess⟩ := h.sizes
  obtain ⟨hFifo, -, -, hFrameSize⟩ := measured_of_playing abi clock h.playing
  have hSame := sameSetup_measured abi clock player
  have hLate := h.diff_nonneg hJump
  have hProduct : 0 ≤ (player.measured abi clock).currentDiff * player.currentSamplesPerSec :=
    mul_nonneg hLate (Int.natCast_nonneg _)
  have hFramePos : 0 < (player.measured abi clock).frameSize abi := hFrameSize ▸ h.frameSize_pos
  have hLe : (player.measured abi clock).globalFramesPerBuffers ≤
      (player.measured abi clock).maxFrames abi :=
    (Nat.le_div_iff_mul_le hFramePos).mpr hLess.le
  have hMax := maxFrames_le abi (player.measured abi clock)
  have hPosMax : 0 < (player.measured abi clock).maxFrames abi := by
    rw [hSame.framesPerBuffers] at hLe
    omega
  have hNarrow : (player.measured abi clock).maxFrames abi < 2 ^ 31 := by omega
  obtain ⟨hFill, hPlay⟩ := h.play_speedUp hJump (speedUpRequest_capped hLe hLarge)
  obtain ⟨hReturns, hWhole⟩ := playFrames_squeezed (player.nextBuffer.bufPtr abi) hLess hPosMax
    (hFifo ▸ hFill) ((player.measured abi clock).maxFrames abi -
      (player.measured abi clock).globalFramesPerBuffers : Int)
  constructor
  · rintro ⟨run, buffer, hRun, -, -⟩
    rw [bqPlayerCallback_of_playing h.playing, hPlay] at hRun
    obtain ⟨played, hPlayed, -⟩ := Option.map_eq_some_iff.mp hRun
    have hNonzero := (hReturns.mp (by rw [hPlayed]; rfl)).1
    omega
  · intro hMore
    obtain ⟨run, hRun⟩ := Option.isSome_iff_exists.mp <| hReturns.mpr ⟨by omega, fun hDrops => by
      have hMod := one_le_mod hNarrow hDrops (by omega)
      omega⟩
    have hSum := surplus_add abi ((player.measured abi clock).maxFrames abi)
      (player.measured abi clock) (Nat.lt_of_lt_of_le (hNarrow.trans (by decide))
        abi.two_pow_bits_ge) fun _ => hLe
    have hExact : (player.measured abi clock).surplus abi
        ((player.measured abi clock).maxFrames abi) =
          ((player.measured abi clock).maxFrames abi : Int) -
            (player.measured abi clock).globalFramesPerBuffers := by omega
    have hEnough := capped_rest hProduct hLarge hFramePos
    have hCapped : ¬ player.Uncapped abi clock := by
      rw [Uncapped, hJump, hLarge]
      exact Bool.noConfusion
    refine h.settles_of_whole (hPlay.trans hRun) (hWhole run hRun)
      (h.surplus_le hFill _ hSame.framesPerBuffers) fun diff' hRest => ?_
    rw [hExact] at hRest
    simp only [SECOND_MICRO] at hRest hEnough
    refine Converges.of_rest player.samplesPerSec_pos hRest (fun _ => by omega) (fun hNonpos => ?_)
      fun hNot => absurd hNot hCapped
    have hZero : (player.measured abi clock).currentDiff = 0 := by omega
    rw [hZero, zero_mul] at hEnough ⊢
    omega

/-- As many frames are left to drop as there are in a request that did not wrap around. -/
theorem one_le_mod_add {frames : Nat} (hFrames : frames < 8192) {drop : Int} (hPos : 0 < drop)
    {requestFrames : Nat} (hRequest : (requestFrames : Int) = frames + drop) :
    1 ≤ toSigned 32 ((requestFrames : Int).tdiv drop) := by
  have hAtLeast : 1 ≤ (requestFrames : Int) / drop := (Int.le_ediv_iff_mul_le hPos).mpr (by omega)
  have hAtMost : (requestFrames : Int) / drop ≤ frames + 1 := by
    apply Int.ediv_le_of_le_mul hPos
    have hLess : (frames : Int) * 1 ≤ frames * drop :=
      mul_le_mul_of_nonneg_left hPos (Int.natCast_nonneg _)
    linarith
  rw [Int.tdiv_eq_ediv_of_nonneg (Int.natCast_nonneg _)]
  generalize (requestFrames : Int) / drop = quotient at *
  have hFits : Fits 32 quotient := by
    constructor <;> norm_num <;> omega
  rw [(toSigned_eq_self (by decide)).mpr hFits]
  exact hAtLeast

/-- A request that does not wrap around. -/
theorem size_add_of_lt {frames : Nat} {drop : Int} (hPos : 0 < drop)
    (hRange : (frames : Int) + drop < 2 ^ abi.bits) :
    (abi.size (frames + drop) : Int) = frames + drop := by
  obtain ⟨count, rfl⟩ := Int.eq_ofNat_of_zero_le hPos.le
  rw [← Nat.cast_add] at hRange ⊢
  rw [Abi.size_of_lt (by exact_mod_cast hRange)]

/-- No number of frames that the FIFO could have held makes up for a product that overflows. -/
theorem fits_of_rest (h : player.Corrects abi clock) {product surplus : Int}
    (hProduct : 0 ≤ product)
    (hSurplus : player.globalFramesPerBuffers + surplus ≤ player.fifo.fill + 2 ^ 33)
    (hRest : |product - surplus * SECOND_MICRO| < SECOND_MICRO + 4 * player.currentSamplesPerSec) :
    Fits 64 product := by
  by_contra hOverflow
  have hHuge := le_of_not_fits hProduct hOverflow
  have hRecent := h.marks.recent player.lastMark List.mem_cons_self
  have hReached := h.marks.reached
  have hRate := h.samplesPerSec
  obtain ⟨-, hHigh⟩ := abs_lt.mp hRest
  simp only [SECOND_MICRO] at hHigh
  norm_num at hHuge hRecent hSurplus hRate
  omega

/-- Less than a frame is left when as many frames are dropped as it is late. -/
theorem converges_of_dropped {uncapped : Prop} {diff diff' : Int}
    (hProduct : 0 ≤ diff * player.currentSamplesPerSec)
    (hRest : |diff' * player.currentSamplesPerSec - (diff * player.currentSamplesPerSec -
      (diff * player.currentSamplesPerSec).tdiv SECOND_MICRO * SECOND_MICRO)| <
        2 * player.currentSamplesPerSec) :
    Converges uncapped player.currentSamplesPerSec diff diff' := by
  obtain ⟨hQuotient, hAbove, -⟩ := tdiv_second_bounds (diff * player.currentSamplesPerSec)
  obtain ⟨hNonneg, hFloor⟩ := hAbove hProduct
  generalize (diff * player.currentSamplesPerSec).tdiv SECOND_MICRO = dropped at *
  simp only [SECOND_MICRO] at hFloor
  refine Converges.of_rest player.samplesPerSec_pos hRest ?_ ?_ fun _ => hQuotient
  · intro _
    simp only [SECOND_MICRO]
    omega
  · intro hNonpos
    have hLess := mul_nonpos_of_nonpos_of_nonneg hNonpos
      (Int.natCast_nonneg player.currentSamplesPerSec)
    simp only [SECOND_MICRO]
    omega

/-- A catching up that is not cut short settles when nothing overflows. -/
theorem settles_uncapped (h : player.Corrects abi clock)
    (hJump : (player.measured abi clock).jumpFor (player.measured abi clock).currentDiff =
      .speedUp)
    (hWhole : ¬ (player.measured abi clock).tooLarge abi
      (abi.size ((player.measured abi clock).globalFramesPerBuffers +
        (player.measured abi clock).currentDrop)) = true) :
    player.Settles abi clock ↔
      Fits 64 ((player.measured abi clock).currentDiff *
          (player.measured abi clock).currentSamplesPerSec) ∧
        0 < (player.measured abi clock).currentDrop ∧
        ((player.measured abi clock).globalFramesPerBuffers : Int) +
          (player.measured abi clock).currentDrop < 2 ^ abi.bits := by
  obtain ⟨hPos, hSmall, hLess⟩ := h.sizes
  obtain ⟨hFifo, -, -, -⟩ := measured_of_playing abi clock h.playing
  have hSame := sameSetup_measured abi clock player
  have hProduct : 0 ≤ (player.measured abi clock).currentDiff * player.currentSamplesPerSec :=
    mul_nonneg (h.diff_nonneg hJump) (Int.natCast_nonneg _)
  have hDrop (hFits : Fits 64 ((player.measured abi clock).currentDiff *
      (player.measured abi clock).currentSamplesPerSec)) := currentDrop_of_fits hFits
  have hUncapped : player.Uncapped abi clock := by
    rw [Uncapped, hJump]
    exact Bool.eq_false_iff.mpr hWhole
  obtain ⟨hFill, hPlay⟩ := h.play_speedUp hJump (speedUpRequest_whole hWhole)
  dsimp only at hFill hPlay
  have hSurplus := h.surplus_le hFill _ hSame.framesPerBuffers
  have hSqueezed (hSome : 0 < abi.size ((player.measured abi clock).globalFramesPerBuffers +
      (player.measured abi clock).currentDrop)) :=
    playFrames_squeezed (player.nextBuffer.bufPtr abi) hLess hSome (hFifo ▸ hFill)
      (player.measured abi clock).currentDrop
  obtain ⟨-, hAbove, -⟩ := tdiv_second_bounds
    ((player.measured abi clock).currentDiff * player.currentSamplesPerSec)
  rw [hSame.samplesPerSec] at hDrop ⊢
  rw [hSame.framesPerBuffers] at *
  generalize (player.measured abi clock).currentDrop = drop at *
  constructor
  · intro hSettles
    obtain ⟨run, hRun, hEnqueued, hRest⟩ := h.rest_of_settles hSettles hUncapped
    rw [hPlay] at hRun
    have hSome : 0 < abi.size (player.globalFramesPerBuffers + drop) := by
      by_contra hNone
      have hZero : abi.size (player.globalFramesPerBuffers + drop) = 0 := by omega
      rw [hZero] at hRun
      cases hRun
      exact hEnqueued rfl
    obtain ⟨hReturns, hEnqueues⟩ := hSqueezed hSome
    have hLeft := hRest _ (hEnqueues run hRun) hSurplus
    obtain ⟨hNonzero, hMod⟩ := hReturns.mp (by rw [hRun]; rfl)
    have hFits := h.fits_of_rest hProduct hSurplus hLeft
    have hNonneg := (hAbove hProduct).1
    rw [← hDrop hFits] at hNonneg
    have hPosDrop : 0 < drop := by omega
    refine ⟨hFits, hPosDrop, ?_⟩
    have hWide := abi.two_pow_bits_ge
    rw [← le_size_add_iff (by omega) hPosDrop]
    by_contra hMore
    apply hMod hPosDrop
    rw [Int.tdiv_eq_zero_of_lt (Int.natCast_nonneg _) (by omega)]
    rfl
  · rintro ⟨hFits, hPosDrop, hRange⟩
    have hCount := size_add_of_lt hPosDrop hRange
    obtain ⟨hReturns, hEnqueues⟩ := hSqueezed (by omega)
    have hMod := one_le_mod_add hSmall hPosDrop hCount
    obtain ⟨run, hRun⟩ := Option.isSome_iff_exists.mp
      (hReturns.mpr ⟨hPosDrop.ne', fun _ => by omega⟩)
    have hExact : (player.measured abi clock).surplus abi
        (abi.size (player.globalFramesPerBuffers + drop)) = drop := by
      have hSum := surplus_add abi (abi.size (player.globalFramesPerBuffers + drop))
        (player.measured abi clock) (abi.size_lt _)
        (fun _ => by rw [hSame.framesPerBuffers]; omega)
      rw [hSame.framesPerBuffers] at hSum
      omega
    refine h.settles_of_whole (hPlay.trans hRun) (hEnqueues run hRun) hSurplus fun diff' hRest => ?_
    rw [hExact, hDrop hFits] at hRest
    exact converges_of_dropped hProduct hRest

end Corrects

/-- The lateness settles exactly when it is counted right. -/
theorem settles_iff (h : player.Corrects abi clock) :
    player.Settles abi clock ↔ player.CountsLateness abi clock := by
  unfold CountsLateness
  dsimp only
  cases hJump : (player.measured abi clock).jumpFor (player.measured abi clock).currentDiff with
  | none => exact iff_of_true (h.settles_none hJump) trivial
  | silence => exact h.settles_silence hJump
  | speedUp =>
      dsimp only
      split_ifs with hLarge
      · exact h.settles_capped hJump hLarge
      · exact h.settles_uncapped hJump hLarge

end Settling

section Overflow

theorem sampleRate_pos : 0 < 48000 := by decide

/-- A playing device of 48 kHz with 1079 mono frames in its FIFO. -/
def lateDevice : State :=
  { State.boot 48000 480 with
    currentSamplesPerSec := 48000
    currentIsPlaying := true
    currentEnableJumps := true
    currentSyncSystemTimeUs := 1
    accuracy := 10000
    fifo := ⟨48000 * 300, List.replicate 1079 [0, 0],
      List.length_replicate.trans_le (by decide)⟩
    samplesPerSec_pos := sampleRate_pos }

theorem lateDevice_corrects {clock : Clock}
    (hRequested : lateDevice.requestedFrames .lp64 clock ≤ 1079) :
    lateDevice.Corrects .lp64 clock where
  playing := rfl
  enableJumps := rfl
  accuracy := by decide
  samplesPerSec := by decide
  size_pos := by decide
  size_lt := by decide
  marks := by
    have hFill : lateDevice.fifo.fill = 1079 := List.length_replicate
    rw [hFill]
    exact ⟨by decide, by decide, by decide, by decide⟩
  requested := by
    have hFill : lateDevice.fifo.fill = 1079 := List.length_replicate
    rw [hFill]
    exact hRequested

/-- Late by 12.48 ms, it drops 598 frames. -/
theorem settles_lateDevice :
    (lateDevice.measured .lp64 ⟨12480, 10000⟩).currentDrop = 598 ∧
      lateDevice.Settles .lp64 ⟨12480, 10000⟩ := by
  have hJump : (lateDevice.measured .lp64 ⟨12480, 10000⟩).jumpFor
      (lateDevice.measured .lp64 ⟨12480, 10000⟩).currentDiff = .speedUp := by decide
  refine ⟨by decide, (settles_iff (lateDevice_corrects (by decide))).mpr ?_⟩
  unfold CountsLateness
  dsimp only
  rw [hJump]
  dsimp only
  rw [if_neg (by decide)]
  exact ⟨by decide, by decide, by decide⟩

/-- A clock that is ahead by twelve years: 2^64 frame microseconds and a little more. -/
def lateClock : Clock := ⟨384307168202282 + 12501, 10000⟩

/-- The product of lateness and rate overflows, and 599 frames pass for twelve years. -/
theorem not_settles_lateDevice :
    (lateDevice.measured .lp64 lateClock).currentDrop = 599 ∧
      ¬ lateDevice.Settles .lp64 lateClock := by
  have hJump : (lateDevice.measured .lp64 lateClock).jumpFor
      (lateDevice.measured .lp64 lateClock).currentDiff = .speedUp := by decide
  refine ⟨by decide, fun hSettles => ?_⟩
  have hCorrects : lateDevice.Corrects .lp64 lateClock := lateDevice_corrects (by decide)
  have hFits := ((hCorrects.settles_uncapped hJump (by decide)).mp hSettles).1
  exact absurd hFits (by decide)

end Overflow

end State

end AudioSync.Player
