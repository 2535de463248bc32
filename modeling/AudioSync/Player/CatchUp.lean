import AudioSync.Player.Setup

/-! Catching up: a late callback asks for more frames than it plays, and its frame-dropping
loop divides by the number of frames to drop. -/
namespace AudioSync.Player

open MachineInt

namespace State

/-- A device buffer of a mono or stereo stream that fits `MAX_BUFFER_SIZE` bytes. -/
structure FitsBuffer (player : State) : Prop where
  framesPerBuffers_pos : 0 < player.globalFramesPerBuffers
  channels : player.currentNumChannels = 1 ∨ player.currentNumChannels = 2
  size : player.globalFramesPerBuffers * (2 * player.currentNumChannels) ≤ MAX_BUFFER_SIZE

/-- The FIFO of a stream of at most 192 kHz. -/
structure FiveMinutes (player : State) : Prop where
  samplesPerSec : player.currentSamplesPerSec ≤ 192000
  capacity : player.fifo.capacity ≤ player.currentSamplesPerSec * 300

/-- How many frames, and how many of them to drop, a run of the callback comes to the
frame-dropping loop with, if it does. -/
def dropLoop (abi : Abi) (clock : Clock) (player : State) : Option (Nat × Int) :=
  let measured := player.measured abi clock
  let request := measured.speedUpRequest abi measured.currentDrop
  if (player.decided abi clock).currentIsPlaying = true ∧
      measured.jumpFor measured.currentDiff = .speedUp ∧
      0 < request.1 ∧ request.1 ≤ measured.fifo.fill then
    some request
  else none

/-- Wherever the callback comes to the loop, the number of frames to drop is positive and at
most the number of frames, and the quotient is at least one. -/
def DropsSafely (abi : Abi) (clock : Clock) (player : State) : Prop :=
  ∀ frameCount drop, player.dropLoop abi clock = some (frameCount, drop) →
    0 < drop ∧ drop ≤ frameCount ∧ 1 ≤ toSigned 32 ((frameCount : Int).tdiv drop)

/-- The lateness in frame microseconds, as the product that the callback computes. -/
def scaledDiff (player : State) : Int := int64 (player.currentDiff * player.currentSamplesPerSec)

/-- Where the callback comes to the loop with a request that was cut down, the device buffer
leaves room for more frames. Otherwise the lateness is a frame or more in the callback's
arithmetic, and together with the device buffer a `size_t`. -/
def LeavesRoom (abi : Abi) (clock : Clock) (player : State) : Prop :=
  let measured := player.measured abi clock
  (player.dropLoop abi clock).isSome →
    if measured.tooLarge abi
        (abi.size (measured.globalFramesPerBuffers + measured.currentDrop)) = true then
      player.globalFramesPerBuffers * (2 * player.currentNumChannels) < MAX_BUFFER_SIZE
    else SECOND_MICRO ≤ measured.scaledDiff ∧
      measured.scaledDiff < (2 ^ abi.bits - player.globalFramesPerBuffers) * SECOND_MICRO

section Request

variable {abi : Abi} {player : State}

theorem frameSize_eq (hFits : player.FitsBuffer) :
    player.frameSize abi = 2 * player.currentNumChannels :=
  frameSize_of_channels abi hFits.channels

theorem maxFrames_eq (abi : Abi) (hFits : player.FitsBuffer) :
    player.maxFrames abi * (2 * player.currentNumChannels) = MAX_BUFFER_SIZE := by
  rw [maxFrames, frameSize_eq hFits]
  rcases hFits.channels with hMono | hStereo
  · rw [hMono]
    rfl
  · rw [hStereo]
    rfl

theorem framesPerBuffers_le (abi : Abi) (hFits : player.FitsBuffer) :
    player.globalFramesPerBuffers ≤ player.maxFrames abi := by
  have hSize := hFits.size
  rw [← maxFrames_eq abi hFits] at hSize
  rcases hFits.channels with hMono | hStereo
  · rw [hMono] at hSize
    omega
  · rw [hStereo] at hSize
    omega

/-- The device buffer is smaller than what fits exactly if its bytes are. -/
theorem framesPerBuffers_lt_iff (abi : Abi) (hFits : player.FitsBuffer) :
    player.globalFramesPerBuffers < player.maxFrames abi ↔
      player.globalFramesPerBuffers * (2 * player.currentNumChannels) < MAX_BUFFER_SIZE := by
  rw [← maxFrames_eq abi hFits]
  rcases hFits.channels with hMono | hStereo
  · rw [hMono]
    omega
  · rw [hStereo]
    omega

theorem maxFrames_le (abi : Abi) (player : State) : player.maxFrames abi ≤ 8192 :=
  Nat.div_le_self _ _

/-- A request that is cut down, and what is then dropped of it. -/
theorem speedUpRequest_capped {drop : Int}
    (hLe : player.globalFramesPerBuffers ≤ player.maxFrames abi)
    (hLarge : player.tooLarge abi (abi.size (player.globalFramesPerBuffers + drop)) = true) :
    player.speedUpRequest abi drop =
      (player.maxFrames abi, (player.maxFrames abi - player.globalFramesPerBuffers : Int)) := by
  have hMax := maxFrames_le abi player
  have hWide := abi.two_pow_bits_ge
  have hMore : (player.maxFrames abi - player.globalFramesPerBuffers : Int) =
      (player.maxFrames abi - player.globalFramesPerBuffers : Nat) := by
    rw [Nat.cast_sub hLe]
  simp only [speedUpRequest]
  rw [if_pos hLarge, hMore, Abi.size_of_lt (by omega), int64_of_lt (by omega)]

theorem speedUpRequest_whole {drop : Int}
    (hSmall : ¬ player.tooLarge abi (abi.size (player.globalFramesPerBuffers + drop)) = true) :
    player.speedUpRequest abi drop = (abi.size (player.globalFramesPerBuffers + drop), drop) := by
  simp only [speedUpRequest]
  rw [if_neg hSmall]

/-- A `size_t` sum is not less than one of its parts exactly if it does not wrap around. -/
theorem le_size_add_iff {frames : Nat} (hFrames : frames < 2 ^ abi.bits) {drop : Int}
    (hPos : 0 < drop) :
    drop ≤ abi.size (frames + drop) ↔ (frames : Int) + drop < 2 ^ abi.bits := by
  obtain ⟨d, rfl⟩ := Int.eq_ofNat_of_zero_le hPos.le
  have hCast : ((2 ^ abi.bits : Nat) : Int) = 2 ^ abi.bits := by push_cast; rfl
  rw [Abi.size_add, ← hCast]
  rcases Nat.lt_or_ge (frames + d) (2 ^ abi.bits) with hLt | hGe
  · rw [Nat.mod_eq_of_lt hLt]
    omega
  · have hLess : (frames + d) % 2 ^ abi.bits ≤ frames + d - 2 ^ abi.bits := by
      rw [Nat.mod_eq_sub_mod hGe]
      exact Nat.mod_le _ _
    omega

/-- The lateness in frames against the product it is the quotient of. -/
theorem tdiv_second_iff (product bound : Int) :
    0 < product.tdiv SECOND_MICRO ∧ product.tdiv SECOND_MICRO < bound ↔
      SECOND_MICRO ≤ product ∧ product < bound * SECOND_MICRO := by
  simp only [SECOND_MICRO]
  rcases lt_or_ge product 0 with hNeg | hNonneg
  · have hOpposite : 0 ≤ (-product).tdiv 1000000 := Int.tdiv_nonneg (by omega) (by decide)
    rw [Int.neg_tdiv] at hOpposite
    omega
  · rw [Int.tdiv_eq_ediv_of_nonneg hNonneg]
    omega

/-- What is dropped of a request: some of it, but not more than it has. -/
theorem speedUpRequest_safe_iff (abi : Abi) (hFits : player.FitsBuffer) (drop : Int) :
    0 < (player.speedUpRequest abi drop).2 ∧
        (player.speedUpRequest abi drop).2 ≤ (player.speedUpRequest abi drop).1 ↔
      if player.tooLarge abi (abi.size (player.globalFramesPerBuffers + drop)) = true then
        player.globalFramesPerBuffers * (2 * player.currentNumChannels) < MAX_BUFFER_SIZE
      else 0 < drop ∧ drop < 2 ^ abi.bits - player.globalFramesPerBuffers := by
  split_ifs with hLarge
  · have hLess := framesPerBuffers_lt_iff abi hFits
    rw [speedUpRequest_capped (framesPerBuffers_le abi hFits) hLarge, ← hLess]
    dsimp only
    omega
  · have hWide := abi.two_pow_bits_ge
    have hMax := maxFrames_le abi player
    have hLe := framesPerBuffers_le abi hFits
    rw [speedUpRequest_whole hLarge]
    apply and_congr_right
    intro hPos
    rw [le_size_add_iff (by omega) hPos]
    omega

end Request

section DropLoop

variable {abi : Abi} {clock : Clock} {player : State}

theorem FitsBuffer.of_sameSetup {next : State} (hFits : player.FitsBuffer)
    (hSame : SameSetup player next) : next.FitsBuffer := by
  obtain ⟨hPos, hChannels, hSize⟩ := hFits
  rw [← hSame.framesPerBuffers] at hPos hSize
  rw [← hSame.channels] at hChannels hSize
  exact ⟨hPos, hChannels, hSize⟩

theorem FiveMinutes.of_sameSetup {next : State} (hFifo : player.FiveMinutes)
    (hSame : SameSetup player next) : next.FiveMinutes := by
  obtain ⟨hRate, hCapacity⟩ := hFifo
  rw [← hSame.samplesPerSec] at hRate hCapacity
  rw [← hSame.capacity] at hCapacity
  exact ⟨hRate, hCapacity⟩

theorem dropLoop_eq_some {request : Nat × Int} :
    player.dropLoop abi clock = some request ↔
      ((player.decided abi clock).currentIsPlaying = true ∧
        (player.measured abi clock).jumpFor (player.measured abi clock).currentDiff = .speedUp ∧
        0 < request.1 ∧ request.1 ≤ (player.measured abi clock).fifo.fill) ∧
      (player.measured abi clock).speedUpRequest abi (player.measured abi clock).currentDrop =
        request := by
  simp only [dropLoop]
  constructor
  · intro hReached
    split_ifs at hReached with hReaches
    cases hReached
    exact ⟨hReaches, rfl⟩
  · rintro ⟨hReaches, rfl⟩
    rw [if_pos hReaches]

/-- The quotient is at least one when there are not more frames to drop than frames. -/
theorem one_le_mod {frameCount : Nat} (hLess : frameCount < 2 ^ 31) {drop : Int}
    (hPos : 0 < drop) (hDrop : drop ≤ frameCount) :
    1 ≤ toSigned 32 ((frameCount : Int).tdiv drop) := by
  have hQuotient : 1 ≤ (frameCount : Int).tdiv drop := by
    rw [Int.tdiv_eq_ediv_of_nonneg (Int.natCast_nonneg _)]
    exact (Int.le_ediv_iff_mul_le hPos).mpr (by omega)
  have hSmall : (frameCount : Int).tdiv drop ≤ frameCount := Int.tdiv_le_self _ (by omega)
  generalize (frameCount : Int).tdiv drop = quotient at hQuotient hSmall ⊢
  have hFits : Fits 32 quotient := by
    constructor <;> norm_num <;> omega
  rw [(toSigned_eq_self (by decide)).mpr hFits]
  exact hQuotient

theorem scaledDiff_measured :
    (player.measured abi clock).currentDrop =
      (player.measured abi clock).scaledDiff.tdiv SECOND_MICRO := rfl

theorem frameCount_lt {request : Nat × Int} (hFifo : player.FiveMinutes)
    (hLoop : player.dropLoop abi clock = some request) : request.1 < 2 ^ 31 := by
  obtain ⟨⟨-, -, -, hFill⟩, -⟩ := dropLoop_eq_some.mp hLoop
  have hMeasured := hFifo.of_sameSetup (sameSetup_measured abi clock player)
  have hRate := hMeasured.samplesPerSec
  have hCapacity := hMeasured.capacity
  have hFits : (player.measured abi clock).fifo.fill ≤ _ := (player.measured abi clock).fifo.fits
  omega

/-- What the two numbers satisfy, in terms of the lateness. -/
theorem request_safe_iff (hFits : player.FitsBuffer) {request : Nat × Int}
    (hLoop : player.dropLoop abi clock = some request) :
    0 < request.2 ∧ request.2 ≤ request.1 ↔ player.LeavesRoom abi clock := by
  have hSame := sameSetup_measured abi clock player
  have hSafe := speedUpRequest_safe_iff abi (hFits.of_sameSetup hSame)
    (player.measured abi clock).currentDrop
  rw [scaledDiff_measured, tdiv_second_iff, ← scaledDiff_measured, hSame.framesPerBuffers,
    hSame.channels, (dropLoop_eq_some.mp hLoop).2] at hSafe
  have hReached : (player.dropLoop abi clock).isSome = true := by
    rw [hLoop]
    rfl
  rw [hSafe, LeavesRoom, forall_prop_of_true hReached, hSame.framesPerBuffers]

theorem dropsSafely_of_leavesRoom (hFits : player.FitsBuffer) (hFifo : player.FiveMinutes)
    (hRoom : player.LeavesRoom abi clock) : player.DropsSafely abi clock := by
  intro frameCount drop hLoop
  obtain ⟨hPos, hLe⟩ := (request_safe_iff hFits hLoop).mpr hRoom
  exact ⟨hPos, hLe, one_le_mod (frameCount_lt hFifo hLoop) hPos hLe⟩

/-- The frame-dropping loop is safe exactly for requests that leave room. -/
theorem dropsSafely_iff (hFits : player.FitsBuffer) (hFifo : player.FiveMinutes) :
    player.DropsSafely abi clock ↔ player.LeavesRoom abi clock := by
  constructor
  · intro hDrops hReached
    obtain ⟨request, hLoop⟩ := Option.isSome_iff_exists.mp hReached
    obtain ⟨hPos, hLe, -⟩ := hDrops request.1 request.2 hLoop
    exact (request_safe_iff hFits hLoop).mp ⟨hPos, hLe⟩ hReached
  · exact dropsSafely_of_leavesRoom hFits hFifo

/-- With the lateness that makes the callback jump, only an overflow can be in the way. -/
theorem dropsSafely_of_fits (hFits : player.FitsBuffer) (hFifo : player.FiveMinutes)
    (hRate : 8000 ≤ player.currentSamplesPerSec)
    (hAccuracy : 1000 ≤ (player.measured abi clock).accuracy)
    (hLess : player.globalFramesPerBuffers * (2 * player.currentNumChannels) < MAX_BUFFER_SIZE)
    (hProduct : Fits 64
      ((player.measured abi clock).currentDiff * (player.measured abi clock).currentSamplesPerSec))
    (hSum : (player.measured abi clock).currentDiff *
        (player.measured abi clock).currentSamplesPerSec <
      (2 ^ abi.bits - player.globalFramesPerBuffers) * SECOND_MICRO) :
    player.DropsSafely abi clock := by
  apply dropsSafely_of_leavesRoom hFits hFifo
  intro hReached
  obtain ⟨request, hLoop⟩ := Option.isSome_iff_exists.mp hReached
  obtain ⟨⟨-, hJump, -, -⟩, -⟩ := dropLoop_eq_some.mp hLoop
  have hLate : 500 ≤ (player.measured abi clock).currentDiff := by
    unfold jumpFor at hJump
    split_ifs at hJump with hJumps hDiff
    have hHalf : 500 ≤ (player.measured abi clock).accuracy.tdiv 2 := by
      rw [Int.tdiv_eq_ediv_of_nonneg (by omega)]
      omega
    omega
  have hSame := sameSetup_measured abi clock player
  split_ifs with hLarge
  · exact hLess
  · have hScaled : (player.measured abi clock).scaledDiff =
        (player.measured abi clock).currentDiff *
          (player.measured abi clock).currentSamplesPerSec :=
      (toSigned_eq_self (by decide)).mpr hProduct
    rw [hScaled]
    refine ⟨?_, hSum⟩
    calc SECOND_MICRO ≤ 500 * 8000 := by decide
      _ ≤ (player.measured abi clock).currentDiff *
            (player.measured abi clock).currentSamplesPerSec := by
          rw [hSame.samplesPerSec]
          exact mul_le_mul hLate (by exact_mod_cast hRate) (by decide) (by omega)

end DropLoop

section Division

variable {abi : Abi} {clock : Clock} {player : State} {bufPtr : Nat}

/-- A full read that is squeezed is where a run can end. -/
theorem playFrames_eq_none_iff {requestFrames : Nat} {drop : Int} :
    player.playFrames abi bufPtr requestFrames (some drop) = none ↔
      (0 < requestFrames ∧ requestFrames ≤ player.fifo.fill) ∧
        (drop = 0 ∨ 0 < drop ∧ toSigned 32 ((requestFrames : Int).tdiv drop) = 0) := by
  by_cases hNone : min requestFrames player.fifo.fill = 0
  · rw [playFrames_of_none hNone]
    simp only [reduceCtorEq, false_iff]
    omega
  · rcases Nat.lt_or_ge player.fifo.fill requestFrames with hShort | hFull
    · rw [playFrames_of_plain hNone (Or.inr hShort)]
      simp only [reduceCtorEq, false_iff]
      omega
    · have hPos : 0 < requestFrames := by omega
      have hReturns : ((player.fifoRead (2 * bufPtr) requestFrames).1.squeeze abi bufPtr
          requestFrames drop).isSome ↔ _ := squeeze_isSome_iff abi bufPtr _ hPos
      have hRequest : 0 < requestFrames ∧ requestFrames ≤ player.fifo.fill := ⟨hPos, hFull⟩
      rw [playFrames_of_full hPos hFull, Option.map_eq_none_iff, ← Option.not_isSome_iff_eq_none,
        hReturns, and_iff_right hRequest]
      tauto

theorem playFrames_none_ne {requestFrames : Nat} :
    player.playFrames abi bufPtr requestFrames none ≠ none := by
  by_cases hNone : min requestFrames player.fifo.fill = 0
  · rw [playFrames_of_none hNone]
    exact Option.some_ne_none _
  · rw [playFrames_of_plain hNone (Or.inl rfl)]
    exact Option.some_ne_none _

/-- The division is the one thing that ends a run of the callback. -/
theorem bqPlayerCallback_eq_none_iff :
    bqPlayerCallback abi clock player = none ↔
      ∃ frameCount drop, player.dropLoop abi clock = some (frameCount, drop) ∧
        (drop = 0 ∨ 0 < drop ∧ toSigned 32 ((frameCount : Int).tdiv drop) = 0) := by
  rw [bqPlayerCallback_eq]
  dsimp only
  simp only [dropLoop_eq_some]
  by_cases hPlaying : (player.decided abi clock).currentIsPlaying = true
  · rw [if_pos hPlaying, Option.map_eq_none_iff]
    show (player.measured abi clock).play abi _ = none ↔ _
    unfold play
    cases hJump : (player.measured abi clock).jumpFor (player.measured abi clock).currentDiff with
    | silence => simp
    | none => simp [playFrames_none_ne]
    | speedUp =>
        dsimp only
        rw [playFrames_eq_none_iff]
        constructor
        · rintro ⟨hReaches, hDivides⟩
          exact ⟨_, _, ⟨⟨hPlaying, rfl, hReaches⟩, rfl⟩, hDivides⟩
        · rintro ⟨frameCount, drop, ⟨⟨-, -, hReaches⟩, hRequest⟩, hDivides⟩
          rw [hRequest]
          exact ⟨hReaches, hDivides⟩
  · rw [if_neg hPlaying]
    simp [hPlaying]

/-- Where the loop is safe, the callback returns. -/
theorem bqPlayerCallback_isSome (hSafe : player.DropsSafely abi clock) :
    (bqPlayerCallback abi clock player).isSome := by
  rw [Option.isSome_iff_ne_none]
  intro hNone
  obtain ⟨frameCount, drop, hLoop, hDivides⟩ := bqPlayerCallback_eq_none_iff.mp hNone
  obtain ⟨hPos, -, hMod⟩ := hSafe frameCount drop hLoop
  omega

end Division

section FullDevice

/-- A playing device whose buffer of 2048 stereo frames has `MAX_BUFFER_SIZE` bytes, with as many
frames in the FIFO. -/
def fullDevice : State :=
  { State.boot 44100 2048 with
    currentNumChannels := 2
    currentIsPlaying := true
    currentEnableJumps := true
    currentSyncSystemTimeUs := 1
    accuracy := 10000
    fifo := ⟨44100 * 300, List.replicate 2048 [0, 0, 0, 0],
      List.length_replicate.trans_le (by decide)⟩ }

/-- The same device with a buffer of 480 frames. -/
def shortDevice : State := { fullDevice with globalFramesPerBuffers := 480 }

/-- Late by 20 ms, it asks for the 480 frames it plays and the 882 it drops. -/
theorem dropsSafely_shortDevice :
    shortDevice.dropLoop .ilp32 ⟨20001, 10000⟩ = some (1362, 882) ∧
      shortDevice.DropsSafely .ilp32 ⟨20001, 10000⟩ := by
  have hFits : shortDevice.FitsBuffer := ⟨by decide, Or.inr rfl, by decide⟩
  have hFill : (shortDevice.measured .ilp32 ⟨20001, 10000⟩).fifo.fill = 2048 :=
    List.length_replicate
  have hJump : (shortDevice.measured .ilp32 ⟨20001, 10000⟩).jumpFor
      (shortDevice.measured .ilp32 ⟨20001, 10000⟩).currentDiff = .speedUp := by decide
  have hRequest : (shortDevice.measured .ilp32 ⟨20001, 10000⟩).speedUpRequest .ilp32
      (shortDevice.measured .ilp32 ⟨20001, 10000⟩).currentDrop = (1362, 882) := by decide
  constructor
  · apply dropLoop_eq_some.mpr
    rw [hRequest]
    exact ⟨⟨rfl, hJump, by decide, by rw [hFill]; decide⟩, rfl⟩
  · exact (dropsSafely_iff hFits ⟨by decide, by decide⟩).mpr fun _ => by decide

/-- Late by 20 ms, it asks for 2048 frames, of which it has to drop none. -/
theorem not_dropsSafely_fullDevice :
    ¬ fullDevice.DropsSafely .ilp32 ⟨20001, 10000⟩ ∧
      bqPlayerCallback .ilp32 ⟨20001, 10000⟩ fullDevice = none := by
  have hFill : (fullDevice.measured .ilp32 ⟨20001, 10000⟩).fifo.fill = 2048 :=
    List.length_replicate
  have hJump : (fullDevice.measured .ilp32 ⟨20001, 10000⟩).jumpFor
      (fullDevice.measured .ilp32 ⟨20001, 10000⟩).currentDiff = .speedUp := by decide
  have hRequest : (fullDevice.measured .ilp32 ⟨20001, 10000⟩).speedUpRequest .ilp32
      (fullDevice.measured .ilp32 ⟨20001, 10000⟩).currentDrop = (2048, 0) := by decide
  have hLoop : fullDevice.dropLoop .ilp32 ⟨20001, 10000⟩ = some (2048, 0) := by
    apply dropLoop_eq_some.mpr
    rw [hRequest]
    exact ⟨⟨rfl, hJump, by decide, hFill.ge⟩, rfl⟩
  constructor
  · intro hSafe
    exact absurd (hSafe 2048 0 hLoop).1 (lt_irrefl 0)
  · exact bqPlayerCallback_eq_none_iff.mpr ⟨2048, 0, hLoop, Or.inl rfl⟩

end FullDevice

end State

end AudioSync.Player
