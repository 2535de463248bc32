import AudioSync.Player.FrameMemory
import AudioSync.Player.CatchUp

/-! What the buffers that the callback enqueues hold: filler, frames of the FIFO in their order,
or silence. -/
namespace AudioSync.Player

open MachineInt

namespace State

variable {abi : Abi} {clock : Clock} {player : State} {bufPtr : Nat}

section Frames

theorem slBuffer_holds {address count : Nat} {block : List Byte}
    (hHolds : Holds player.tempBuffers address block) (hCount : count ≤ block.length)
    (hSmall : count < 2 ^ 32) : (player.slBuffer address count).data = block.take count := by
  unfold slBuffer
  rw [toUnsigned_of_lt hSmall]
  exact hHolds.bytes_eq hCount

/-- Frames of one size, cut after some of them. -/
theorem take_flatten {size : Nat} (count : Nat) {frames : List Frame}
    (hLengths : ∀ frame ∈ frames, frame.length = size) :
    frames.flatten.take (count * size) = (frames.take count).flatten := by
  induction count generalizing frames with
  | zero => simp
  | succ count ih =>
      cases frames with
      | nil => simp
      | cons frame frames =>
          have hFirst := hLengths frame (List.mem_cons_self ..)
          have hRest := ih fun f hf => hLengths f (List.mem_cons_of_mem frame hf)
          rw [List.flatten_cons, List.take_succ_cons, List.flatten_cons, Nat.succ_mul, ← hRest,
            Nat.add_comm, ← hFirst, List.take_length_add_append]

/-- A buffer of the frames that the memory holds. -/
theorem enqueueFrames_holds {frameCount : Nat} {frames : List Frame}
    (hHolds : Holds player.tempBuffers (2 * bufPtr) frames.flatten)
    (hLengths : ∀ frame ∈ frames, frame.length = player.frameSize abi)
    (hCount : frameCount ≤ frames.length)
    (hSmall : frameCount * player.frameSize abi < 2 ^ 32) :
    (player.enqueueFrames abi bufPtr frameCount).2.data = (frames.take frameCount).flatten := by
  have hLength : frameCount * player.frameSize abi ≤ frames.flatten.length := by
    rw [length_flatten hLengths]
    exact Nat.mul_le_mul_right _ hCount
  have hWide := abi.two_pow_bits_ge
  unfold enqueueFrames
  rw [size_frameCount, Nat.mod_eq_of_lt (by omega), slBuffer_holds hHolds hLength hSmall,
    take_flatten _ hLengths]

theorem holds_nil (memory : Pointer) (address : Nat) :
    Holds memory address ([] : List Frame).flatten := rfl

theorem fillerBuffer_data (abi : Abi) (bufPtr : Nat) (player : State)
    (hSmall : player.maxBufferSize abi < 2 ^ 32) :
    (player.fillerBuffer abi bufPtr).2.data = List.replicate (player.maxBufferSize abi) 1 := by
  have hHolds := holds_store player.tempBuffers (2 * bufPtr)
    (List.replicate (player.maxBufferSize abi) 1)
  have hData : (player.fillerBuffer abi bufPtr).2.data =
      (List.replicate (player.maxBufferSize abi) 1).take (player.maxBufferSize abi) :=
    slBuffer_holds hHolds (by simp) hSmall
  rw [hData, List.take_of_length_le (by simp)]

theorem holds_fifoRead (player : State) (address count : Nat) :
    Holds (player.fifoRead address count).1.tempBuffers address
      (player.fifo.read count).2.flatten :=
  holds_store player.tempBuffers address _

end Frames

section Squeeze

/-- A division by anything that is larger is zero, and the next one is by zero. -/
theorem drop_le_of_squeeze {frameCount : Nat} {drop : Int} {squeezed : State}
    (hSome : 0 < frameCount)
    (hSqueeze : player.squeeze abi bufPtr frameCount drop = some squeezed) :
    drop ≠ 0 ∧ drop ≤ frameCount := by
  obtain ⟨hZero, hMod⟩ := (squeeze_isSome_iff abi bufPtr player hSome).mp
    (Option.isSome_iff_exists.mpr ⟨squeezed, hSqueeze⟩)
  refine ⟨hZero, ?_⟩
  by_contra hMore
  apply hMod (by omega)
  rw [Int.tdiv_eq_zero_of_lt (Int.natCast_nonneg _) (by omega)]
  rfl

/-- The frames that the loop keeps are at the front of the buffer. -/
theorem squeeze_holds {frames : List Frame} {drop : Int} {squeezed : State}
    (hSqueeze : player.squeeze abi bufPtr frames.length drop = some squeezed)
    (hLengths : ∀ frame ∈ frames, frame.length = 2 * player.currentNumChannels)
    (hHolds : Holds player.tempBuffers (2 * bufPtr) frames.flatten) :
    Holds squeezed.tempBuffers (2 * bufPtr)
      (keptFrames (toSigned 32 ((frames.length : Int).tdiv drop)) frames 0 drop).flatten := by
  obtain ⟨-, result, hResult, rfl⟩ := squeeze_eq_some hSqueeze
  have hStart : 2 * (bufPtr + 0 * player.currentNumChannels) = 2 * bufPtr := by omega
  rw [← hStart] at hHolds
  have hEmpty : ([] : List Frame).flatten.length = 2 * (0 * player.currentNumChannels) := by
    rw [Nat.zero_mul]
    rfl
  exact dropFrames_holds hLengths hEmpty (Nat.le_refl 0) (holds_nil _ _) hHolds hResult

theorem frameSize_whole (hPos : 0 < player.globalFramesPerBuffers)
    (hSize : player.globalFramesPerBuffers * (player.currentNumChannels * 2) ≤ MAX_BUFFER_SIZE) :
    player.frameSize abi = 2 * player.currentNumChannels := by
  have hWide := abi.two_pow_bits_ge
  have hOne := Nat.le_mul_of_pos_left (player.currentNumChannels * 2) hPos
  unfold MAX_BUFFER_SIZE at hSize
  rw [frameSize_eq_mod, Nat.mod_eq_of_lt (by omega), Nat.mul_comm]

/-- As many frames as the buffer has are kept of a full read. -/
theorem le_length_keptFrames {mod : Int} {frames : List Frame} {count : Nat} {drop : Int}
    (hNone : drop ≤ 0 → count ≤ frames.length)
    (hRoom : 0 < drop → (count : Int) + drop ≤ frames.length) :
    count ≤ (keptFrames mod frames 0 drop).length := by
  rcases le_or_gt drop 0 with hNonpos | hPos
  · rw [keptFrames_of_nonpos hNonpos]
    exact hNone hNonpos
  · have hEnough := length_le_keptFrames mod frames 0 drop
    have hBoth := hRoom hPos
    omega

end Squeeze

section Silence

/-- The samples of silence in front of the frames, as a `size_t`. -/
def silenceSamples (abi : Abi) (drop : Int) (player : State) : Nat :=
  abi.size (abi.size drop * player.currentNumChannels)

/-- The player when frames have been read behind the silence, and the silence has been set. -/
def silenced (abi : Abi) (bufPtr : Nat) (drop : Int) (player : State) : State :=
  let read := player.fifoRead (2 * (bufPtr + player.silenceSamples abi drop))
    (abi.size (player.globalFramesPerBuffers - drop))
  { read.1 with
    tempBuffers := memset read.1.tempBuffers (2 * bufPtr) 0 (player.silenceSamples abi drop)
    currentQueuedFrames := read.1.currentQueuedFrames + read.2.length }

/-- How silence is played: in front of the frames that the FIFO yields, or, where it yields none,
as filler. -/
inductive Silenced (abi : Abi) (bufPtr : Nat) (drop : Int) (player : State) : Run → Prop where
  | filler {filled : State}
      (hNone : ¬ (drop < player.globalFramesPerBuffers ∧
        0 < min (abi.size (player.globalFramesPerBuffers - drop)) player.fifo.fill))
      (hMemory : filled.tempBuffers = player.tempBuffers) (hStream : SameStream player filled) :
      Silenced abi bufPtr drop player
        ⟨(filled.fillerBuffer abi bufPtr).1, [], [(filled.fillerBuffer abi bufPtr).2]⟩
  | frames (hRoom : drop < player.globalFramesPerBuffers)
      (hSome : 0 < min (abi.size (player.globalFramesPerBuffers - drop)) player.fifo.fill) :
      Silenced abi bufPtr drop player
        ⟨player.silenced abi bufPtr drop,
          (player.fifo.read (abi.size (player.globalFramesPerBuffers - drop))).2,
          [(player.silenced abi bufPtr drop).slBuffer (2 * bufPtr) (player.maxBufferSize abi)]⟩

theorem silenced_playSilence (abi : Abi) (bufPtr : Nat) (drop : Int) (player : State) :
    Silenced abi bufPtr drop player (player.playSilence abi bufPtr drop) := by
  by_cases hRoom : drop < player.globalFramesPerBuffers
  · have hLength := player.fifo.read_length (abi.size (player.globalFramesPerBuffers - drop))
    by_cases hSome : 0 < min (abi.size (player.globalFramesPerBuffers - drop)) player.fifo.fill
    · unfold playSilence
      dsimp only
      rw [if_pos hRoom, if_pos (by rw [fifoRead_frames, hLength]; exact hSome)]
      exact .frames hRoom hSome
    · have hNothing : (player.fifo.read (abi.size (player.globalFramesPerBuffers - drop))).2 = [] :=
        List.eq_nil_of_length_eq_zero (by omega)
      have hStream (address : Nat) : SameStream player
          (player.fifoRead address (abi.size (player.globalFramesPerBuffers - drop))).1 :=
        ⟨rfl, rfl⟩
      unfold playSilence
      dsimp only
      rw [if_pos hRoom, if_neg (by rw [fifoRead_frames, hLength]; exact hSome), fifoRead_frames,
        hNothing]
      apply Silenced.filler (fun h => hSome h.2) _ (hStream _)
      show store _ _ (player.fifo.read _).2.flatten = _
      rw [hNothing]
      exact store_nil _ _
  · unfold playSilence
    rw [if_neg hRoom]
    exact .filler (fun h => hRoom h.1) rfl ⟨rfl, rfl⟩

end Silence

section Device

theorem maxBufferSize_whole (abi : Abi)
    (hSize : player.globalFramesPerBuffers * (player.currentNumChannels * 2) ≤ MAX_BUFFER_SIZE) :
    player.maxBufferSize abi = player.globalFramesPerBuffers * player.frameSize abi ∧
      player.maxBufferSize abi ≤ MAX_BUFFER_SIZE := by
  have hWide := abi.two_pow_bits_ge
  have hFrame : player.frameSize abi ≤ player.currentNumChannels * 2 := by
    rw [frameSize_eq_mod]
    exact Nat.mod_le _ _
  have hLe : player.globalFramesPerBuffers * player.frameSize abi ≤ MAX_BUFFER_SIZE :=
    (Nat.mul_le_mul_left _ hFrame).trans hSize
  have hBytes : player.maxBufferSize abi =
      player.globalFramesPerBuffers * player.frameSize abi := by
    unfold MAX_BUFFER_SIZE at hLe
    rw [maxBufferSize, Abi.size_mul, Nat.mod_eq_of_lt (by omega)]
  exact ⟨hBytes, hBytes ▸ hLe⟩

theorem SameStream.maxBufferSize {filled : State} (hStream : SameStream player filled) :
    filled.maxBufferSize abi = player.maxBufferSize abi := by
  rw [State.maxBufferSize, State.maxBufferSize, hStream.framesPerBuffers,
    frameSize_congr abi hStream.channels]

/-- Only where a frame has a size can a request be too large. -/
theorem le_maxFrames_of_tooLarge {requestFrames : Nat}
    (hSize : player.globalFramesPerBuffers * (player.currentNumChannels * 2) ≤ MAX_BUFFER_SIZE)
    (hLarge : player.tooLarge abi requestFrames = true) :
    player.globalFramesPerBuffers ≤ player.maxFrames abi := by
  have hPos : 0 < player.frameSize abi := by
    by_contra hZero
    have hNothing : player.frameSize abi = 0 := by omega
    unfold tooLarge at hLarge
    rw [hNothing, Nat.cast_zero, mul_zero] at hLarge
    cases abi <;> exact absurd hLarge (by decide)
  obtain ⟨hBytes, hMax⟩ := maxBufferSize_whole abi hSize
  rw [hBytes] at hMax
  exact (Nat.le_div_iff_mul_le hPos).mpr hMax

/-- When there are frames to drop, they are requested beyond a buffer. -/
theorem speedUpRequest_room (abi : Abi) (hFrames : player.globalFramesPerBuffers < 2 ^ 32)
    (hSize : player.globalFramesPerBuffers * (player.currentNumChannels * 2) ≤ MAX_BUFFER_SIZE)
    (drop : Int) (hPos : 0 < (player.speedUpRequest abi drop).2)
    (hLess : (player.speedUpRequest abi drop).2 ≤ (player.speedUpRequest abi drop).1) :
    (player.globalFramesPerBuffers : Int) + (player.speedUpRequest abi drop).2 ≤
      (player.speedUpRequest abi drop).1 := by
  have hWide := abi.two_pow_bits_ge
  by_cases hLarge :
      player.tooLarge abi (abi.size (player.globalFramesPerBuffers + drop)) = true
  · rw [speedUpRequest_capped (le_maxFrames_of_tooLarge hSize hLarge) hLarge]
    omega
  · rw [speedUpRequest_whole hLarge] at hPos hLess ⊢
    dsimp only at hPos hLess ⊢
    have hSum := (le_size_add_iff (by omega) hPos).mp hLess
    obtain ⟨d, rfl⟩ := Int.eq_ofNat_of_zero_le hPos.le
    have hExact : abi.size ((player.globalFramesPerBuffers : Int) + (d : Int)) =
        player.globalFramesPerBuffers + d := by
      rw [← Nat.cast_add]
      exact Abi.size_of_lt (by exact_mod_cast hSum)
    rw [hExact, Nat.cast_add]

end Device

section Memory

theorem WellFormed.withRest (hWell : player.WellFormed abi) (tempBuffers : Pointer)
    (tempBuffersIx : Nat) (monitor : Monitor) :
    (player.withRest tempBuffers tempBuffersIx monitor).WellFormed abi :=
  ⟨hWell.frames, hWell.framesPerBuffers⟩

/-- A loop that skips nothing has not used the sample buffers. -/
theorem dropLate_nothing (address : Nat) (drop : Int) (player : State)
    (hNone : (player.dropLate abi address drop).2 = []) :
    (player.dropLate abi address drop).1.tempBuffers = player.tempBuffers := by
  fun_induction dropLate abi address drop player with
  | case1 drop player requestFrames read hEmpty =>
      have hNothing : read.2 = [] := List.eq_nil_of_length_eq_zero hEmpty
      show store player.tempBuffers address read.2.flatten = _
      rw [hNothing]
      exact store_nil _ _
  | case2 drop player requestFrames read hSome counted hMore later ih =>
      exact absurd (congrArg List.length (List.append_eq_nil_iff.mp hNone).1) hSome
  | case3 drop player requestFrames read hSome counted hDone =>
      exact absurd (congrArg List.length hNone) hSome

theorem tempBuffers_decided (hNone : player.skipped abi clock = []) :
    (player.decided abi clock).tempBuffers = player.tempBuffers := by
  unfold skipped startPlayback at hNone
  unfold decided startPlayback
  dsimp only at *
  split_ifs at * with hDecides hLate
  · exact dropLate_nothing _ _ _ hNone
  · rfl
  · rfl

/-- A run of the callback with other sample buffers: it decides and measures the same. -/
theorem bqPlayerCallback_memory (abi : Abi) (clock : Clock) (player : State) (memory : Pointer) :
    ∃ tempBuffers tempBuffersIx, (player.skipped abi clock = [] → tempBuffers = memory) ∧
      bqPlayerCallback abi clock { player with tempBuffers := memory } =
        if (player.decided abi clock).currentIsPlaying then
          (((player.measured abi clock).withRest tempBuffers tempBuffersIx player.monitor).play abi
            (player.nextBuffer.bufPtr abi)).map fun run =>
              { run with consumed := player.skipped abi clock ++ run.consumed }
        else
          let filled := ((player.decided abi clock).withRest tempBuffers tempBuffersIx
            player.monitor).fillerBuffer abi (player.nextBuffer.bufPtr abi)
          some ⟨filled.1, player.skipped abi clock, [filled.2]⟩ := by
  obtain ⟨tempBuffers, ix, hRest, hSkipped⟩ :=
    decided_withRest abi clock player memory player.tempBuffersIx player.monitor
  have hCallback := bqPlayerCallback_eq abi clock
    (player.withRest memory player.tempBuffersIx player.monitor)
  dsimp only at hCallback
  rw [hRest, hSkipped, measure_withRest] at hCallback
  refine ⟨tempBuffers, ix, ?_, hCallback⟩
  intro hNone
  have hMemory := tempBuffers_decided (hSkipped.trans hNone)
  rw [hRest] at hMemory
  exact hMemory

theorem WellFormed.measured (hWell : player.WellFormed abi) (clock : Clock) :
    (player.measured abi clock).WellFormed abi :=
  hWell.of_accounts ((accounts_decided abi clock player).trans
    (accounts_measure abi clock _) : Accounts True player _ _)

theorem slBuffer_getElem (address : Nat) {count j : Nat} (hSmall : count < 2 ^ 32)
    (hj : j < count) :
    (player.slBuffer address count).data[j]? = some (player.tempBuffers (address + j)) := by
  have hLength : (player.slBuffer address count).data.length = count := by
    rw [slBuffer_length, toUnsigned_of_lt hSmall]
  rw [List.getElem?_eq_getElem (by omega)]
  exact congrArg some (Pointer.bytes_getElem _ _)

end Memory

end State

namespace System

/-- The frames in the FIFO stay whole. -/
theorem wellFormed_step {platform : Platform} {system next : System} {event : Event}
    (hWell : system.player.WellFormed platform.abi)
    (hStep : system.step platform event = some next) : next.player.WellFormed platform.abi := by
  cases effect_of_step hStep with
  | @bufferFinished clock buffer rest hQueue =>
      cases hRun : bqPlayerCallback platform.abi clock system.player with
      | none => exact hWell
      | some run => exact hWell.of_accounts (accounts_bqPlayerCallback hRun)
  | enqueuePCMFrames hCall => exact hWell
  | @advanceCall monotonicUs call hCall => exact hWell.advance platform rfl monotonicUs call
  | control hControl hAccounts => exact hWell.of_accounts hAccounts

/-- There are none when `audioplayer_initPlayback` returns. -/
theorem wellFormed_start {abi : Abi} {clock : Clock} {samplesPerSec numChannels : BitVec 32}
    {player : State} {run : Run}
    (hInit : initPlayback abi clock samplesPerSec numChannels player = some run)
    (hFrames : player.globalFramesPerBuffers < 2 ^ 32) : (start run).player.WellFormed abi := by
  obtain ⟨hPos, -, -, hRun⟩ := initPlayback_eq_some hInit
  have hPlayer : (start run).player = _ := congrArg Prod.fst hRun
  rw [hPlayer]
  exact ⟨fun frame hFrame => (nomatch hFrame), hFrames⟩

end System

end AudioSync.Player
