import AudioSync.Player.SampleMemory
import AudioSync.Player.CallbackChain
import Mathlib.Algebra.BigOperators.Group.List.Basic

/-! What a run of the callback makes of the sample buffers it finds: with other
buffers it does the same, as long as it overwrites what it enqueues. -/
namespace AudioSync.Player

open MachineInt

namespace State

/-- The player with other sample buffers, and another monitor. -/
def withRest (player : State) (tempBuffers : Pointer) (tempBuffersIx : Nat) (monitor : Monitor) :
    State :=
  { player with tempBuffers := tempBuffers, tempBuffersIx := tempBuffersIx, monitor := monitor }

/-- The player as if it had read this accuracy from the clock. -/
def withAccuracy (player : State) (accuracy : Int) : State :=
  { player with accuracy := accuracy }

/-- The frames in the FIFO have the size of the stream's frames, and the device's buffer
size is a `uint32_t`. -/
structure WellFormed (abi : Abi) (player : State) : Prop where
  frames : ∀ frame ∈ player.fifo.contents, frame.length = player.frameSize abi
  framesPerBuffers : player.globalFramesPerBuffers < 2 ^ 32

/-- A request that is answered in full and squeezed into the device's buffer fills it. -/
def Fills (abi : Abi) (player : State) (requestFrames : Nat) : Prop :=
  requestFrames ≤ player.fifo.fill →
    player.globalFramesPerBuffers ≤ requestFrames ∧
      player.frameSize abi = 2 * player.currentNumChannels

/-- Once the lateness is known, the callback will overwrite all of what it enqueues. Silence
that is followed by frames is only set to zero for half of its length, and the frames may
be too few. -/
def Overwrites (abi : Abi) (player : State) : Prop :=
  (player.jumpFor player.currentDiff = .speedUp →
    player.Fills abi (player.speedUpRequest abi player.currentDrop).1) ∧
  (player.jumpFor player.currentDiff = .silence →
    -player.currentDrop < player.globalFramesPerBuffers → 0 < player.fifo.fill →
      player.currentDrop = 0 ∧ player.globalFramesPerBuffers ≤ player.fifo.fill)

instance (abi : Abi) (player : State) (requestFrames : Nat) :
    Decidable (player.Fills abi requestFrames) :=
  inferInstanceAs (Decidable (_ → _ ∧ _))

instance (abi : Abi) (player : State) : Decidable (player.Overwrites abi) :=
  inferInstanceAs (Decidable (_ ∧ _))

/-- The same player but for its sample buffers. -/
def SamePlayer (monitor : Monitor) (player player' : State) : Prop :=
  ∃ tempBuffers tempBuffersIx, player' = player.withRest tempBuffers tempBuffersIx monitor

/-- The same of two runs, which have enqueued buffers of the same contents. -/
def SameRun (monitor : Monitor) (run run' : Option Run) : Prop :=
  (run = none ∧ run' = none) ∨
    ∃ left right, run = some left ∧ run' = some right ∧
      SamePlayer monitor left.player right.player ∧
      left.enqueued.map SLBuffer.data = right.enqueued.map SLBuffer.data

variable {abi : Abi} {player : State} {tempBuffers : Pointer} {tempBuffersIx : Nat}
  {monitor : Monitor}

section Parts

/-- The loop of a late start, at another place in another memory. -/
theorem dropLate_withRest (abi : Abi) (tempBuffersIx : Nat) (monitor : Monitor)
    (address address' : Nat) (drop : Int) (player : State) :
    ∀ tempBuffers : Pointer, ∃ memory,
      (player.withRest tempBuffers tempBuffersIx monitor).dropLate abi address' drop =
        ((player.dropLate abi address drop).1.withRest memory tempBuffersIx monitor,
          (player.dropLate abi address drop).2) := by
  fun_induction dropLate abi address drop player with
  | case1 drop player requestFrames read hNone =>
      intro tempBuffers
      rw [dropLate]
      exact ⟨_, if_pos hNone⟩
  | case2 drop player requestFrames read hSome counted hMore later ih =>
      intro tempBuffers
      obtain ⟨memory, hLater⟩ := ih (store tempBuffers address' read.2.flatten)
      refine ⟨memory, ?_⟩
      rw [dropLate]
      refine (if_neg hSome).trans ((if_pos hMore).trans ?_)
      exact congrArg (fun rest : State × List Frame => (rest.1, read.2 ++ rest.2)) hLater
  | case3 drop player requestFrames read hSome counted hDone =>
      intro tempBuffers
      rw [dropLate]
      exact ⟨_, (if_neg hSome).trans (if_neg hDone)⟩

theorem measure_withRest (clock : Clock) :
    (player.withRest tempBuffers tempBuffersIx monitor).measure abi clock =
      (player.measure abi clock).withRest tempBuffers tempBuffersIx monitor := by
  have hMarks : (player.withRest tempBuffers tempBuffersIx monitor).advanceMarks abi =
      (player.advanceMarks abi).withRest tempBuffers tempBuffersIx monitor := by
    unfold advanceMarks
    by_cases hReached : markReached abi player.lastMark.frameCount player.currentQueuedFrames
    · rw [if_pos hReached]
      exact if_pos hReached
    · rw [if_neg hReached]
      exact if_neg hReached
  unfold measure
  rw [hMarks]
  rfl

theorem startPlayback_withRest (clock : Clock) (address address' : Nat) :
    ∃ memory,
      (player.withRest tempBuffers tempBuffersIx monitor).startPlayback abi clock address' =
        ((player.startPlayback abi clock address).1.withRest memory tempBuffersIx monitor,
          (player.startPlayback abi clock address).2) := by
  unfold startPlayback
  by_cases hDecides : !player.currentIsPlaying && player.currentSyncSystemTimeUs ≠ 0
  · rw [if_pos hDecides]
    by_cases hLate : player.startDiff clock < -(player.decideStart clock).accuracy
    · obtain ⟨memory, hDropped⟩ := dropLate_withRest abi tempBuffersIx monitor address address'
        (player.overdueFrames clock) (player.decideStart clock) tempBuffers
      refine ⟨memory, (if_pos hDecides).trans ((if_pos hLate).trans ?_)⟩
      rw [if_pos hLate]
      exact hDropped
    · refine ⟨tempBuffers, (if_pos hDecides).trans ((if_neg hLate).trans ?_)⟩
      rw [if_neg hLate]
      rfl
  · rw [if_neg hDecides]
    exact ⟨tempBuffers, if_neg hDecides⟩

/-- The size of an enqueued buffer is never more than its frames take up. -/
theorem size_mul_le (abi : Abi) (frames channels : Nat) :
    abi.size (frames * channels * 2) ≤ frames * abi.size (channels * 2) := by
  have hFrames : ((frames : Int) * channels * 2) = frames * (channels * 2 : Nat) := by
    push_cast
    ring
  have hChannels : abi.size ((channels : Int) * 2) = channels * 2 % 2 ^ abi.bits :=
    abi.size_mul channels 2
  rw [hFrames, hChannels, Abi.size_mul, ← Nat.mul_mod_mod]
  exact Nat.mod_le ..

theorem length_flatten {size : Nat} {frames : List Frame}
    (hLengths : ∀ frame ∈ frames, frame.length = size) :
    frames.flatten.length = frames.length * size := by
  have hAll : ∀ n ∈ frames.map List.length, n = size := by
    intro n hn
    obtain ⟨frame, hFrame, rfl⟩ := List.mem_map.mp hn
    exact hLengths frame hFrame
  rw [List.length_flatten, List.sum_eq_card_nsmul _ _ hAll, List.length_map]
  rfl

theorem WellFormed.read_lengths (hWell : player.WellFormed abi) (count : Nat) :
    ∀ frame ∈ (player.fifo.read count).2, frame.length = player.frameSize abi :=
  fun frame hFrame => hWell.frames frame (List.mem_of_mem_take hFrame)

theorem WellFormed.flatten_length (hWell : player.WellFormed abi) (count : Nat) :
    (player.fifo.read count).2.flatten.length =
      (player.fifo.read count).2.length * player.frameSize abi :=
  length_flatten (hWell.read_lengths count)

/-- The same bytes make the same contents of a buffer. -/
theorem slBuffer_data {player player' : State} {address address' room count : Nat}
    (hSame : SameBytes room player.tempBuffers address player'.tempBuffers address')
    (hCount : count ≤ room) :
    (player.slBuffer address count).data = (player'.slBuffer address' count).data := by
  have hSize : toUnsigned 32 (count : Int) ≤ count := by
    rw [toUnsigned_natCast]
    exact Nat.mod_le ..
  exact (hSame.mono (hSize.trans hCount)).bytes_eq

end Parts

section Play

variable {bufPtr bufPtr' : Nat}

theorem sameRun_enqueue {left right : State} (hPlayer : SamePlayer monitor left right)
    (consumed : List Frame) {buffer buffer' : SLBuffer} (hData : buffer.data = buffer'.data) :
    SameRun monitor (some ⟨left, consumed, [buffer]⟩) (some ⟨right, consumed, [buffer']⟩) :=
  Or.inr ⟨_, _, rfl, rfl, hPlayer, by simp [hData]⟩

theorem sameRun_filler (player : State) (tempBuffers : Pointer) (tempBuffersIx : Nat)
    (bufPtr bufPtr' : Nat) (consumed : List Frame) :
    SameRun monitor
      (some ⟨(player.fillerBuffer abi bufPtr).1, consumed, [(player.fillerBuffer abi bufPtr).2]⟩)
      (some ⟨((player.withRest tempBuffers tempBuffersIx monitor).fillerBuffer abi bufPtr').1,
        consumed,
        [((player.withRest tempBuffers tempBuffersIx monitor).fillerBuffer abi bufPtr').2]⟩) := by
  have hFilled := sameBytes_store player.tempBuffers tempBuffers (2 * bufPtr) (2 * bufPtr')
    (List.replicate (player.maxBufferSize abi) 1)
  exact sameRun_enqueue ⟨_, _, rfl⟩ consumed (slBuffer_data hFilled (by simp))

/-- Frames that have been read are enqueued as they are. -/
theorem sameRun_enqueueFrames {left right : State} (hPlayer : SamePlayer monitor left right)
    (consumed : List Frame) {frameCount : Nat}
    (hSame : SameBytes (frameCount * left.frameSize abi) left.tempBuffers (2 * bufPtr)
      right.tempBuffers (2 * bufPtr')) :
    SameRun monitor
      (some ⟨(left.enqueueFrames abi bufPtr frameCount).1, consumed,
        [(left.enqueueFrames abi bufPtr frameCount).2]⟩)
      (some ⟨(right.enqueueFrames abi bufPtr' frameCount).1, consumed,
        [(right.enqueueFrames abi bufPtr' frameCount).2]⟩) := by
  obtain ⟨memory, ix, rfl⟩ := hPlayer
  refine sameRun_enqueue ⟨memory, ix, rfl⟩ consumed ?_
  exact slBuffer_data hSame (size_mul_le abi frameCount left.currentNumChannels)

theorem fifoRead_withRest (address address' count : Nat) :
    (player.withRest tempBuffers tempBuffersIx monitor).fifoRead address' count =
      ((player.fifoRead address count).1.withRest
        (store tempBuffers address' (player.fifo.read count).2.flatten) tempBuffersIx monitor,
        (player.fifoRead address count).2) := rfl

/-- To squeeze frames that have been read, when they are enough. -/
theorem squeeze_same {left right : State} (hPlayer : SamePlayer monitor left right)
    {frameCount : Nat} (hSome : 0 < frameCount) {drop : Int}
    (hSize : left.frameSize abi = 2 * left.currentNumChannels)
    (hEnough : left.globalFramesPerBuffers ≤ frameCount)
    (hDrop : 0 < drop → drop ≤ frameCount →
      (left.globalFramesPerBuffers : Int) + drop ≤ frameCount)
    (hSame : SameBytes (frameCount * left.frameSize abi) left.tempBuffers (2 * bufPtr)
      right.tempBuffers (2 * bufPtr')) :
    (left.squeeze abi bufPtr frameCount drop = none ∧
      right.squeeze abi bufPtr' frameCount drop = none) ∨
    ∃ squeezed squeezed', left.squeeze abi bufPtr frameCount drop = some squeezed ∧
      right.squeeze abi bufPtr' frameCount drop = some squeezed' ∧
      SamePlayer monitor squeezed squeezed' ∧
      squeezed.frameSize abi = left.frameSize abi ∧
      SameBytes (left.globalFramesPerBuffers * left.frameSize abi) squeezed.tempBuffers
        (2 * bufPtr) squeezed'.tempBuffers (2 * bufPtr') := by
  obtain ⟨memory, ix, rfl⟩ := hPlayer
  unfold squeeze
  by_cases hZero : drop = 0
  · exact Or.inl ⟨if_pos hZero, if_pos hZero⟩
  rw [if_neg hZero, if_neg hZero]
  by_cases hTooMany : 0 < drop ∧ (frameCount : Int) < drop
  · -- More frames to drop than there are: the quotient is 0, and the first frame divides by it.
    have hMod : toSigned 32 ((frameCount : Int).tdiv drop) = 0 := by
      rw [Int.tdiv_eq_zero_of_lt (Int.natCast_nonneg _) hTooMany.2]
      rfl
    obtain ⟨remaining, rfl⟩ := Nat.exists_eq_succ_of_ne_zero hSome.ne'
    have hNone (base : Nat) (memory : Pointer) : dropFrames base left.currentNumChannels
        (toSigned 32 (((remaining + 1 : Nat) : Int).tdiv drop)) (remaining + 1) 0 0 drop memory =
        none := by
      rw [hMod]
      exact dropFrames_zero hTooMany.1
    exact Or.inl ⟨congrArg (Option.map _) (hNone ..), congrArg (Option.map _) (hNone ..)⟩
  have hDrops : 0 < drop → (left.globalFramesPerBuffers + (0 : Nat) : Int) + drop ≤
      frameCount + (0 : Nat) := by
    intro hPos
    have hFits := hDrop hPos (by omega)
    push_cast
    omega
  have hSamples : SameSamples (frameCount * left.currentNumChannels) left.tempBuffers bufPtr memory
      bufPtr' := by
    have hBytes : frameCount * left.frameSize abi = 2 * (frameCount * left.currentNumChannels) := by
      rw [hSize]
      ring
    rw [hBytes] at hSame
    exact hSame
  have hKept : left.globalFramesPerBuffers * left.frameSize abi =
      2 * (left.globalFramesPerBuffers * left.currentNumChannels) := by
    rw [hSize]
    ring
  rcases dropFrames_same (toSigned 32 ((frameCount : Int).tdiv drop)) hEnough frameCount
    (Nat.zero_add _) (Nat.le_refl 0) hDrops hSamples with
    ⟨hLeft, hRight⟩ | ⟨result, result', hLeft, hRight, hResult⟩
  · exact Or.inl ⟨congrArg (Option.map _) hLeft, congrArg (Option.map _) hRight⟩
  · refine Or.inr ⟨_, _, congrArg (Option.map _) hLeft, congrArg (Option.map _) hRight,
      ⟨result', ix, rfl⟩, rfl, ?_⟩
    rw [hKept]
    exact hResult

/-- What a catching-up callback asks for is squeezed into a whole buffer. -/
structure Squeezes (abi : Abi) (player : State) (requestFrames : Nat) (drop : Int) : Prop where
  size : player.frameSize abi = 2 * player.currentNumChannels
  enough : player.globalFramesPerBuffers ≤ requestFrames
  fits : 0 < drop → drop ≤ requestFrames →
    (player.globalFramesPerBuffers : Int) + drop ≤ requestFrames

theorem playFrames_same (hWell : player.WellFormed abi) (requestFrames : Nat) (drop : Option Int)
    (hSqueezes : ∀ d, drop = some d → requestFrames ≤ player.fifo.fill →
      player.Squeezes abi requestFrames d) :
    SameRun monitor (player.playFrames abi bufPtr requestFrames drop)
      ((player.withRest tempBuffers tempBuffersIx monitor).playFrames abi bufPtr' requestFrames
        drop) := by
  have hSame : SameBytes ((player.fifo.read requestFrames).2.length * player.frameSize abi)
      (player.fifoRead (2 * bufPtr) requestFrames).1.tempBuffers (2 * bufPtr)
      (store tempBuffers (2 * bufPtr') (player.fifo.read requestFrames).2.flatten)
      (2 * bufPtr') := by
    rw [← hWell.flatten_length]
    exact sameBytes_store player.tempBuffers tempBuffers (2 * bufPtr) (2 * bufPtr') _
  unfold playFrames
  dsimp only
  rw [fifoRead_withRest (2 * bufPtr) (2 * bufPtr')]
  split
  · exact Or.inr ⟨_, _, rfl, rfl, ⟨_, _, rfl⟩, rfl⟩
  next hSome =>
    split
    · exact sameRun_enqueueFrames ⟨_, _, rfl⟩ _ hSame
    · next d =>
        split
        · next hFull =>
            have hFill : requestFrames ≤ player.fifo.fill := by
              rw [← hFull, fifoRead_frames, BoundedQueue.read_length]
              exact Nat.min_le_right ..
            have hEnough := hSqueezes d rfl hFill
            rw [← hFull] at hEnough
            have hPlayer : SamePlayer monitor (player.fifoRead (2 * bufPtr) requestFrames).1
                ((player.fifoRead (2 * bufPtr) requestFrames).1.withRest
                  (store tempBuffers (2 * bufPtr') (player.fifo.read requestFrames).2.flatten)
                  tempBuffersIx monitor) := ⟨_, _, rfl⟩
            rcases squeeze_same hPlayer (Nat.pos_of_ne_zero hSome) hEnough.size hEnough.enough
              hEnough.fits hSame with
              ⟨hLeft, hRight⟩ | ⟨squeezed, squeezed', hLeft, hRight, hPlayer, hSize, hKept⟩
            · rw [hLeft, hRight]
              exact Or.inl ⟨rfl, rfl⟩
            · rw [hLeft, hRight]
              rw [← hSize] at hKept
              exact sameRun_enqueueFrames hPlayer _ hKept
        · exact sameRun_enqueueFrames ⟨_, _, rfl⟩ _ hSame

theorem int64_of_lt {n : Nat} (h : n < 2 ^ 32) : int64 n = n := by
  unfold int64 toSigned
  apply Int.bmod_eq_of_le
  · simp only [Nat.reducePow, Nat.cast_ofNat, Int.reduceDiv, Int.reduceNeg]
    omega
  · simp only [Nat.reducePow, Nat.cast_ofNat, Int.reduceAdd, Int.reduceDiv]
    omega

/-- The frames to drop are those that are requested beyond a buffer. -/
theorem speedUpRequest_fits (hFrames : player.globalFramesPerBuffers < 2 ^ 32) {drop : Int}
    (hEnough : player.globalFramesPerBuffers ≤ (player.speedUpRequest abi drop).1)
    (hPos : 0 < (player.speedUpRequest abi drop).2)
    (hLess : (player.speedUpRequest abi drop).2 ≤ (player.speedUpRequest abi drop).1) :
    (player.globalFramesPerBuffers : Int) + (player.speedUpRequest abi drop).2 ≤
      (player.speedUpRequest abi drop).1 := by
  have hWide := abi.two_pow_bits_ge
  unfold speedUpRequest at *
  dsimp only at *
  split_ifs at * with hLarge
  · have hMax : player.maxFrames abi ≤ MAX_BUFFER_SIZE := Nat.div_le_self _ _
    have hMore : (player.maxFrames abi - player.globalFramesPerBuffers : Int) =
        (player.maxFrames abi - player.globalFramesPerBuffers : Nat) := by
      push_cast [Nat.cast_sub hEnough]
      rfl
    unfold MAX_BUFFER_SIZE at hMax
    dsimp only at *
    rw [hMore, Abi.size_of_lt (by omega), int64_of_lt (by omega)]
    omega
  · dsimp only at *
    obtain ⟨d, rfl⟩ := Int.eq_ofNat_of_zero_le hPos.le
    rw [Abi.size_add] at hLess ⊢
    rcases Nat.lt_or_ge (player.globalFramesPerBuffers + d) (2 ^ abi.bits) with hFits | hWraps
    · rw [Nat.mod_eq_of_lt hFits]
      push_cast
      omega
    · rw [Nat.mod_eq_sub_mod hWraps, Nat.mod_eq_of_lt (by omega)] at hLess
      omega

/-- No silence, and a whole buffer of frames: the `memset` in between has no effect. -/
theorem playSilence_zero (hFrames : player.globalFramesPerBuffers < 2 ^ 32)
    (hPos : 0 < player.globalFramesPerBuffers) (hSome : 0 < player.fifo.fill) :
    player.playSilence abi bufPtr 0 =
      let read := player.fifoRead (2 * bufPtr) player.globalFramesPerBuffers
      let silenced := { read.1 with
        tempBuffers := memset read.1.tempBuffers (2 * bufPtr) 0 0
        currentQueuedFrames := read.1.currentQueuedFrames + read.2.length }
      ⟨silenced, read.2, [silenced.slBuffer (2 * bufPtr) (player.maxBufferSize abi)]⟩ := by
  have hWide := abi.two_pow_bits_ge
  have hZero : abi.size (abi.size 0 * player.currentNumChannels) = 0 := by
    cases abi <;> simp [Abi.size, toUnsigned]
  have hRequest : abi.size (player.globalFramesPerBuffers - (0 : Int)) =
      player.globalFramesPerBuffers := by
    rw [sub_zero]
    exact Abi.size_of_lt (by omega)
  have hRead : 0 < (player.fifoRead (2 * bufPtr) player.globalFramesPerBuffers).2.length := by
    rw [fifoRead_frames, BoundedQueue.read_length]
    omega
  unfold playSilence
  rw [if_pos (by omega)]
  simp only [hZero, hRequest, Nat.add_zero, if_pos hRead]

/-- Silence in front of an empty FIFO is a filler buffer. -/
theorem playSilence_empty {drop : Int} (hRoom : drop < player.globalFramesPerBuffers)
    (hEmpty : player.fifo.fill = 0) :
    player.playSilence abi bufPtr drop =
      let ss := abi.size (abi.size drop * player.currentNumChannels)
      let read :=
        player.fifoRead (2 * (bufPtr + ss)) (abi.size (player.globalFramesPerBuffers - drop))
      ⟨(read.1.fillerBuffer abi bufPtr).1, read.2, [(read.1.fillerBuffer abi bufPtr).2]⟩ := by
  unfold playSilence
  rw [if_pos hRoom]
  apply if_neg
  rw [fifoRead_frames, BoundedQueue.read_length, hEmpty, Nat.min_zero]
  exact Nat.lt_irrefl 0

theorem maxBufferSize_le : player.maxBufferSize abi ≤
    player.globalFramesPerBuffers * player.frameSize abi := by
  rw [maxBufferSize, Abi.size_mul]
  exact Nat.mod_le ..

theorem playSilence_same (hWell : player.WellFormed abi) {drop : Int}
    (hSilence : drop < player.globalFramesPerBuffers → 0 < player.fifo.fill →
      drop = 0 ∧ player.globalFramesPerBuffers ≤ player.fifo.fill) :
    SameRun monitor (some (player.playSilence abi bufPtr drop))
      (some ((player.withRest tempBuffers tempBuffersIx monitor).playSilence abi bufPtr' drop)) := by
  by_cases hRest : drop < player.globalFramesPerBuffers ∧ 0 < player.fifo.fill
  · obtain ⟨rfl, hEnough⟩ := hSilence hRest.1 hRest.2
    have hPos : 0 < player.globalFramesPerBuffers := by exact_mod_cast hRest.1
    have hFull : (player.fifo.read player.globalFramesPerBuffers).2.length =
        player.globalFramesPerBuffers := by
      rw [BoundedQueue.read_length, Nat.min_eq_left hEnough]
    have hStored := sameBytes_store player.tempBuffers tempBuffers (2 * bufPtr) (2 * bufPtr')
      (player.fifo.read player.globalFramesPerBuffers).2.flatten
    rw [hWell.flatten_length, hFull] at hStored
    have hRight : (player.withRest tempBuffers tempBuffersIx monitor).playSilence abi bufPtr' 0 =
        _ := playSilence_zero hWell.framesPerBuffers hPos hRest.2
    rw [playSilence_zero hWell.framesPerBuffers hPos hRest.2, hRight]
    apply sameRun_enqueue
    · exact ⟨_, _, rfl⟩
    · exact slBuffer_data (hStored.store 0 (List.replicate 0 (0 : Byte))) maxBufferSize_le
  · by_cases hRoom : drop < player.globalFramesPerBuffers
    · have hEmpty : player.fifo.fill = 0 := by omega
      have hRight : (player.withRest tempBuffers tempBuffersIx monitor).playSilence abi bufPtr'
        drop = _ := playSilence_empty hRoom hEmpty
      rw [playSilence_empty hRoom hEmpty, hRight]
      exact sameRun_filler ..
    · unfold playSilence
      rw [if_neg hRoom]
      have hRight : ¬ drop <
          (player.withRest tempBuffers tempBuffersIx monitor).globalFramesPerBuffers := hRoom
      rw [if_neg hRight]
      exact sameRun_filler ..

/-- A playing callback that overwrites what it enqueues does the same with other buffers. -/
theorem play_same (hWell : player.WellFormed abi) (hOverwrites : player.Overwrites abi) :
    SameRun monitor (player.play abi bufPtr)
      ((player.withRest tempBuffers tempBuffersIx monitor).play abi bufPtr') := by
  have hJump : (player.withRest tempBuffers tempBuffersIx monitor).jumpFor
      (player.withRest tempBuffers tempBuffersIx monitor).currentDiff =
        player.jumpFor player.currentDiff := rfl
  unfold play
  rw [hJump]
  cases hCase : player.jumpFor player.currentDiff with
  | none =>
      apply playFrames_same hWell
      intro d hNone
      cases hNone
  | speedUp =>
      apply playFrames_same hWell
      intro d hRequest hFill
      obtain rfl := Option.some.inj hRequest
      obtain ⟨hEnough, hSize⟩ := hOverwrites.1 hCase hFill
      exact ⟨hSize, hEnough, speedUpRequest_fits hWell.framesPerBuffers hEnough⟩
  | silence =>
      apply playSilence_same hWell
      intro hRoom hSome
      obtain ⟨hZero, hFill⟩ := hOverwrites.2 hCase hRoom hSome
      rw [hZero, neg_zero]
      exact ⟨rfl, hFill⟩

end Play

section Callback

theorem WellFormed.of_accounts {exact : Prop} {next : State} {consumed : List Frame}
    (hWell : player.WellFormed abi) (hAccounts : Accounts exact player consumed next) :
    next.WellFormed abi := by
  constructor
  · intro frame hFrame
    rw [frameSize_congr abi hAccounts.channels]
    apply hWell.frames
    rw [← hAccounts.frames]
    exact List.mem_append_right consumed hFrame
  · rw [hAccounts.framesPerBuffers]
    exact hWell.framesPerBuffers

/-- A run of the callback that plays overwrites what it enqueues. -/
def CallbackOverwrites (abi : Abi) (clock : Clock) (player : State) : Prop :=
  (player.decided abi clock).currentIsPlaying = true →
    ((player.decided abi clock).measure abi clock).Overwrites abi

instance (abi : Abi) (clock : Clock) (player : State) :
    Decidable (player.CallbackOverwrites abi clock) :=
  inferInstanceAs (Decidable (_ → _))

theorem SameRun.consumed {run run' : Option Run} (hRuns : SameRun monitor run run')
    (frames : List Frame) :
    SameRun monitor (run.map fun run => { run with consumed := frames ++ run.consumed })
      (run'.map fun run => { run with consumed := frames ++ run.consumed }) := by
  rcases hRuns with ⟨rfl, rfl⟩ | ⟨left, right, rfl, rfl, hPlayer, hData⟩
  · exact Or.inl ⟨rfl, rfl⟩
  · exact Or.inr ⟨_, _, rfl, rfl, hPlayer, hData⟩

/-- The start decision is the same with other sample buffers. -/
theorem decided_withRest (abi : Abi) (clock : Clock) (player : State) (tempBuffers : Pointer)
    (tempBuffersIx : Nat) (monitor : Monitor) :
    ∃ memory tempBuffersIx',
      (player.withRest tempBuffers tempBuffersIx monitor).decided abi clock =
        (player.decided abi clock).withRest memory tempBuffersIx' monitor ∧
      (player.withRest tempBuffers tempBuffersIx monitor).skipped abi clock =
        player.skipped abi clock := by
  obtain ⟨memory, hStart⟩ : ∃ memory,
      (player.nextBuffer.withRest tempBuffers ((tempBuffersIx + 1) % N_BUFFERS)
        monitor).startPlayback abi clock
          (2 * (player.withRest tempBuffers tempBuffersIx monitor).nextBuffer.bufPtr abi) =
        ((player.decided abi clock).withRest memory ((tempBuffersIx + 1) % N_BUFFERS) monitor,
          player.skipped abi clock) :=
    startPlayback_withRest clock _ _
  have hDecided := congrArg Prod.fst hStart
  have hSkipped := congrArg Prod.snd hStart
  exact ⟨memory, _, hDecided, hSkipped⟩

/-- A run of the callback with other sample buffers: the same contents are enqueued. -/
theorem bqPlayerCallback_same (clock : Clock) (hWell : player.WellFormed abi)
    (hOverwrites : player.CallbackOverwrites abi clock) :
    SameRun monitor (bqPlayerCallback abi clock player)
      (bqPlayerCallback abi clock (player.withRest tempBuffers tempBuffersIx monitor)) := by
  obtain ⟨memory, ix, hDecided, hSkipped⟩ :=
    decided_withRest abi clock player tempBuffers tempBuffersIx monitor
  rw [bqPlayerCallback_eq, bqPlayerCallback_eq]
  dsimp only
  rw [hDecided, hSkipped, measure_withRest]
  by_cases hPlaying : (player.decided abi clock).currentIsPlaying = true
  · have hRight : ((player.decided abi clock).withRest memory ix monitor).currentIsPlaying = true :=
      hPlaying
    rw [if_pos hPlaying, if_pos hRight]
    apply SameRun.consumed
    exact play_same (hWell.of_accounts ((accounts_decided abi clock player).trans
      (accounts_measure abi clock _) : Accounts True player _ _)) (hOverwrites hPlaying)
  · have hRight : ¬ ((player.decided abi clock).withRest memory ix monitor).currentIsPlaying = true :=
      hPlaying
    rw [if_neg hPlaying, if_neg hRight]
    exact sameRun_filler ..

theorem decideStart_accuracy {clock : Clock}
    (hAccuracy : player.accuracy = 0 ∨ player.accuracy = clock.coarseAccuracyUs) :
    player.decideStart clock =
      (player.withAccuracy clock.coarseAccuracyUs).decideStart clock := by
  have hUsed : (if player.accuracy = 0 then clock.coarseAccuracyUs else player.accuracy) =
      clock.coarseAccuracyUs := by
    rcases hAccuracy with hNone | hClock
    · exact if_pos hNone
    · rw [hClock, ite_self]
  unfold decideStart withAccuracy
  simp only [hUsed, ite_self]
  rfl

/-- The callback is about to decide whether playback starts. -/
def Decides (player : State) : Prop :=
  player.currentIsPlaying = false ∧ player.currentSyncSystemTimeUs ≠ 0

instance (player : State) : Decidable player.Decides := inferInstanceAs (Decidable (_ ∧ _))

/-- With the clock's accuracy, or none yet, the start decision is made as if the accuracy had
been read from the clock. -/
theorem startPlayback_accuracy {clock : Clock} (hDecides : player.Decides)
    (hAccuracy : player.accuracy = 0 ∨ player.accuracy = clock.coarseAccuracyUs) (address : Nat) :
    player.startPlayback abi clock address =
      (player.withAccuracy clock.coarseAccuracyUs).startPlayback abi clock address := by
  have hTest : (!player.currentIsPlaying && player.currentSyncSystemTimeUs ≠ 0) = true := by
    simp [hDecides.1, hDecides.2]
  have hLeft : player.startPlayback abi clock address = _ := if_pos hTest
  have hRight : (player.withAccuracy clock.coarseAccuracyUs).startPlayback abi clock
    address = _ := if_pos hTest
  rw [hLeft, hRight, decideStart_accuracy hAccuracy]
  rfl

theorem decided_accuracy {clock : Clock} (hDecides : player.Decides)
    (hAccuracy : player.accuracy = 0 ∨ player.accuracy = clock.coarseAccuracyUs) :
    player.decided abi clock =
      (player.withAccuracy clock.coarseAccuracyUs).decided abi clock := by
  have hNext : player.nextBuffer.Decides := hDecides
  exact congrArg Prod.fst (startPlayback_accuracy hNext hAccuracy _)

theorem bqPlayerCallback_accuracy {clock : Clock} (hDecides : player.Decides)
    (hAccuracy : player.accuracy = 0 ∨ player.accuracy = clock.coarseAccuracyUs) :
    bqPlayerCallback abi clock player =
      bqPlayerCallback abi clock (player.withAccuracy clock.coarseAccuracyUs) := by
  have hNext : player.nextBuffer.Decides := hDecides
  unfold bqPlayerCallback
  dsimp only
  rw [startPlayback_accuracy hNext hAccuracy]
  rfl

/-- Before the first sync, the callback keeps the device busy with filler. -/
theorem bqPlayerCallback_waiting (clock : Clock) (hStopped : player.currentIsPlaying = false)
    (hWaiting : player.currentSyncSystemTimeUs = 0) :
    bqPlayerCallback abi clock player =
      some ⟨(player.nextBuffer.fillerBuffer abi (player.nextBuffer.bufPtr abi)).1, [],
        [(player.nextBuffer.fillerBuffer abi (player.nextBuffer.bufPtr abi)).2]⟩ := by
  have hTest : ¬ (!player.currentIsPlaying && player.currentSyncSystemTimeUs ≠ 0) = true := by
    simp [hWaiting]
  have hStart : player.nextBuffer.startPlayback abi clock (2 * player.nextBuffer.bufPtr abi) =
      (player.nextBuffer, []) := if_neg hTest
  have hPlaying : ¬ player.nextBuffer.currentIsPlaying = true := by
    show ¬ player.currentIsPlaying = true
    rw [hStopped]
    exact Bool.false_ne_true
  unfold bqPlayerCallback
  dsimp only
  rw [hStart]
  exact if_neg hPlaying

end Callback


end State

end AudioSync.Player
