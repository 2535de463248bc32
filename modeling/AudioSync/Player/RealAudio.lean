import AudioSync.Player.EnqueuedData
import AudioSync.Player.FrameConservation

/-! What a run of the callback plays: constant fill and frames that it takes from the FIFO,
as long as it overwrites all of the buffer that it enqueues. -/
namespace AudioSync.Player

open MachineInt Transition

/-- The buffer of a run holds constant fill and then these frames, in the order in which the
run took them from the FIFO. -/
structure Run.Plays (count : Nat) (value : Byte) (frames : List Frame) (run : Run) : Prop where
  consumed : frames.Sublist run.consumed
  data : ∀ buffer ∈ run.enqueued, buffer.data = List.replicate count value ++ frames.flatten

namespace State

/-- Only real audio is played: the same, whatever the sample buffers held before the run. -/
def PlaysReal (abi : Abi) (clock : Clock) (player : State) : Prop :=
  ∃ count value frames, ∀ memory run,
    bqPlayerCallback abi clock { player with tempBuffers := memory } = some run →
      run.Plays count value frames

/-- Where frames follow the silence: `memset` clears as many bytes as there are samples of
silence, so either that is the whole buffer, or there is no silence and a buffer of frames. -/
def SilenceCovers (abi : Abi) (drop : Int) (player : State) : Prop :=
  let silence := abi.size (abi.size drop * player.currentNumChannels)
  let frames := min (abi.size (player.globalFramesPerBuffers - drop)) player.fifo.fill
  drop < player.globalFramesPerBuffers → 0 < frames →
    player.maxBufferSize abi ≤ silence ∨ silence = 0 ∧ player.globalFramesPerBuffers ≤ frames

/-- Where the callback catches up: a full read that drops no frame has a buffer of frames. What
a short read yields has a size of 32 bits. -/
def CatchUpCovers (abi : Abi) (player : State) : Prop :=
  let request := player.speedUpRequest abi player.currentDrop
  if request.1 ≤ player.fifo.fill then
    0 < request.1 → request.2 < 0 → player.globalFramesPerBuffers ≤ request.1
  else player.fifo.fill * player.frameSize abi < 2 ^ 32

/-- What a run of the callback writes covers what it enqueues. -/
def Covers (abi : Abi) (clock : Clock) (player : State) : Prop :=
  let measured := player.measured abi clock
  (player.decided abi clock).currentIsPlaying = true →
    (measured.jumpFor measured.currentDiff = .silence →
      measured.SilenceCovers abi (-measured.currentDrop)) ∧
    (measured.jumpFor measured.currentDiff = .speedUp → measured.CatchUpCovers abi)

instance (abi : Abi) (drop : Int) (player : State) : Decidable (player.SilenceCovers abi drop) :=
  inferInstanceAs (Decidable (_ → _ → _))

instance (abi : Abi) (player : State) : Decidable (player.CatchUpCovers abi) :=
  inferInstanceAs
    (Decidable (if (player.speedUpRequest abi player.currentDrop).1 ≤ _ then _ else _))

instance (abi : Abi) (clock : Clock) (player : State) : Decidable (player.Covers abi clock) :=
  inferInstanceAs (Decidable (_ → _))

variable {abi : Abi} {clock : Clock} {player : State} {bufPtr : Nat}

section Branches

/-- Frames that are enqueued as they have been read. -/
theorem plays_enqueueRun {frameCount : Nat} {frames consumed : List Frame} {filled : State}
    (hHolds : Holds filled.tempBuffers (2 * bufPtr) frames.flatten)
    (hLengths : ∀ frame ∈ frames, frame.length = filled.frameSize abi)
    (hCount : frameCount ≤ frames.length)
    (hSmall : frameCount * filled.frameSize abi < 2 ^ 32)
    (hConsumed : frames.Sublist consumed) :
    (enqueueRun abi bufPtr frameCount consumed filled).Plays 0 0 (frames.take frameCount) := by
  refine ⟨(List.take_sublist frameCount frames).trans hConsumed, ?_⟩
  intro buffer hBuffer
  rw [List.mem_singleton.mp hBuffer]
  exact enqueueFrames_holds hHolds hLengths hCount hSmall

/-- What the FIFO yields is played as it is, unless a full read is squeezed. -/
theorem playFrames_plain (hWell : player.WellFormed abi) {requestFrames : Nat}
    {drop : Option Int} {run : Run}
    (hRun : player.playFrames abi bufPtr requestFrames drop = some run)
    (hPlain : drop = none ∨ player.fifo.fill < requestFrames)
    (hSmall : min requestFrames player.fifo.fill * player.frameSize abi < 2 ^ 32) :
    run.Plays 0 0 (player.fifo.read requestFrames).2 := by
  have hLength := player.fifo.read_length requestFrames
  cases played_of_playFrames hRun with
  | starved hNone => exact ⟨List.Sublist.refl _, fun buffer hBuffer => nomatch hBuffer⟩
  | plain hSome hCase =>
      rw [← hLength] at hSmall
      have hPlays := plays_enqueueRun (holds_fifoRead player (2 * bufPtr) requestFrames)
        (hWell.read_lengths requestFrames) (Nat.le_refl _) hSmall (List.Sublist.refl _)
      rw [List.take_length] at hPlays
      exact hPlays
  | squeezed hSome hDrop hFull hSqueeze =>
      rcases hPlain with hNone | hShort
      · rw [hNone] at hDrop
        cases hDrop
      · omega

/-- The frames of a full read that are played. -/
def squeezedFrames (requestFrames : Nat) (drop : Int) (player : State) : List Frame :=
  (keptFrames (toSigned 32 ((requestFrames : Int).tdiv drop)) (player.fifo.read requestFrames).2 0
    drop).take player.globalFramesPerBuffers

/-- A full read is squeezed into the device's buffer. -/
theorem playFrames_full (hWell : player.WellFormed abi)
    (hSize : player.globalFramesPerBuffers * (player.currentNumChannels * 2) ≤ MAX_BUFFER_SIZE)
    {requestFrames : Nat} {drop : Int} {run : Run}
    (hRun : player.playFrames abi bufPtr requestFrames (some drop) = some run)
    (hFull : requestFrames ≤ player.fifo.fill)
    (hNone : 0 < requestFrames → drop < 0 → player.globalFramesPerBuffers ≤ requestFrames)
    (hRoom : 0 < drop → drop ≤ requestFrames →
      (player.globalFramesPerBuffers : Int) + drop ≤ requestFrames) :
    run.Plays 0 0 (player.squeezedFrames requestFrames drop) := by
  have hLength := player.fifo.read_length requestFrames
  have hKept := keptFrames_sublist (toSigned 32 ((requestFrames : Int).tdiv drop))
    (player.fifo.read requestFrames).2 0 drop
  cases played_of_playFrames hRun with
  | starved hNone =>
      exact ⟨(List.take_sublist ..).trans hKept, fun buffer hBuffer => nomatch hBuffer⟩
  | plain hSome hPlain =>
      rcases hPlain with hNone | hShort
      · cases hNone
      · omega
  | @squeezed d squeezed hSome hDrop hEqual hSqueeze =>
      obtain rfl := Option.some.inj hDrop
      obtain ⟨hZero, hLe⟩ := drop_le_of_squeeze (Nat.pos_of_ne_zero hSome) hSqueeze
      have hFrame : squeezed.frameSize abi = player.frameSize abi :=
        frameSize_congr abi (sameSetup_squeeze hSqueeze).channels
      rcases Nat.eq_zero_or_pos player.globalFramesPerBuffers with hNoBuffer | hPos
      · -- The device has no buffer, and nothing is in it.
        unfold squeezedFrames
        rw [hNoBuffer, List.take_zero]
        exact plays_enqueueRun (holds_nil _ _) (fun f hf => nomatch hf) (Nat.le_refl 0) (by omega)
          (List.nil_sublist _)
      · have hWhole : player.frameSize abi = 2 * player.currentNumChannels :=
          frameSize_whole hPos hSize
        have hLengths := hWell.read_lengths requestFrames
        rw [hWhole] at hLengths
        have hHolds := squeeze_holds hSqueeze hLengths (holds_fifoRead player _ _)
        rw [hEqual] at hHolds hLe
        apply plays_enqueueRun hHolds _ _ _ hKept
        · intro frame hFrame'
          rw [hFrame, hWhole]
          exact hLengths frame (hKept.subset hFrame')
        · apply le_length_keptFrames
          · intro hNonpos
            rw [hEqual]
            exact hNone (by omega) (by omega)
          · intro hMore
            rw [hEqual]
            exact hRoom hMore hLe
        · unfold MAX_BUFFER_SIZE at hSize
          rw [hFrame, hWhole, Nat.mul_comm 2]
          omega

/-- Without frames, a buffer of silence is filler. -/
theorem Silenced.plays_filler {drop : Int} {run : Run} (hRun : Silenced abi bufPtr drop player run)
    (hSmall : player.maxBufferSize abi < 2 ^ 32)
    (hNone : ¬ (drop < player.globalFramesPerBuffers ∧
      0 < min (abi.size (player.globalFramesPerBuffers - drop)) player.fifo.fill)) :
    run.Plays (player.maxBufferSize abi) 1 [] := by
  cases hRun with
  | @filler filled hNone hMemory hStream =>
      have hBytes : filled.maxBufferSize abi = player.maxBufferSize abi :=
        SameStream.maxBufferSize hStream
      refine ⟨List.nil_sublist _, ?_⟩
      intro buffer hBuffer
      rw [List.mem_singleton.mp hBuffer,
        fillerBuffer_data abi bufPtr filled (hBytes ▸ hSmall), hBytes]
      exact (List.append_nil _).symm
  | frames hRoom hSome => exact absurd ⟨hRoom, hSome⟩ hNone

/-- In front of frames, the whole buffer may be silent, -/
theorem Silenced.plays_silence {drop : Int} {run : Run}
    (hRun : Silenced abi bufPtr drop player run) (hSmall : player.maxBufferSize abi < 2 ^ 32)
    (hFrames : drop < player.globalFramesPerBuffers ∧
      0 < min (abi.size (player.globalFramesPerBuffers - drop)) player.fifo.fill)
    (hSilence : player.maxBufferSize abi ≤ player.silenceSamples abi drop) :
    run.Plays (player.maxBufferSize abi) 0 [] := by
  cases hRun with
  | filler hNone => exact absurd hFrames hNone
  | frames hRoom hSome =>
      refine ⟨List.nil_sublist _, ?_⟩
      intro buffer hBuffer
      have hHolds : Holds (player.silenced abi bufPtr drop).tempBuffers (2 * bufPtr)
          (List.replicate (player.silenceSamples abi drop) 0) := holds_store _ _ _
      rw [List.mem_singleton.mp hBuffer, slBuffer_holds hHolds (by simpa using hSilence) hSmall,
        List.take_replicate, Nat.min_eq_left hSilence]
      exact (List.append_nil _).symm

/-- or there is no silence, and it is full of frames. -/
theorem Silenced.plays_frames {drop : Int} {run : Run} (hRun : Silenced abi bufPtr drop player run)
    (hWell : player.WellFormed abi) (hSmall : player.maxBufferSize abi < 2 ^ 32)
    (hBytes : player.maxBufferSize abi = player.globalFramesPerBuffers * player.frameSize abi)
    (hFrames : drop < player.globalFramesPerBuffers ∧
      0 < min (abi.size (player.globalFramesPerBuffers - drop)) player.fifo.fill)
    (hNone : player.silenceSamples abi drop = 0)
    (hEnough : player.globalFramesPerBuffers ≤
      min (abi.size (player.globalFramesPerBuffers - drop)) player.fifo.fill) :
    run.Plays 0 0 ((player.fifo.read (abi.size (player.globalFramesPerBuffers - drop))).2.take
      player.globalFramesPerBuffers) := by
  have hLength := player.fifo.read_length (abi.size (player.globalFramesPerBuffers - drop))
  have hLengths := hWell.read_lengths (abi.size (player.globalFramesPerBuffers - drop))
  cases hRun with
  | filler hNone => exact absurd hFrames hNone
  | frames hRoom hSome =>
      refine ⟨List.take_sublist _ _, ?_⟩
      intro buffer hBuffer
      have hHolds : Holds (player.silenced abi bufPtr drop).tempBuffers (2 * bufPtr)
          (player.fifo.read (abi.size (player.globalFramesPerBuffers - drop))).2.flatten := by
        unfold silenced
        dsimp only
        rw [hNone]
        show Holds (store _ _ []) _ _
        rw [store_nil]
        exact holds_fifoRead player (2 * bufPtr) _
      have hCount : player.maxBufferSize abi ≤ (player.fifo.read
          (abi.size (player.globalFramesPerBuffers - drop))).2.flatten.length := by
        rw [length_flatten hLengths, hLength, hBytes]
        exact Nat.mul_le_mul_right _ hEnough
      rw [List.mem_singleton.mp hBuffer, slBuffer_holds hHolds hCount hSmall, hBytes,
        take_flatten _ hLengths]
      rfl

/-- Where silence covers the buffer, that is all silence or all frames. -/
theorem playSilence_plays (hWell : player.WellFormed abi)
    (hSize : player.globalFramesPerBuffers * (player.currentNumChannels * 2) ≤ MAX_BUFFER_SIZE)
    (bufPtr : Nat) {drop : Int} (hCovers : player.SilenceCovers abi drop) :
    ∃ count value frames, ∀ tempBuffers tempBuffersIx monitor,
      ((player.withRest tempBuffers tempBuffersIx monitor).playSilence abi bufPtr drop).Plays count
        value frames := by
  obtain ⟨hBytes, hMax⟩ := maxBufferSize_whole abi hSize
  have hSmall : player.maxBufferSize abi < 2 ^ 32 := hMax.trans_lt (by decide)
  have hRun (tempBuffers : Pointer) (tempBuffersIx : Nat) (monitor : Monitor) :=
    silenced_playSilence abi bufPtr drop (player.withRest tempBuffers tempBuffersIx monitor)
  by_cases hFrames : drop < player.globalFramesPerBuffers ∧
      0 < min (abi.size (player.globalFramesPerBuffers - drop)) player.fifo.fill
  · rcases hCovers hFrames.1 hFrames.2 with hSilence | ⟨hNone, hEnough⟩
    · exact ⟨player.maxBufferSize abi, 0, [], fun memory ix monitor =>
        (hRun memory ix monitor).plays_silence hSmall hFrames hSilence⟩
    · exact ⟨0, 0, (player.fifo.read (abi.size (player.globalFramesPerBuffers - drop))).2.take
        player.globalFramesPerBuffers, fun memory ix monitor =>
          (hRun memory ix monitor).plays_frames ⟨hWell.frames, hWell.framesPerBuffers⟩ hSmall hBytes
            hFrames hNone hEnough⟩
  · exact ⟨player.maxBufferSize abi, 1, [], fun memory ix monitor =>
      (hRun memory ix monitor).plays_filler hSmall hFrames⟩

/-- Where the frames of a catching-up callback cover the buffer, they are played. -/
theorem playFrames_speedUp (hWell : player.WellFormed abi)
    (hSize : player.globalFramesPerBuffers * (player.currentNumChannels * 2) ≤ MAX_BUFFER_SIZE)
    (bufPtr : Nat) (hCovers : player.CatchUpCovers abi) :
    ∃ frames, ∀ tempBuffers tempBuffersIx monitor run,
      (player.withRest tempBuffers tempBuffersIx monitor).playFrames abi bufPtr
          (player.speedUpRequest abi player.currentDrop).1
          (some (player.speedUpRequest abi player.currentDrop).2) = some run →
        run.Plays 0 0 frames := by
  have hRoom := speedUpRequest_room abi hWell.framesPerBuffers hSize player.currentDrop
  unfold CatchUpCovers at hCovers
  generalize player.speedUpRequest abi player.currentDrop = request at *
  dsimp only at hCovers
  split_ifs at hCovers with hFull
  · refine ⟨player.squeezedFrames request.1 request.2, ?_⟩
    intro tempBuffers tempBuffersIx monitor run hRun
    exact playFrames_full (hWell.withRest tempBuffers tempBuffersIx monitor) hSize hRun hFull
      hCovers hRoom
  · refine ⟨(player.fifo.read request.1).2, ?_⟩
    intro tempBuffers tempBuffersIx monitor run hRun
    have hShort : player.fifo.fill < request.1 := by omega
    apply playFrames_plain (hWell.withRest tempBuffers tempBuffersIx monitor) hRun (Or.inr hShort)
    show min request.1 player.fifo.fill * player.frameSize abi < 2 ^ 32
    rw [Nat.min_eq_right (Nat.le_of_lt hShort)]
    exact hCovers

/-- A playing callback that covers what it enqueues plays real audio. -/
theorem play_plays (hWell : player.WellFormed abi)
    (hSize : player.globalFramesPerBuffers * (player.currentNumChannels * 2) ≤ MAX_BUFFER_SIZE)
    (bufPtr : Nat)
    (hSilence : player.jumpFor player.currentDiff = .silence →
      player.SilenceCovers abi (-player.currentDrop))
    (hCatchUp : player.jumpFor player.currentDiff = .speedUp → player.CatchUpCovers abi) :
    ∃ count value frames, ∀ tempBuffers tempBuffersIx monitor run,
      (player.withRest tempBuffers tempBuffersIx monitor).play abi bufPtr = some run →
        run.Plays count value frames := by
  have hJump (tempBuffers : Pointer) (tempBuffersIx : Nat) (monitor : Monitor) :
      (player.withRest tempBuffers tempBuffersIx monitor).jumpFor
        (player.withRest tempBuffers tempBuffersIx monitor).currentDiff =
          player.jumpFor player.currentDiff := rfl
  unfold play
  simp only [hJump]
  cases hCase : player.jumpFor player.currentDiff with
  | silence =>
      obtain ⟨count, value, frames, hPlays⟩ := playSilence_plays hWell hSize bufPtr (hSilence hCase)
      refine ⟨count, value, frames, fun memory ix monitor run hRun => ?_⟩
      cases hRun
      exact hPlays memory ix monitor
  | speedUp =>
      obtain ⟨frames, hPlays⟩ := playFrames_speedUp hWell hSize bufPtr (hCatchUp hCase)
      exact ⟨0, 0, frames, hPlays⟩
  | none =>
      obtain ⟨hBytes, hMax⟩ := maxBufferSize_whole abi hSize
      refine ⟨0, 0, (player.fifo.read player.globalFramesPerBuffers).2,
        fun memory ix monitor run hRun => ?_⟩
      apply playFrames_plain (hWell.withRest memory ix monitor) hRun (Or.inl rfl)
      have hLess := Nat.mul_le_mul_right (player.frameSize abi)
        (Nat.min_le_left player.globalFramesPerBuffers player.fifo.fill)
      rw [← hBytes] at hLess
      exact hLess.trans_lt (hMax.trans_lt (by decide))

end Branches

section Callback

/-- A run of the callback that covers what it enqueues plays real audio. -/
theorem Covers.playsReal (hCovers : player.Covers abi clock) (hWell : player.WellFormed abi)
    (hSize : player.globalFramesPerBuffers * (player.currentNumChannels * 2) ≤ MAX_BUFFER_SIZE) :
    player.PlaysReal abi clock := by
  have hMeasured := sameSetup_measured abi clock player
  have hDecided : SameSetup player (player.decided abi clock) := sameSetup_decided clock
  by_cases hPlaying : (player.decided abi clock).currentIsPlaying = true
  · have hSize' : (player.measured abi clock).globalFramesPerBuffers *
        ((player.measured abi clock).currentNumChannels * 2) ≤ MAX_BUFFER_SIZE := by
      rw [hMeasured.framesPerBuffers, hMeasured.channels]
      exact hSize
    obtain ⟨hSilence, hCatchUp⟩ := hCovers hPlaying
    obtain ⟨count, value, frames, hPlays⟩ := play_plays (hWell.measured clock) hSize'
      (player.nextBuffer.bufPtr abi) hSilence hCatchUp
    refine ⟨count, value, frames, fun memory run hRun => ?_⟩
    obtain ⟨tempBuffers, ix, -, hCallback⟩ := bqPlayerCallback_memory abi clock player memory
    rw [hCallback, if_pos hPlaying] at hRun
    obtain ⟨played, hPlay, rfl⟩ := Option.map_eq_some_iff.mp hRun
    obtain ⟨hConsumed, hData⟩ := hPlays tempBuffers ix player.monitor played hPlay
    exact ⟨hConsumed.trans (List.sublist_append_right _ _), hData⟩
  · have hBytes : (player.decided abi clock).maxBufferSize abi = player.maxBufferSize abi :=
      SameStream.maxBufferSize hDecided.toSameStream
    obtain ⟨-, hMax⟩ := maxBufferSize_whole abi hSize
    refine ⟨player.maxBufferSize abi, 1, [], fun memory run hRun => ?_⟩
    obtain ⟨tempBuffers, ix, -, hCallback⟩ := bqPlayerCallback_memory abi clock player memory
    rw [hCallback, if_neg hPlaying] at hRun
    obtain rfl := Option.some.inj hRun
    refine ⟨List.nil_sublist _, ?_⟩
    intro buffer hBuffer
    have hData := fillerBuffer_data abi (player.nextBuffer.bufPtr abi)
      ((player.decided abi clock).withRest tempBuffers ix player.monitor)
      (hBytes ▸ hMax.trans_lt (by decide))
    rw [List.mem_singleton.mp hBuffer]
    exact hData.trans (hBytes ▸ (List.append_nil _).symm)

/-- A byte that was in the sample buffers before: it makes a difference. -/
theorem not_playsReal_of_stale (address j : Nat)
    (hStale : ∀ memory, ∃ run, ∃ buffer ∈ run.enqueued,
      bqPlayerCallback abi clock { player with tempBuffers := memory } = some run ∧
        buffer.data[j]? = some (memory address)) :
    ¬ player.PlaysReal abi clock := by
  rintro ⟨count, value, frames, hPlays⟩
  obtain ⟨run, buffer, hBuffer, hRun, hByte⟩ := hStale fun _ => 0
  obtain ⟨run', buffer', hBuffer', hRun', hByte'⟩ := hStale fun _ => 1
  rw [(hPlays _ run hRun).data buffer hBuffer] at hByte
  rw [(hPlays _ run' hRun').data buffer' hBuffer', hByte] at hByte'
  exact absurd (Option.some.inj hByte') (by decide)

/-- The byte of a silenced buffer that neither the silence nor the frames reach. -/
theorem silenced_stale (hWell : player.WellFormed abi)
    (hBytes : player.maxBufferSize abi = player.globalFramesPerBuffers * player.frameSize abi)
    {drop : Int} (hCovers : ¬ player.SilenceCovers abi drop) (bufPtr : Nat) :
    ∃ j < player.maxBufferSize abi, ∀ tempBuffers tempBuffersIx monitor,
      ((player.withRest tempBuffers tempBuffersIx monitor).silenced abi bufPtr drop).tempBuffers
        (2 * bufPtr + j) = tempBuffers (2 * bufPtr + j) := by
  have hLength := length_flatten
    (hWell.read_lengths (abi.size (player.globalFramesPerBuffers - drop)))
  rw [BoundedQueue.read_length] at hLength
  have hStale {j : Nat} (hSilence : player.silenceSamples abi drop ≤ j)
      (hFrames : j < 2 * player.silenceSamples abi drop ∨
        2 * player.silenceSamples abi drop +
          min (abi.size (player.globalFramesPerBuffers - drop)) player.fifo.fill *
            player.frameSize abi ≤ j) (tempBuffers : Pointer) (tempBuffersIx : Nat)
      (monitor : Monitor) :
      ((player.withRest tempBuffers tempBuffersIx monitor).silenced abi bufPtr drop).tempBuffers
        (2 * bufPtr + j) = tempBuffers (2 * bufPtr + j) := by
    have hOuter := sameOutside_store (store tempBuffers
      (2 * (bufPtr + player.silenceSamples abi drop))
      (player.fifo.read (abi.size (player.globalFramesPerBuffers - drop))).2.flatten)
      (2 * bufPtr) (List.replicate (player.silenceSamples abi drop) 0) (2 * bufPtr + j)
      (by rw [List.length_replicate]; omega)
    have hInner := sameOutside_store tempBuffers (2 * (bufPtr + player.silenceSamples abi drop))
      (player.fifo.read (abi.size (player.globalFramesPerBuffers - drop))).2.flatten
      (2 * bufPtr + j) (by omega)
    exact hOuter.trans hInner
  have hNot : ¬ (player.maxBufferSize abi ≤ player.silenceSamples abi drop ∨
      player.silenceSamples abi drop = 0 ∧ player.globalFramesPerBuffers ≤
        min (abi.size (player.globalFramesPerBuffers - drop)) player.fifo.fill) :=
    fun hBoth => hCovers fun _ _ => hBoth
  rcases Nat.eq_zero_or_pos (player.silenceSamples abi drop) with hZero | hPos
  · refine ⟨min (abi.size (player.globalFramesPerBuffers - drop)) player.fifo.fill *
      player.frameSize abi, ?_, hStale (by omega) (by omega)⟩
    rw [hBytes]
    apply Nat.mul_lt_mul_of_pos_right (by omega)
    by_contra hNothing
    have hEmpty : player.frameSize abi = 0 := by omega
    rw [hEmpty, Nat.mul_zero] at hBytes
    omega
  · exact ⟨player.silenceSamples abi drop, by omega, hStale (Nat.le_refl _) (by omega)⟩

/-- A full read of less than a buffer, of which nothing is dropped: the byte behind it. -/
theorem squeezed_stale (hWell : player.WellFormed abi)
    (hWhole : player.frameSize abi = 2 * player.currentNumChannels)
    (hPos : 0 < player.frameSize abi)
    (hSmall : player.globalFramesPerBuffers * player.frameSize abi < 2 ^ 32)
    {requestFrames : Nat} (hSome : 0 < requestFrames) (hFull : requestFrames ≤ player.fifo.fill)
    {drop : Int} (hDrop : drop < 0) (hFew : requestFrames < player.globalFramesPerBuffers)
    (bufPtr : Nat) :
    ∃ run, ∃ buffer ∈ run.enqueued,
      player.playFrames abi bufPtr requestFrames (some drop) = some run ∧
        buffer.data[requestFrames * player.frameSize abi]? =
          some (player.tempBuffers (2 * bufPtr + requestFrames * player.frameSize abi)) := by
  have hLength := player.fifo.read_length requestFrames
  rw [Nat.min_eq_left hFull] at hLength
  have hReturns := (squeeze_isSome_iff abi bufPtr (player.fifoRead (2 * bufPtr) requestFrames).1
    hSome).mpr ⟨hDrop.ne, fun hMore => absurd hDrop (by omega)⟩
  obtain ⟨squeezed, hSqueeze⟩ := Option.isSome_iff_exists.mp hReturns
  have hRun : player.playFrames abi bufPtr requestFrames (some drop) = some (enqueueRun abi bufPtr
      player.globalFramesPerBuffers (player.fifo.read requestFrames).2 squeezed) := by
    rw [playFrames_of_full hSome hFull, hSqueeze]
    rfl
  refine ⟨_, _, List.mem_singleton_self _, hRun, ?_⟩
  have hFrame : squeezed.frameSize abi = player.frameSize abi :=
    frameSize_congr abi (sameSetup_squeeze hSqueeze).channels
  have hWide := abi.two_pow_bits_ge
  have hLess := Nat.mul_lt_mul_of_pos_right hFew hPos
  unfold enqueueFrames
  rw [size_frameCount, hFrame, Nat.mod_eq_of_lt (by omega)]
  refine (slBuffer_getElem (2 * bufPtr) hSmall hLess).trans (congrArg some ?_)
  have hRead := sameOutside_store player.tempBuffers (2 * bufPtr)
    (player.fifo.read requestFrames).2.flatten
    (2 * bufPtr + requestFrames * player.frameSize abi)
    (by rw [length_flatten (hWell.read_lengths requestFrames), hLength]; omega)
  obtain ⟨-, result, hResult, rfl⟩ := squeeze_eq_some hSqueeze
  have hLoop := sameOutside_dropFrames (Nat.le_refl 0) hResult
  refine (hLoop _ (Or.inr ?_)).trans hRead
  rw [hWhole, Nat.zero_add]
  show 2 * (bufPtr + requestFrames * player.currentNumChannels) ≤ _
  rw [Nat.mul_left_comm]
  omega

/-- Frames behind silence that do not cover the buffer: some byte is an old one. -/
theorem playSilence_stale (hWell : player.WellFormed abi)
    (hSize : player.globalFramesPerBuffers * (player.currentNumChannels * 2) ≤ MAX_BUFFER_SIZE)
    {drop : Int} (hCovers : ¬ player.SilenceCovers abi drop) (bufPtr : Nat) :
    ∃ j, ∀ tempBuffers tempBuffersIx monitor, ∃ buffer ∈
        ((player.withRest tempBuffers tempBuffersIx monitor).playSilence abi bufPtr drop).enqueued,
      buffer.data[j]? = some (tempBuffers (2 * bufPtr + j)) := by
  obtain ⟨hBytes, hMax⟩ := maxBufferSize_whole abi hSize
  obtain ⟨j, hj, hStale⟩ := silenced_stale hWell hBytes hCovers bufPtr
  refine ⟨j, fun tempBuffers tempBuffersIx monitor => ?_⟩
  have hRun := silenced_playSilence abi bufPtr drop
    (player.withRest tempBuffers tempBuffersIx monitor)
  generalize (player.withRest tempBuffers tempBuffersIx monitor).playSilence abi bufPtr drop = run
    at hRun
  cases hRun with
  | filler hNone => exact absurd (fun hRoom hSome => absurd ⟨hRoom, hSome⟩ hNone) hCovers
  | frames hRoom hSome =>
      refine ⟨_, List.mem_singleton_self _, ?_⟩
      exact (slBuffer_getElem (2 * bufPtr) (hMax.trans_lt (by decide)) hj).trans
        (congrArg some (hStale tempBuffers tempBuffersIx monitor))

/-- A playing callback that does not cover the buffer enqueues an old byte, with less than 4 GB in
the FIFO. -/
theorem play_stale (hWell : player.WellFormed abi) (hChannels : 0 < player.currentNumChannels)
    (hSize : player.globalFramesPerBuffers * (player.currentNumChannels * 2) ≤ MAX_BUFFER_SIZE)
    (hFifo : player.fifo.fill * player.frameSize abi < 2 ^ 32) (bufPtr : Nat)
    (hCovers : ¬ ((player.jumpFor player.currentDiff = .silence →
        player.SilenceCovers abi (-player.currentDrop)) ∧
      (player.jumpFor player.currentDiff = .speedUp → player.CatchUpCovers abi))) :
    ∃ j, ∀ tempBuffers tempBuffersIx monitor, ∃ run, ∃ buffer ∈ run.enqueued,
      (player.withRest tempBuffers tempBuffersIx monitor).play abi bufPtr = some run ∧
        buffer.data[j]? = some (tempBuffers (2 * bufPtr + j)) := by
  have hJump (tempBuffers : Pointer) (tempBuffersIx : Nat) (monitor : Monitor) :
      (player.withRest tempBuffers tempBuffersIx monitor).jumpFor
        (player.withRest tempBuffers tempBuffersIx monitor).currentDiff =
          player.jumpFor player.currentDiff := rfl
  unfold play
  simp only [hJump]
  cases hCase : player.jumpFor player.currentDiff with
  | none => simp [hCase] at hCovers
  | silence =>
      have hNot : ¬ player.SilenceCovers abi (-player.currentDrop) := by
        simpa [hCase] using hCovers
      obtain ⟨j, hStale⟩ := playSilence_stale hWell hSize hNot bufPtr
      refine ⟨j, fun tempBuffers tempBuffersIx monitor => ?_⟩
      obtain ⟨buffer, hBuffer, hByte⟩ := hStale tempBuffers tempBuffersIx monitor
      exact ⟨_, buffer, hBuffer, rfl, hByte⟩
  | speedUp =>
      have hNot : ¬ player.CatchUpCovers abi := by
        simpa [hCase] using hCovers
      unfold CatchUpCovers at hNot
      dsimp only at hNot
      split_ifs at hNot with hFull
      · simp only [Classical.not_imp, not_le] at hNot
        obtain ⟨hSome, hDrop, hFew⟩ := hNot
        have hWhole : player.frameSize abi = 2 * player.currentNumChannels :=
          frameSize_whole (by omega) hSize
        obtain ⟨hBytes, hMax⟩ := maxBufferSize_whole abi hSize
        rw [hBytes] at hMax
        have hPos : 0 < player.frameSize abi := by omega
        refine ⟨(player.speedUpRequest abi player.currentDrop).1 * player.frameSize abi, ?_⟩
        intro tempBuffers tempBuffersIx monitor
        exact squeezed_stale (hWell.withRest tempBuffers tempBuffersIx monitor) hWhole hPos
          (hMax.trans_lt (by decide)) hSome hFull hDrop hFew bufPtr
      · exact absurd hFifo hNot

/-- The condition is exact for a run of the callback that skips nothing, with less than 4 GB in the
FIFO. -/
theorem covers_of_playsReal (hReal : player.PlaysReal abi clock) (hWell : player.WellFormed abi)
    (hChannels : 0 < player.currentNumChannels)
    (hSize : player.globalFramesPerBuffers * (player.currentNumChannels * 2) ≤ MAX_BUFFER_SIZE)
    (hNone : player.skipped abi clock = [])
    (hFifo : (player.decided abi clock).fifo.fill * player.frameSize abi < 2 ^ 32) :
    player.Covers abi clock := by
  intro hPlaying
  have hSetup := sameSetup_measured abi clock player
  have hFrame : (player.measured abi clock).frameSize abi = player.frameSize abi :=
    frameSize_congr abi hSetup.channels
  by_contra hNot
  obtain ⟨j, hStale⟩ := play_stale (hWell.measured clock) (hSetup.channels.symm ▸ hChannels)
    (by rw [hSetup.framesPerBuffers, hSetup.channels]; exact hSize)
    (by rw [fifo_measured, hFrame]; exact hFifo) (player.nextBuffer.bufPtr abi) hNot
  apply not_playsReal_of_stale (2 * player.nextBuffer.bufPtr abi + j) j _ hReal
  intro memory
  obtain ⟨tempBuffers, ix, hMemory, hCallback⟩ := bqPlayerCallback_memory abi clock player memory
  obtain ⟨run, buffer, hBuffer, hPlay, hByte⟩ := hStale memory ix player.monitor
  rw [hMemory hNone, if_pos hPlaying, hPlay] at hCallback
  exact ⟨{ run with consumed := player.skipped abi clock ++ run.consumed }, buffer, hBuffer,
    hCallback, hByte⟩

end Callback

end State

namespace System

/-- A run of the callback plays only real audio. -/
def PlaysReal (platform : Platform) (system : System) : Event → Prop
  | .bufferFinished clock => system.player.PlaysReal platform.abi clock
  | _ => True

/-- What a run of the callback writes covers what it enqueues. -/
def Covers (platform : Platform) (system : System) : Event → Prop
  | .bufferFinished clock => system.player.Covers platform.abi clock
  | _ => True

/-- A run of the callback skips nothing, with less than 4 GB in the FIFO. -/
def SkipsNothing (platform : Platform) (system : System) : Event → Prop
  | .bufferFinished clock => system.player.skipped platform.abi clock = [] ∧
      (system.player.decided platform.abi clock).fifo.fill *
        system.player.frameSize platform.abi < 2 ^ 32
  | _ => True

instance (platform : Platform) (system : System) (event : Event) :
    Decidable (system.Covers platform event) :=
  match event with
  | .bufferFinished clock => inferInstanceAs (Decidable (system.player.Covers platform.abi clock))
  | .enqueuePCMFrames _ _ => isTrue trivial
  | .advanceCall _ => isTrue trivial
  | .syncPlayback _ _ _ => isTrue trivial
  | .monitorPlayback _ => isTrue trivial
  | .setSystemTimeOffset _ => isTrue trivial
  | .setDeviceLatency _ => isTrue trivial

instance (platform : Platform) (system : System) (event : Event) :
    Decidable (system.SkipsNothing platform event) :=
  match event with
  | .bufferFinished _ => inferInstanceAs (Decidable (_ ∧ _))
  | .enqueuePCMFrames _ _ => isTrue trivial
  | .advanceCall _ => isTrue trivial
  | .syncPlayback _ _ _ => isTrue trivial
  | .monitorPlayback _ => isTrue trivial
  | .setSystemTimeOffset _ => isTrue trivial
  | .setDeviceLatency _ => isTrue trivial

/-- The FIFO holds frames of the stream, and a device buffer is at most `MAX_BUFFER_SIZE` bytes. -/
structure FitsFrames (abi : Abi) (system : System) : Prop where
  wellFormed : system.player.WellFormed abi
  channels : 0 < system.player.currentNumChannels
  size : system.player.globalFramesPerBuffers * (system.player.currentNumChannels * 2) ≤
    MAX_BUFFER_SIZE

theorem FitsFrames.step {platform : Platform} {system next : System} {event : Event}
    (hFits : system.FitsFrames platform.abi) (hStep : system.step platform event = some next) :
    next.FitsFrames platform.abi := by
  have hStream := sameStream_step hStep
  refine ⟨wellFormed_step hFits.wellFormed hStep, hStream.channels.symm ▸ hFits.channels, ?_⟩
  rw [hStream.framesPerBuffers, hStream.channels]
  exact hFits.size

theorem fitsFrames_start {abi : Abi} {clock : Clock} {samplesPerSec numChannels : BitVec 32}
    {player : State} {run : Run}
    (hInit : initPlayback abi clock samplesPerSec numChannels player = some run)
    (hSize : player.globalFramesPerBuffers * (numChannels.toNat * 2) ≤ MAX_BUFFER_SIZE) :
    (start run).FitsFrames abi := by
  obtain ⟨hPos, hFrame, -, hRun⟩ := initPlayback_eq_some hInit
  have hPlayer : (start run).player = _ := congrArg Prod.fst hRun
  have hChannels : 0 < numChannels.toNat := by
    by_contra hZero
    have hNothing : numChannels.toNat = 0 := by omega
    rw [hNothing] at hFrame
    cases abi <;> exact absurd hFrame (by decide)
  have hDevice := Nat.le_mul_of_pos_right player.globalFramesPerBuffers
    (by omega : 0 < numChannels.toNat * 2)
  constructor
  · exact wellFormed_start hInit ((hDevice.trans hSize).trans_lt (by decide))
  · rw [hPlayer]
    exact hChannels
  · rw [hPlayer]
    exact hSize

/-- The run of the callback that `audioplayer_initPlayback` makes plays filler. -/
theorem plays_initPlayback {abi : Abi} {clock : Clock} {samplesPerSec numChannels : BitVec 32}
    {player : State} {run : Run}
    (hInit : initPlayback abi clock samplesPerSec numChannels player = some run)
    (hSize : player.globalFramesPerBuffers * (numChannels.toNat * 2) ≤ MAX_BUFFER_SIZE) :
    run.Plays (run.player.maxBufferSize abi) 1 [] := by
  obtain ⟨hPos, -, hConsumed, hRun⟩ := initPlayback_eq_some hInit
  obtain ⟨hPlayer, hEnqueued⟩ := Prod.mk.inj hRun
  have hMax : (player.reset samplesPerSec numChannels hPos).nextBuffer.maxBufferSize abi ≤
      MAX_BUFFER_SIZE := (State.maxBufferSize_whole abi hSize).2
  have hData := State.fillerBuffer_data abi
    ((player.reset samplesPerSec numChannels hPos).nextBuffer.bufPtr abi)
    (player.reset samplesPerSec numChannels hPos).nextBuffer (hMax.trans_lt (by decide))
  refine ⟨List.nil_sublist _, fun buffer hBuffer => ?_⟩
  rw [hEnqueued] at hBuffer
  rw [List.mem_singleton.mp hBuffer, hData, hPlayer]
  exact (List.append_nil _).symm

/-- Only real audio is played: by the callback in `audioplayer_initPlayback`, and in every run
since then in which the callback always covers what it enqueues. -/
theorem meets_playsReal (platform : Platform) (clock : Clock)
    (samplesPerSec numChannels : BitVec 32) (player : State) (run : Run)
    (hInit : initPlayback platform.abi clock samplesPerSec numChannels player = some run)
    (hSize : player.globalFramesPerBuffers * (numChannels.toNat * 2) ≤ MAX_BUFFER_SIZE)
    (events : List Event) (hCovers : Meets (step platform) (Covers platform) (start run) events) :
    (∃ count value frames, run.Plays count value frames) ∧
      Meets (step platform) (PlaysReal platform) (start run) events := by
  refine ⟨⟨_, _, _, plays_initPlayback hInit hSize⟩, ?_⟩
  apply meets_of_inv _ (fitsFrames_start hInit hSize) hCovers
  intro system event next hFits hOk hStep
  refine ⟨?_, hFits.step hStep⟩
  cases event with
  | bufferFinished clock => exact hOk.playsReal hFits.wellFormed hFits.size
  | _ => trivial

/-- Playback of a mono stream of 8 kHz begins with its first frame. -/
def firstFrame : List Event :=
  [.syncPlayback 0 1000 0] ++ wholeCall [1, 2] 125 0 ++ [.bufferFinished ⟨1000, 10000⟩]

theorem meets_playsReal_firstFrame :
    ∃ run, initPlayback .ilp32 ⟨0, 10000⟩ 8000#32 1#32 (State.boot 48000#32 160#32) = some run ∧
      (∃ count value frames, run.Plays count value frames) ∧
        Meets (step ⟨.ilp32, fun _ _ => 0⟩) (PlaysReal ⟨.ilp32, fun _ _ => 0⟩) (start run)
          firstFrame := by
  obtain ⟨run, hInit⟩ := initPlayback_isSome .ilp32 ⟨0, 10000⟩ (State.boot 48000#32 160#32)
    (by decide : 0 < State.fifoFrames 8000#32) (by decide : 0 < Abi.ilp32.size ((1#32).toNat * 2))
  have hSteps : (initPlayback .ilp32 ⟨0, 10000⟩ 8000#32 1#32 (State.boot 48000#32 160#32)).all
      fun run => Meets (step ⟨.ilp32, fun _ _ => 0⟩) (Covers ⟨.ilp32, fun _ _ => 0⟩) (start run)
        firstFrame := by
    decide
  rw [hInit, Option.all_some, decide_eq_true_iff] at hSteps
  exact ⟨run, hInit, meets_playsReal ⟨.ilp32, fun _ _ => 0⟩ ⟨0, 10000⟩ _ _ _ run hInit (by decide) _
    hSteps⟩

/-- Where the callback skips nothing, it always covers what it enqueues if it plays real audio. -/
theorem meets_covers {platform : Platform} {clock : Clock} {samplesPerSec numChannels : BitVec 32}
    {player : State} {run : Run}
    (hInit : initPlayback platform.abi clock samplesPerSec numChannels player = some run)
    (hSize : player.globalFramesPerBuffers * (numChannels.toNat * 2) ≤ MAX_BUFFER_SIZE)
    {events : List Event}
    (hSkips : Meets (step platform) (SkipsNothing platform) (start run) events)
    (hReal : Meets (step platform) (PlaysReal platform) (start run) events) :
    Meets (step platform) (Covers platform) (start run) events := by
  apply meets_of_inv _ (fitsFrames_start hInit hSize) (hReal.and hSkips)
  intro system event next hFits hOk hStep
  refine ⟨?_, hFits.step hStep⟩
  cases event with
  | bufferFinished clock =>
      exact State.covers_of_playsReal hOk.1 hFits.wellFormed hFits.channels hFits.size hOk.2.1
        hOk.2.2
  | _ => trivial

/-- Then there is one more frame, and the clock offset is set back by 6 ms: 48 frames of silence
are followed by this one. -/
def setBack : List Event :=
  firstFrame ++ wholeCall [3, 4] 250 1 ++
    [.monitorPlayback 3000001, .setSystemTimeOffset (-6000), .bufferFinished ⟨1125, 10000⟩]

theorem not_meets_playsReal_setBack :
    ∃ run, initPlayback .ilp32 ⟨0, 10000⟩ 8000#32 1#32 (State.boot 48000#32 160#32) = some run ∧
      ¬ Meets (step ⟨.ilp32, fun _ _ => 0⟩) (PlaysReal ⟨.ilp32, fun _ _ => 0⟩) (start run)
        setBack := by
  obtain ⟨run, hInit⟩ := initPlayback_isSome .ilp32 ⟨0, 10000⟩ (State.boot 48000#32 160#32)
    (by decide : 0 < State.fifoFrames 8000#32) (by decide : 0 < Abi.ilp32.size ((1#32).toNat * 2))
  have hSteps : (initPlayback .ilp32 ⟨0, 10000⟩ 8000#32 1#32 (State.boot 48000#32 160#32)).all
      fun run => Meets (step ⟨.ilp32, fun _ _ => 0⟩) (SkipsNothing ⟨.ilp32, fun _ _ => 0⟩)
          (start run) setBack ∧
        ¬ Meets (step ⟨.ilp32, fun _ _ => 0⟩) (Covers ⟨.ilp32, fun _ _ => 0⟩) (start run)
          setBack := by
    decide
  rw [hInit, Option.all_some, decide_eq_true_iff] at hSteps
  exact ⟨run, hInit, fun hReal => hSteps.2 (meets_covers hInit (by decide) hSteps.1 hReal)⟩

end System

end AudioSync.Player
