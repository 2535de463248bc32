import AudioSync.Player.Footprint
import AudioSync.Player.FrameConservation

/-! Whether the callback stays inside `tempBuffers`. The place of a buffer is computed in bytes,
but it advances a pointer to samples. -/
namespace AudioSync.Player

open MachineInt Transition Footprint

instance : Nontrivial Byte := ⟨0, 1, by decide⟩

/-- The sample that the byte belongs to is one of `tempBuffers`. -/
def InTempBuffers (address : Nat) : Prop := address / 2 < MAX_BUFFER_SIZE * N_BUFFERS

/-- So many frames from a sample on are inside `tempBuffers`. -/
def HasRoom (start channels frames : Nat) : Prop :=
  frames = 0 ∨ start + frames * channels ≤ MAX_BUFFER_SIZE * N_BUFFERS

instance (start channels frames : Nat) : Decidable (HasRoom start channels frames) :=
  inferInstanceAs (Decidable (_ ∨ _))

/-- A run enqueues bytes of `tempBuffers`. -/
def EnqueuedInside (run : Run) : Prop :=
  ∀ buffer ∈ run.enqueued, ∀ i < buffer.data.length, InTempBuffers (buffer.address + i)

namespace State

/-- A run of the callback only writes and enqueues samples of `tempBuffers`: at the start decision,
in all, before a division by zero may end it, and by `Enqueue`. -/
structure Inside (abi : Abi) (clock : Clock) (player : State) : Prop where
  late : ∀ address, Changes
    (fun memory => some ((player.withMemory memory).decided abi clock).tempBuffers) address →
      InTempBuffers address
  written : ∀ address, Changes (player.finalMemory abi clock) address → InTempBuffers address
  loop : ∀ frameCount drop, player.dropLoop abi clock = some (frameCount, drop) →
    ∀ i < frameCount * player.currentNumChannels,
      player.nextBuffer.bufPtr abi + i < MAX_BUFFER_SIZE * N_BUFFERS
  enqueued : ∀ run, bqPlayerCallback abi clock player = some run → EnqueuedInside run

/-- A full read that is squeezed into one buffer: there is no division by zero. -/
def SqueezesAll (requestFrames : Nat) (drop : Int) (player : State) : Prop :=
  (0 < requestFrames ∧ requestFrames ≤ player.fifo.fill) ∧
    drop ≠ 0 ∧ (0 < drop → toSigned 32 ((requestFrames : Int).tdiv drop) ≠ 0)

/-- What a playing callback handles has room from the first sample of the buffer on: what the FIFO
yields, or a whole buffer when it is squeezed or silent. Frames come after the silence. -/
def JumpHasRoom (abi : Abi) (start : Nat) (player : State) : Jump → Prop
  | .none => HasRoom start player.currentNumChannels
      (min player.globalFramesPerBuffers player.fifo.fill)
  | .speedUp =>
      let request := player.speedUpRequest abi player.currentDrop
      HasRoom start player.currentNumChannels (min request.1 player.fifo.fill) ∧
        (player.SqueezesAll request.1 request.2 →
          HasRoom start player.currentNumChannels player.globalFramesPerBuffers)
  | .silence =>
      let drop := -player.currentDrop
      (drop < player.globalFramesPerBuffers →
        HasRoom (start + player.silenceSamples abi drop) player.currentNumChannels
          (min (abi.size (player.globalFramesPerBuffers - drop)) player.fifo.fill)) ∧
        HasRoom start player.currentNumChannels player.globalFramesPerBuffers

def PlayHasRoom (abi : Abi) (start : Nat) (player : State) : Prop :=
  player.JumpHasRoom abi start (player.jumpFor player.currentDiff)

/-- The sample at which the next buffer starts. -/
def nextStart (player : State) : Nat :=
  2 * (player.globalFramesPerBuffers * player.currentNumChannels) *
    ((player.tempBuffersIx + 1) % N_BUFFERS)

/-- What a run of the callback handles has room: the frames that it skips, and what it plays or the
filler that it enqueues instead. -/
structure RunHasRoom (abi : Abi) (clock : Clock) (player : State) : Prop where
  late : player.SkipsLate clock → ∀ read ∈
    lateReads abi (player.frameSize abi) (player.overdueFrames clock) player.fifo.fill,
      HasRoom player.nextStart player.currentNumChannels read.2
  buffer :
    if (player.decided abi clock).currentIsPlaying then
      (player.measured abi clock).PlayHasRoom abi player.nextStart
    else HasRoom player.nextStart player.currentNumChannels player.globalFramesPerBuffers

instance (requestFrames : Nat) (drop : Int) (player : State) :
    Decidable (player.SqueezesAll requestFrames drop) :=
  inferInstanceAs (Decidable (_ ∧ _))

instance (abi : Abi) (start : Nat) (player : State) :
    (jump : Jump) → Decidable (player.JumpHasRoom abi start jump)
  | .none => inferInstanceAs (Decidable (HasRoom _ _ _))
  | .speedUp => inferInstanceAs (Decidable (_ ∧ _))
  | .silence => inferInstanceAs (Decidable (_ ∧ _))

instance (abi : Abi) (start : Nat) (player : State) : Decidable (player.PlayHasRoom abi start) :=
  inferInstanceAs (Decidable (player.JumpHasRoom abi start _))

instance (abi : Abi) (clock : Clock) (player : State) : Decidable (player.RunHasRoom abi clock) :=
  decidable_of_iff (_ ∧ _) ⟨fun hBoth => ⟨hBoth.1, hBoth.2⟩, fun hRoom => ⟨hRoom.1, hRoom.2⟩⟩

/-- A mono or stereo stream on a device whose buffer passes the test of `audioplayer_initGlobal`,
with frames of the stream in the FIFO. -/
structure PassesTest (abi : Abi) (player : State) : Prop where
  wellFormed : player.WellFormed abi
  channels : player.currentNumChannels = 1 ∨ player.currentNumChannels = 2
  framesPerBuffers : player.globalFramesPerBuffers ≤ MAX_BUFFER_SIZE

variable {abi : Abi} {clock : Clock} {player : State}

section Arithmetic

theorem PassesTest.frameSize (hTest : player.PassesTest abi) :
    player.frameSize abi = 2 * player.currentNumChannels :=
  frameSize_of_channels abi hTest.channels

theorem PassesTest.maxBufferSize (hTest : player.PassesTest abi) :
    player.maxBufferSize abi = player.globalFramesPerBuffers * (2 * player.currentNumChannels) ∧
      player.maxBufferSize abi ≤ 32768 := by
  have hFrames := hTest.framesPerBuffers
  have hWide := abi.two_pow_bits_ge
  unfold MAX_BUFFER_SIZE at hFrames
  have hLe : player.globalFramesPerBuffers * (2 * player.currentNumChannels) ≤ 32768 := by
    rcases hTest.channels with hMono | hStereo
    · rw [hMono]
      omega
    · rw [hStereo]
      omega
  have hBytes : player.maxBufferSize abi =
      player.globalFramesPerBuffers * (2 * player.currentNumChannels) := by
    rw [State.maxBufferSize, hTest.frameSize, ← Nat.cast_mul]
    exact Abi.size_of_lt (by omega)
  exact ⟨hBytes, hBytes ▸ hLe⟩

theorem PassesTest.bufPtr (hTest : player.PassesTest abi) :
    player.nextBuffer.bufPtr abi = player.nextStart := by
  obtain ⟨hBytes, hMax⟩ := hTest.maxBufferSize
  have hIndex := Nat.mod_lt (player.tempBuffersIx + 1) (by decide : 0 < N_BUFFERS)
  have hWide := abi.two_pow_bits_ge
  have hLe : player.maxBufferSize abi * ((player.tempBuffersIx + 1) % N_BUFFERS) ≤ 32768 * 3 :=
    Nat.mul_le_mul hMax hIndex.le
  show abi.size (player.maxBufferSize abi * ((player.tempBuffersIx + 1) % N_BUFFERS : Nat)) = _
  rw [← Nat.cast_mul, Abi.size_of_lt (by omega), hBytes, nextStart]
  ring

theorem forall_lt_iff_hasRoom {channels : Nat} (hChannels : 0 < channels) (start frames : Nat) :
    (∀ i < frames * channels, start + i < MAX_BUFFER_SIZE * N_BUFFERS) ↔
      HasRoom start channels frames := by
  unfold HasRoom
  constructor
  · intro hInside
    rcases Nat.eq_zero_or_pos frames with hNone | hSome
    · exact Or.inl hNone
    · have hPos : 0 < frames * channels := Nat.mul_pos hSome hChannels
      have hLast := hInside (frames * channels - 1) (by omega)
      exact Or.inr (by omega)
  · rintro (rfl | hRoom) i hIn
    · omega
    · omega

/-- The bytes of frames are inside exactly if the frames have room. -/
theorem extent_inside_iff {channels : Nat} (hChannels : 0 < channels) (start frames : Nat) :
    (∀ i ∈ extent (2 * start) (frames * (2 * channels)), InTempBuffers i) ↔
      HasRoom start channels frames := by
  have hBytes : frames * (2 * channels) = 2 * (frames * channels) := by ring
  rw [← forall_lt_iff_hasRoom hChannels, hBytes]
  unfold InTempBuffers
  constructor
  · intro hInside i hIn
    have hByte := hInside (2 * (start + i)) (mem_extent.mpr (by omega))
    omega
  · intro hInside i hIn
    rw [mem_extent] at hIn
    have hSample := hInside (i / 2 - start) (by omega)
    omega

end Arithmetic

section Play

theorem PassesTest.channels_pos (hTest : player.PassesTest abi) :
    0 < player.currentNumChannels := by
  rcases hTest.channels with hMono | hStereo <;> omega

/-- A buffer of frames that have room. -/
theorem enqueueRun_inside {start frameCount : Nat} {consumed : List Frame}
    (hRoom : HasRoom start player.currentNumChannels frameCount) :
    EnqueuedInside (enqueueRun abi start frameCount consumed player) := by
  intro buffer hBuffer i hi
  rw [List.mem_singleton.mp hBuffer, enqueueFrames_length, playedBytes, Nat.mul_assoc] at hi
  have hLess := Nat.mod_le (frameCount * (player.currentNumChannels * 2)) (2 ^ 32)
  rw [List.mem_singleton.mp hBuffer]
  show InTempBuffers (2 * start + i)
  unfold InTempBuffers
  rcases hRoom with rfl | hRoom
  · omega
  · rw [← Nat.mul_assoc] at hi hLess
    omega

/-- Conversely, where fewer than 4 GB are enqueued. -/
theorem hasRoom_of_enqueueRun {start frameCount : Nat} {consumed : List Frame}
    (hChannels : 0 < player.currentNumChannels)
    (hSmall : frameCount * (2 * player.currentNumChannels) < 2 ^ 32)
    (hInside : EnqueuedInside (enqueueRun abi start frameCount consumed player)) :
    HasRoom start player.currentNumChannels frameCount := by
  rw [← extent_inside_iff hChannels]
  intro i hIn
  rw [mem_extent] at hIn
  have hBuffer := hInside _ (List.mem_singleton_self _) (i - 2 * start)
  rw [enqueueFrames_length, playedBytes, Nat.mul_assoc, Nat.mul_comm player.currentNumChannels,
    Nat.mod_eq_of_lt hSmall] at hBuffer
  have hAddress : 2 * start + (i - 2 * start) = i := by omega
  exact hAddress ▸ hBuffer (by omega)

/-- A whole buffer that is enqueued. -/
theorem slBuffer_inside_iff (hTest : player.PassesTest abi) (start : Nat) (filled : State) :
    (∀ i < (filled.slBuffer (2 * start) (player.maxBufferSize abi)).data.length,
        InTempBuffers (2 * start + i)) ↔
      HasRoom start player.currentNumChannels player.globalFramesPerBuffers := by
  obtain ⟨hBytes, hMax⟩ := hTest.maxBufferSize
  rw [← extent_inside_iff hTest.channels_pos, slBuffer_length, toUnsigned_of_lt (by omega), hBytes]
  constructor
  · intro hInside i hIn
    rw [mem_extent] at hIn
    have hAddress : 2 * start + (i - 2 * start) = i := by omega
    exact hAddress ▸ hInside (i - 2 * start) (by omega)
  · intro hInside i hi
    exact hInside (2 * start + i) (mem_extent.mpr (by omega))

/-- What the FIFO yields has room, and the whole buffer when it is squeezed into one. -/
theorem playFrames_inside {start requestFrames : Nat} {drop : Option Int} {run : Run}
    (hRun : player.playFrames abi start requestFrames drop = some run)
    (hRoom : HasRoom start player.currentNumChannels (min requestFrames player.fifo.fill))
    (hWhole : ∀ d, drop = some d → player.SqueezesAll requestFrames d →
      HasRoom start player.currentNumChannels player.globalFramesPerBuffers) :
    EnqueuedInside run := by
  have hLength := player.fifo.read_length requestFrames
  rw [← hLength] at hRoom
  cases played_of_playFrames hRun with
  | starved hNone => exact fun buffer hBuffer => (nomatch hBuffer)
  | plain hSome hPlain => exact enqueueRun_inside hRoom
  | @squeezed d squeezed hSome hDrop hFull hSqueeze =>
      have hReturns := (squeeze_isSome_iff abi start (player.fifoRead (2 * start) requestFrames).1
        (Nat.pos_of_ne_zero hSome)).mp (Option.isSome_iff_exists.mpr ⟨squeezed, hSqueeze⟩)
      rw [hFull] at hReturns
      have hSame : squeezed.currentNumChannels = player.currentNumChannels :=
        (sameSetup_squeeze hSqueeze).channels
      apply enqueueRun_inside
      rw [hSame]
      exact hWhole d hDrop ⟨by omega, hReturns⟩

/-- A full read that is squeezed into a buffer that is inside. -/
theorem hasRoom_of_squeezed (hTest : player.PassesTest abi) {start requestFrames : Nat} {drop : Int}
    (hSqueezes : player.SqueezesAll requestFrames drop)
    (hInside : ∀ run, player.playFrames abi start requestFrames (some drop) = some run →
      EnqueuedInside run) :
    HasRoom start player.currentNumChannels player.globalFramesPerBuffers := by
  obtain ⟨hBytes, hMax⟩ := hTest.maxBufferSize
  obtain ⟨⟨hSome, hFull⟩, hZero, hMod⟩ := hSqueezes
  have hReturns : player.playFrames abi start requestFrames (some drop) ≠ none := by
    rw [Ne, playFrames_eq_none_iff]
    rintro ⟨-, hNone | ⟨hPos, hNone⟩⟩
    · exact hZero hNone
    · exact hMod hPos hNone
  obtain ⟨run, hRun⟩ := Option.ne_none_iff_exists'.mp hReturns
  have hLength := player.fifo.read_length requestFrames
  have hEnqueued := hInside run hRun
  cases played_of_playFrames hRun with
  | starved hNone => omega
  | plain hSome hPlain =>
      rcases hPlain with hNone | hShort
      · cases hNone
      · omega
  | @squeezed d squeezed hSome hDrop hEqual hSqueeze =>
      have hSame : squeezed.currentNumChannels = player.currentNumChannels :=
        (sameSetup_squeeze hSqueeze).channels
      rw [← hSame]
      apply hasRoom_of_enqueueRun _ _ hEnqueued
      · rw [hSame]
        exact hTest.channels_pos
      · rw [hSame]
        omega

/-- What silence takes: the frames behind it, and the whole buffer. -/
theorem playSilence_inside_iff (hTest : player.PassesTest abi) (start : Nat) (drop : Int) :
    ((∀ i ∈ player.silenceExtents abi start drop, InTempBuffers i) ∧
        EnqueuedInside (player.playSilence abi start drop)) ↔
      (drop < player.globalFramesPerBuffers →
        HasRoom (start + player.silenceSamples abi drop) player.currentNumChannels
          (min (abi.size (player.globalFramesPerBuffers - drop)) player.fifo.fill)) ∧
        HasRoom start player.currentNumChannels player.globalFramesPerBuffers := by
  obtain ⟨hBytes, hMax⟩ := hTest.maxBufferSize
  have hRun := silenced_playSilence abi start drop player
  generalize player.playSilence abi start drop = run at hRun
  unfold silenceExtents
  cases hRun with
  | @filler filled hNone hMemory hStream =>
      have hFilled : filled.maxBufferSize abi = player.maxBufferSize abi :=
        SameStream.maxBufferSize hStream
      have hEnqueued : EnqueuedInside ⟨(filled.fillerBuffer abi start).1, [],
          [(filled.fillerBuffer abi start).2]⟩ ↔
            HasRoom start player.currentNumChannels player.globalFramesPerBuffers := by
        rw [← slBuffer_inside_iff hTest start (filled.fillerBuffer abi start).1, ← hFilled]
        exact List.forall_mem_singleton
      have hNothing : drop < player.globalFramesPerBuffers →
          HasRoom (start + player.silenceSamples abi drop) player.currentNumChannels
            (min (abi.size (player.globalFramesPerBuffers - drop)) player.fifo.fill) := by
        intro hRoom
        exact Or.inl (by by_contra hSome; exact hNone ⟨hRoom, by omega⟩)
      rw [if_neg hNone, hEnqueued, and_iff_right hNothing]
      apply and_iff_right_of_imp
      rw [hBytes, extent_inside_iff hTest.channels_pos]
      exact id
  | frames hRoom hSome =>
      have hEnqueued : EnqueuedInside ⟨player.silenced abi start drop,
          (player.fifo.read (abi.size (player.globalFramesPerBuffers - drop))).2,
          [(player.silenced abi start drop).slBuffer (2 * start) (player.maxBufferSize abi)]⟩ ↔
            HasRoom start player.currentNumChannels player.globalFramesPerBuffers := by
        rw [← slBuffer_inside_iff hTest start (player.silenced abi start drop)]
        exact List.forall_mem_singleton
      rw [if_pos ⟨hRoom, hSome⟩, hEnqueued, forall_prop_of_true hRoom]
      apply and_congr_left'
      have hFrames := extent_inside_iff hTest.channels_pos
        (start + player.silenceSamples abi drop)
        (min (abi.size (player.globalFramesPerBuffers - drop)) player.fifo.fill)
      rw [← hTest.frameSize] at hFrames
      rw [← hFrames]
      constructor
      · exact fun hBoth i hIn => hBoth i (Or.inl hIn)
      · rintro hBehind i (hIn | hIn)
        · exact hBehind i hIn
        · -- The silence ends before the frames do.
          rcases hFrames.mp hBehind with hNone | hEnd
          · omega
          · rw [mem_extent] at hIn
            unfold InTempBuffers
            omega

/-- All that a playing callback stores and enqueues is inside if it has room. -/
theorem play_inside_iff (hTest : player.PassesTest abi) (start : Nat) :
    ((∀ i ∈ player.playExtents abi start, InTempBuffers i) ∧
        ∀ run, player.play abi start = some run → EnqueuedInside run) ↔
      player.PlayHasRoom abi start := by
  unfold playExtents play PlayHasRoom JumpHasRoom
  cases player.jumpFor player.currentDiff with
  | silence =>
      dsimp only
      rw [← playSilence_inside_iff hTest start (-player.currentDrop)]
      simp only [Option.some.injEq, forall_eq']
  | none =>
      dsimp only
      rw [hTest.frameSize, extent_inside_iff hTest.channels_pos]
      apply and_iff_left_of_imp
      intro hRoom run hRun
      exact playFrames_inside hRun hRoom fun d hDrop => nomatch hDrop
  | speedUp =>
      dsimp only
      rw [hTest.frameSize, extent_inside_iff hTest.channels_pos]
      constructor
      · rintro ⟨hRoom, hInside⟩
        exact ⟨hRoom, fun hSqueezes => hasRoom_of_squeezed hTest hSqueezes hInside⟩
      · rintro ⟨hRoom, hWhole⟩
        refine ⟨hRoom, fun run hRun => playFrames_inside hRun hRoom fun d hDrop hSqueezes => ?_⟩
        obtain rfl := Option.some.inj hDrop
        exact hWhole hSqueezes

end Play

section Run

/-- The start decision changes what it stores frames over. -/
theorem changes_late_iff (hTest : player.PassesTest abi) (clock : Clock) (address : Nat) :
    Changes (fun memory => some ((player.withMemory memory).decided abi clock).tempBuffers)
        address ↔
      address ∈ player.lateExtents abi clock := by
  obtain ⟨f, hStores, hDecided⟩ := decided_stores hTest.wellFormed clock
  have hMemory (memory : Pointer) :
      some ((player.withMemory memory).decided abi clock).tempBuffers = some (f memory) := by
    rw [(hDecided memory).1]
    rfl
  rw [funext hMemory]
  have hReturns : ∃ memory result, some (f memory) = some result :=
    ⟨player.tempBuffers, f player.tempBuffers, rfl⟩
  exact changes_iff hStores (confined_some _) hReturns address

theorem mem_extents_of_changes (hTest : player.PassesTest abi) {address : Nat}
    (hChanges : Changes (player.finalMemory abi clock) address) :
    address ∈ player.extents abi clock := by
  obtain ⟨f, k, hStores, hConfined, hFinal⟩ :=
    finalMemory_stores hTest.wellFormed hTest.frameSize clock
  rw [funext hFinal] at hChanges
  have hReturns := hChanges
  obtain ⟨memory, result, hRun, -⟩ := hReturns
  exact (changes_iff hStores hConfined ⟨memory, result, hRun⟩ address).mp hChanges

/-- A run of the callback that returns changes all of its footprint. -/
theorem changes_of_mem_extents (hTest : player.PassesTest abi) {run : Run}
    (hRun : bqPlayerCallback abi clock player = some run) {address : Nat}
    (hIn : address ∈ player.extents abi clock) :
    Changes (player.finalMemory abi clock) address := by
  obtain ⟨f, k, hStores, hConfined, hFinal⟩ :=
    finalMemory_stores hTest.wellFormed hTest.frameSize clock
  have hReturns : player.finalMemory abi clock player.tempBuffers = some run.player.tempBuffers :=
    congrArg (Option.map _) hRun
  rw [hFinal] at hReturns
  rw [funext hFinal]
  exact (changes_iff hStores hConfined ⟨_, _, hReturns⟩ address).mpr hIn

theorem lateExtents_inside_iff (hTest : player.PassesTest abi) (clock : Clock) :
    (∀ i ∈ player.lateExtents abi clock, InTempBuffers i) ↔
      (player.SkipsLate clock → ∀ read ∈
        lateReads abi (player.frameSize abi) (player.overdueFrames clock) player.fifo.fill,
          HasRoom player.nextStart player.currentNumChannels read.2) := by
  have hExtent (frames : Nat) := extent_inside_iff hTest.channels_pos player.nextStart frames
  rw [← hTest.bufPtr, ← hTest.frameSize] at hExtent
  constructor
  · intro hInside hSkips read hRead
    rw [← hTest.bufPtr, ← hExtent]
    exact fun i hIn => hInside i ⟨hSkips, read, hRead, hIn⟩
  · rintro hRoom i ⟨hSkips, read, hRead, hIn⟩
    have hFrames := hRoom hSkips read hRead
    rw [← hTest.bufPtr, ← hExtent] at hFrames
    exact hFrames i hIn

theorem PassesTest.measured (hTest : player.PassesTest abi) (clock : Clock) :
    (player.measured abi clock).PassesTest abi := by
  have hSetup := sameSetup_measured abi clock player
  constructor
  · exact hTest.wellFormed.measured clock
  · rw [hSetup.channels]
    exact hTest.channels
  · rw [hSetup.framesPerBuffers]
    exact hTest.framesPerBuffers

/-- What comes to the frame-dropping loop has room. -/
theorem hasRoom_dropLoop (hRoom : (player.measured abi clock).PlayHasRoom abi player.nextStart)
    {frameCount : Nat} {drop : Int}
    (hLoop : player.dropLoop abi clock = some (frameCount, drop)) :
    HasRoom player.nextStart player.currentNumChannels frameCount := by
  obtain ⟨⟨-, hJump, -, hFill⟩, hRequest⟩ := dropLoop_eq_some.mp hLoop
  simp only [PlayHasRoom, JumpHasRoom, hJump, hRequest] at hRoom
  rw [Nat.min_eq_left hFill, (sameSetup_measured abi clock player).channels] at hRoom
  exact hRoom.1

/-- Before a division by zero a full read has been made, and nothing is squeezed. -/
theorem playHasRoom_of_halts {frameCount : Nat} {drop : Int}
    (hLoop : player.dropLoop abi clock = some (frameCount, drop))
    (hDivides : drop = 0 ∨ 0 < drop ∧ toSigned 32 ((frameCount : Int).tdiv drop) = 0)
    (hRoom : HasRoom player.nextStart player.currentNumChannels frameCount) :
    (player.measured abi clock).PlayHasRoom abi player.nextStart := by
  obtain ⟨⟨-, hJump, -, hFill⟩, hRequest⟩ := dropLoop_eq_some.mp hLoop
  simp only [PlayHasRoom, JumpHasRoom, hJump, hRequest]
  rw [Nat.min_eq_left hFill, (sameSetup_measured abi clock player).channels]
  refine ⟨hRoom, fun hSqueezes => ?_⟩
  obtain ⟨-, hZero, hMod⟩ := hSqueezes
  rcases hDivides with hEq | ⟨hPos, hEq⟩
  · exact absurd hEq hZero
  · exact absurd hEq (hMod hPos)

/-- What a run stores and enqueues is inside if the buffer has room. -/
theorem buffer_inside_iff (hTest : player.PassesTest abi) :
    ((∀ i ∈ player.bufferExtents abi clock, InTempBuffers i) ∧
        ∀ run, bqPlayerCallback abi clock player = some run → EnqueuedInside run) ↔
      if (player.decided abi clock).currentIsPlaying then
        (player.measured abi clock).PlayHasRoom abi player.nextStart
      else HasRoom player.nextStart player.currentNumChannels player.globalFramesPerBuffers := by
  rw [bqPlayerCallback_eq, ← hTest.bufPtr]
  unfold bufferExtents
  dsimp only
  by_cases hPlaying : (player.decided abi clock).currentIsPlaying = true
  · simp only [if_pos hPlaying]
    rw [← play_inside_iff (hTest.measured clock)]
    apply and_congr_right'
    constructor
    · intro hInside run hPlay
      exact hInside { run with consumed := player.skipped abi clock ++ run.consumed }
        (congrArg (Option.map _) hPlay)
    · intro hInside run hRun
      obtain ⟨played, hPlay, rfl⟩ := Option.map_eq_some_iff.mp hRun
      exact hInside played hPlay
  · have hBytes : (player.decided abi clock).maxBufferSize abi = player.maxBufferSize abi :=
      SameStream.maxBufferSize (sameSetup_decided clock).toSameStream
    have hEnqueued := slBuffer_inside_iff hTest (player.nextBuffer.bufPtr abi)
      ((player.decided abi clock).fillerBuffer abi (player.nextBuffer.bufPtr abi)).1
    rw [← hBytes] at hEnqueued
    have hFiller := extent_inside_iff hTest.channels_pos (player.nextBuffer.bufPtr abi)
      player.globalFramesPerBuffers
    rw [← hTest.maxBufferSize.1] at hFiller
    simp only [if_neg hPlaying, Option.some.injEq, forall_eq']
    rw [hFiller]
    apply and_iff_left_of_imp
    intro hRoom buffer hBuffer
    rw [List.mem_singleton.mp hBuffer]
    exact hEnqueued.mpr hRoom

/-- A run of the callback stays inside `tempBuffers` exactly if all that it handles has room. -/
theorem inside_iff (hTest : player.PassesTest abi) :
    player.Inside abi clock ↔ player.RunHasRoom abi clock := by
  constructor
  · intro hInside
    have hLate := (lateExtents_inside_iff hTest clock).mp fun i hIn =>
      hInside.late i ((changes_late_iff hTest clock i).mpr hIn)
    refine ⟨hLate, ?_⟩
    cases hRun : bqPlayerCallback abi clock player with
    | none =>
        obtain ⟨frameCount, drop, hLoop, hDivides⟩ := bqPlayerCallback_eq_none_iff.mp hRun
        have hRead := hInside.loop frameCount drop hLoop
        rw [hTest.bufPtr, forall_lt_iff_hasRoom hTest.channels_pos] at hRead
        rw [if_pos (dropLoop_eq_some.mp hLoop).1.1]
        exact playHasRoom_of_halts hLoop hDivides hRead
    | some run =>
        refine (buffer_inside_iff hTest).mp ⟨fun i hIn => ?_, hInside.enqueued⟩
        exact hInside.written i (changes_of_mem_extents hTest hRun (Or.inr hIn))
  · intro hRoom
    have hLate := (lateExtents_inside_iff hTest clock).mpr hRoom.late
    obtain ⟨hBuffer, hEnqueued⟩ := (buffer_inside_iff hTest).mpr hRoom.buffer
    constructor
    · exact fun i hChanges => hLate i ((changes_late_iff hTest clock i).mp hChanges)
    · intro i hChanges
      rcases mem_extents_of_changes hTest hChanges with hIn | hIn
      · exact hLate i hIn
      · exact hBuffer i hIn
    · intro frameCount drop hLoop
      have hPlay := hRoom.buffer
      rw [if_pos (dropLoop_eq_some.mp hLoop).1.1] at hPlay
      rw [hTest.bufPtr, forall_lt_iff_hasRoom hTest.channels_pos]
      exact hasRoom_dropLoop hPlay hLoop
    · exact hEnqueued

theorem passesTest_reset {samplesPerSec numChannels : BitVec 32} (player : State)
    (hPos : 0 < samplesPerSec.toNat) (hChannels : numChannels.toNat = 1 ∨ numChannels.toNat = 2)
    (hFrames : player.globalFramesPerBuffers ≤ MAX_BUFFER_SIZE) :
    (player.reset samplesPerSec numChannels hPos).PassesTest abi where
  wellFormed := ⟨fun frame hFrame => (nomatch hFrame), hFrames.trans_lt (by decide)⟩
  channels := hChannels
  framesPerBuffers := hFrames

end Run

section Small

/-- A buffer's worth of frames, or of bytes, has room wherever the buffer is, if five device buffers
have. -/
theorem hasRoom_of_few (hTest : player.PassesTest abi)
    (hSmall : player.globalFramesPerBuffers * player.currentNumChannels * 5 ≤
      MAX_BUFFER_SIZE * N_BUFFERS) {frames : Nat}
    (hFew : frames ≤ player.globalFramesPerBuffers ∨
      frames * player.frameSize abi ≤ MAX_BUFFER_SIZE) :
    HasRoom player.nextStart player.currentNumChannels frames := by
  have hIndex := Nat.mod_lt (player.tempBuffersIx + 1) (by decide : 0 < N_BUFFERS)
  have hStart : player.nextStart ≤ 2 * (player.globalFramesPerBuffers * player.currentNumChannels) *
      2 := Nat.mul_le_mul_left _ (Nat.le_of_lt_succ hIndex)
  right
  unfold MAX_BUFFER_SIZE N_BUFFERS at *
  rcases hFew with hFrames | hBytes
  · have hSamples := Nat.mul_le_mul_right player.currentNumChannels hFrames
    omega
  · rw [hTest.frameSize, Nat.mul_left_comm] at hBytes
    omega

/-- The silence and the frames behind it fill one buffer. -/
theorem hasRoom_behind_silence (hTest : player.PassesTest abi) {start : Nat} {drop : Int}
    (hSilence : 0 ≤ drop) (hLess : drop < player.globalFramesPerBuffers)
    (hRoom : HasRoom start player.currentNumChannels player.globalFramesPerBuffers) (fill : Nat) :
    HasRoom (start + player.silenceSamples abi drop) player.currentNumChannels
      (min (abi.size (player.globalFramesPerBuffers - drop)) fill) := by
  have hWide := abi.two_pow_bits_ge
  have hFrames := hTest.framesPerBuffers
  unfold MAX_BUFFER_SIZE at hFrames
  obtain ⟨silent, rfl⟩ := Int.eq_ofNat_of_zero_le hSilence
  have hRest : abi.size (player.globalFramesPerBuffers - (silent : Int)) =
      player.globalFramesPerBuffers - silent := by
    rw [← Nat.cast_sub (by omega)]
    exact Abi.size_of_lt (by omega)
  have hSamples : player.silenceSamples abi silent = silent * player.currentNumChannels := by
    unfold silenceSamples
    rw [Abi.size_of_lt (by omega : silent < 2 ^ abi.bits), ← Nat.cast_mul]
    apply Abi.size_of_lt
    have hLe : silent * player.currentNumChannels ≤ 8192 * 2 :=
      Nat.mul_le_mul (by omega) (by rcases hTest.channels with hMono | hStereo <;> omega)
    omega
  have hWhole : silent * player.currentNumChannels +
      (player.globalFramesPerBuffers - silent) * player.currentNumChannels =
        player.globalFramesPerBuffers * player.currentNumChannels := by
    rw [← Nat.add_mul, Nat.add_sub_cancel' (by omega)]
  have hRead := Nat.mul_le_mul_right player.currentNumChannels
    (Nat.min_le_left (player.globalFramesPerBuffers - silent) fill)
  rw [hRest, hSamples]
  rcases hRoom with hNone | hEnd
  · omega
  · exact Or.inr (by omega)

/-- On a device of which five buffers have room, it is enough that at most `MAX_BUFFER_SIZE` bytes
are skipped or asked for at once, and that no silence is negative. -/
theorem runHasRoom_of_small (hTest : player.PassesTest abi)
    (hSmall : player.globalFramesPerBuffers * player.currentNumChannels * 5 ≤
      MAX_BUFFER_SIZE * N_BUFFERS)
    (hLate : ∀ read ∈
      lateReads abi (player.frameSize abi) (player.overdueFrames clock) player.fifo.fill,
        read.2 * player.frameSize abi ≤ MAX_BUFFER_SIZE)
    (hRequest : ((player.measured abi clock).speedUpRequest abi
      (player.measured abi clock).currentDrop).1 * player.frameSize abi ≤ MAX_BUFFER_SIZE)
    (hSilence : (player.measured abi clock).jumpFor (player.measured abi clock).currentDiff =
      .silence → (player.measured abi clock).currentDrop ≤ 0) :
    player.RunHasRoom abi clock := by
  have hSetup := sameSetup_measured abi clock player
  have hBuffer := hasRoom_of_few hTest hSmall (Or.inl (Nat.le_refl _))
  refine ⟨fun hSkips read hRead => hasRoom_of_few hTest hSmall (Or.inr (hLate read hRead)), ?_⟩
  split_ifs with hPlaying
  · unfold PlayHasRoom JumpHasRoom
    cases hJump : (player.measured abi clock).jumpFor (player.measured abi clock).currentDiff with
    | none =>
        dsimp only
        rw [hSetup.channels, hSetup.framesPerBuffers]
        exact hasRoom_of_few hTest hSmall (Or.inl (Nat.min_le_left _ _))
    | speedUp =>
        dsimp only
        rw [hSetup.channels, hSetup.framesPerBuffers]
        refine ⟨hasRoom_of_few hTest hSmall (Or.inr ?_), fun hSqueezes => hBuffer⟩
        exact (Nat.mul_le_mul_right _ (Nat.min_le_left _ _)).trans hRequest
    | silence =>
        have hDrop := hSilence hJump
        rw [← hSetup.channels, ← hSetup.framesPerBuffers] at hBuffer
        refine ⟨fun hLess => ?_, hBuffer⟩
        exact hasRoom_behind_silence (hTest.measured clock) (by omega) hLess hBuffer _
  · exact hBuffer

end Small

end State

namespace System

/-- A run of the callback stays inside `tempBuffers`. -/
def Inside (platform : Platform) (system : System) : Event → Prop
  | .bufferFinished clock => system.player.Inside platform.abi clock
  | _ => True

/-- What a run of the callback handles has room. -/
def HasRoom (platform : Platform) (system : System) : Event → Prop
  | .bufferFinished clock => system.player.RunHasRoom platform.abi clock
  | _ => True

instance (platform : Platform) (system : System) (event : Event) :
    Decidable (system.HasRoom platform event) :=
  match event with
  | .bufferFinished clock =>
      inferInstanceAs (Decidable (system.player.RunHasRoom platform.abi clock))
  | .enqueuePCMFrames _ _ => isTrue trivial
  | .advanceCall _ => isTrue trivial
  | .syncPlayback _ _ _ => isTrue trivial
  | .monitorPlayback _ => isTrue trivial
  | .setSystemTimeOffset _ => isTrue trivial
  | .setDeviceLatency _ => isTrue trivial

theorem passesTest_step {platform : Platform} {system next : System} {event : Event}
    (hTest : system.player.PassesTest platform.abi)
    (hStep : system.step platform event = some next) : next.player.PassesTest platform.abi := by
  have hStream := sameStream_step hStep
  constructor
  · exact wellFormed_step hTest.wellFormed hStep
  · rw [hStream.channels]
    exact hTest.channels
  · rw [hStream.framesPerBuffers]
    exact hTest.framesPerBuffers

theorem passesTest_start {abi : Abi} {clock : Clock} {samplesPerSec numChannels : BitVec 32}
    {player : State} {run : Run}
    (hInit : initPlayback abi clock samplesPerSec numChannels player = some run)
    (hChannels : numChannels.toNat = 1 ∨ numChannels.toNat = 2)
    (hFrames : player.globalFramesPerBuffers ≤ MAX_BUFFER_SIZE) :
    (start run).player.PassesTest abi := by
  obtain ⟨hPos, -, -, hRun⟩ := initPlayback_eq_some hInit
  have hPlayer : (start run).player = _ := congrArg Prod.fst hRun
  constructor
  · exact wellFormed_start hInit (hFrames.trans_lt (by decide))
  · rw [hPlayer]
    exact hChannels
  · rw [hPlayer]
    exact hFrames

/-- A run stays inside `tempBuffers` exactly if each callback of it has room. -/
theorem meets_inside_iff_hasRoom {platform : Platform} {system : System}
    (hTest : system.player.PassesTest platform.abi) (events : List Event) :
    Meets (step platform) (Inside platform) system events ↔
      Meets (step platform) (HasRoom platform) system events := by
  apply meets_congr (fun before event next => passesTest_step) _ hTest
  intro before event hBefore
  cases event with
  | bufferFinished clock => exact State.inside_iff hBefore
  | _ => exact Iff.rfl

/-- The callback in `audioplayer_initPlayback` and those in any run since then stay inside
`tempBuffers` exactly if all that they handle has room. -/
theorem staysInside_iff (platform : Platform) (clock : Clock)
    (samplesPerSec numChannels : BitVec 32) (player : State) (hPos : 0 < samplesPerSec.toNat)
    (run : Run)
    (hInit : initPlayback platform.abi clock samplesPerSec numChannels player = some run)
    (hChannels : numChannels.toNat = 1 ∨ numChannels.toNat = 2)
    (hFrames : player.globalFramesPerBuffers ≤ MAX_BUFFER_SIZE) (events : List Event) :
    ((player.reset samplesPerSec numChannels hPos).Inside platform.abi clock ∧
        Meets (step platform) (Inside platform) (start run) events) ↔
      (player.reset samplesPerSec numChannels hPos).RunHasRoom platform.abi clock ∧
        Meets (step platform) (HasRoom platform) (start run) events :=
  and_congr (State.inside_iff (State.passesTest_reset player hPos hChannels hFrames))
    (meets_inside_iff_hasRoom (passesTest_start hInit hChannels hFrames) events)

/-- Two frames of a stereo stream are played, after a buffer of filler. -/
def twoFrames : List Event :=
  [.bufferFinished ⟨46, 10000⟩, .syncPlayback 0 1000 0] ++
    wholeCall [1, 2, 3, 4, 5, 6, 7, 8] 0 0 ++ [.bufferFinished ⟨1000, 10000⟩]

theorem staysInside_twoFrames :
    ∃ run, initPlayback .lp64 ⟨0, 10000⟩ 44100#32 2#32 (State.boot 44100#32 2048#32) = some run ∧
      ((State.boot 44100#32 2048#32).reset 44100#32 2#32 (by decide)).Inside .lp64 ⟨0, 10000⟩ ∧
        Meets (step ⟨.lp64, fun _ _ => 0⟩) (Inside ⟨.lp64, fun _ _ => 0⟩) (start run)
          twoFrames := by
  obtain ⟨run, hInit⟩ := initPlayback_isSome .lp64 ⟨0, 10000⟩ (State.boot 44100#32 2048#32)
    (by decide : 0 < State.fifoFrames 44100#32) (by decide : 0 < Abi.lp64.size ((2#32).toNat * 2))
  have hSteps : (initPlayback .lp64 ⟨0, 10000⟩ 44100#32 2#32 (State.boot 44100#32 2048#32)).all
      fun run => Meets (step ⟨.lp64, fun _ _ => 0⟩) (HasRoom ⟨.lp64, fun _ _ => 0⟩) (start run)
        twoFrames := by
    decide
  rw [hInit, Option.all_some, decide_eq_true_iff] at hSteps
  exact ⟨run, hInit, (staysInside_iff ⟨.lp64, fun _ _ => 0⟩ ⟨0, 10000⟩ _ _ _ (by decide) run hInit
    (by decide) (by decide) _).mpr ⟨by decide, hSteps⟩⟩

/-- A stereo device buffer of 4096 frames passes the test. The third place of the buffer is
computed in bytes, and the samples from there on are not in `tempBuffers`. -/
theorem not_meets_inside_bootStereo :
    ∃ run, initPlayback .lp64 ⟨0, 10000⟩ 44100#32 2#32 (State.boot 44100#32 4096#32) = some run ∧
      ¬ Meets (step ⟨.lp64, fun _ _ => 0⟩) (Inside ⟨.lp64, fun _ _ => 0⟩) (start run)
        [.bufferFinished ⟨93, 10000⟩] := by
  obtain ⟨run, hInit⟩ := initPlayback_isSome .lp64 ⟨0, 10000⟩ (State.boot 44100#32 4096#32)
    (by decide : 0 < State.fifoFrames 44100#32) (by decide : 0 < Abi.lp64.size ((2#32).toNat * 2))
  have hSteps : (initPlayback .lp64 ⟨0, 10000⟩ 44100#32 2#32 (State.boot 44100#32 4096#32)).all
      fun run => ¬ Meets (step ⟨.lp64, fun _ _ => 0⟩) (HasRoom ⟨.lp64, fun _ _ => 0⟩) (start run)
        [.bufferFinished ⟨93, 10000⟩] := by
    decide
  have hTest := passesTest_start hInit (by decide) (by decide)
  rw [hInit, Option.all_some, decide_eq_true_iff] at hSteps
  rw [← meets_inside_iff_hasRoom hTest] at hSteps
  exact ⟨run, hInit, hSteps⟩

end System

end AudioSync.Player
