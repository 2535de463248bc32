import AudioSync.Player.EnqueuedData
import AudioSync.Player.LateStart
import AudioSync.Lib.Footprint

/-! The footprint of the callback: at which addresses a run stores what it reads from the FIFO,
silence and filler. The frame-dropping loop stays within what has been read. -/
namespace AudioSync.Player

open MachineInt Footprint

/-- The addresses of so many bytes. -/
def extent (address count : Nat) : Set Nat := { i | address ≤ i ∧ i < address + count }

theorem mem_extent {address count i : Nat} :
    i ∈ extent address count ↔ address ≤ i ∧ i < address + count := Iff.rfl

theorem stores_store (address : Nat) (block : List Byte) :
    Stores (extent address block.length) (fun memory => store memory address block) where
  fixed := by
    intro memory memory' i hIn
    rw [mem_extent] at hIn
    unfold store
    rw [if_pos hIn.1, if_pos hIn.1, List.getElem?_eq_getElem (by omega)]
    rfl
  frame := by
    intro memory i hOut
    rw [mem_extent] at hOut
    exact sameOutside_store memory address block i (by omega)

theorem stores_memset (address : Nat) (value : Byte) (count : Nat) :
    Stores (extent address count) (fun memory => memset memory address value count) := by
  have hStores := stores_store address (List.replicate count value)
  rw [List.length_replicate] at hStores
  exact hStores

namespace State

/-- The player with these sample buffers. -/
def withMemory (memory : Pointer) (player : State) : State := { player with tempBuffers := memory }

/-- What a call of the callback leaves in the sample buffers that it finds. -/
def finalMemory (abi : Abi) (clock : Clock) (player : State) (memory : Pointer) : Option Pointer :=
  (bqPlayerCallback abi clock (player.withMemory memory)).map fun run => run.player.tempBuffers

/-- A start that is too late, so that overdue frames are skipped. -/
def SkipsLate (clock : Clock) (player : State) : Prop :=
  player.Decides ∧ player.startDiff clock < -(player.decideStart clock).accuracy

instance (clock : Clock) (player : State) : Decidable (player.SkipsLate clock) :=
  inferInstanceAs (Decidable (_ ∧ _))

variable {abi : Abi} {clock : Clock} {player : State} {bufPtr : Nat}

section Late

/-- Where the passes of the loop store the frames they throw away. -/
def passExtents (abi : Abi) (address : Nat) (drop : Int) (player : State) : Set Nat :=
  { i | ∃ read ∈ lateReads abi (player.frameSize abi) drop player.fifo.fill,
    i ∈ extent address (read.2 * player.frameSize abi) }

theorem mem_passExtents {address i : Nat} {drop : Int} :
    i ∈ player.passExtents abi address drop ↔
      ∃ read ∈ lateReads abi (player.frameSize abi) drop player.fifo.fill,
        i ∈ extent address (read.2 * player.frameSize abi) := Iff.rfl

theorem stores_read (hWell : player.WellFormed abi) (address count : Nat) :
    Stores (extent address (min count player.fifo.fill * player.frameSize abi))
      (fun memory => store memory address (player.fifo.read count).2.flatten) := by
  have hStores := stores_store address (player.fifo.read count).2.flatten
  rw [hWell.flatten_length, BoundedQueue.read_length] at hStores
  exact hStores

theorem dropLate_stores (abi : Abi) (address : Nat) (drop : Int) (player : State) :
    player.WellFormed abi → ∃ f, Stores (player.passExtents abi address drop) f ∧
      ∀ memory, (player.withMemory memory).dropLate abi address drop =
        ((player.dropLate abi address drop).1.withMemory (f memory),
          (player.dropLate abi address drop).2) := by
  fun_induction dropLate abi address drop player with
  | case1 drop player requestFrames read hNone =>
      intro hWell
      have hCount : min requestFrames player.fifo.fill = 0 := by
        rw [← BoundedQueue.read_length]
        exact hNone
      have hRequest : requestFrames = lateRequest abi (player.frameSize abi) drop :=
        player.lateRequest_eq abi drop
      refine ⟨_, (stores_read hWell address requestFrames).congr fun i => ?_, fun memory => ?_⟩
      · rw [mem_passExtents, lateReads, ← hRequest]
        simp [hCount]
      · rw [dropLate]
        exact if_pos hNone
  | case2 drop player requestFrames read hSome counted hMore later ih =>
      intro hWell
      have hRequest : requestFrames = lateRequest abi (player.frameSize abi) drop :=
        player.lateRequest_eq abi drop
      have hCount : min requestFrames player.fifo.fill = read.2.length :=
        (BoundedQueue.read_length _ _).symm
      have hFill : counted.fifo.fill = player.fifo.fill - read.2.length := by
        show (player.fifo.read requestFrames).1.fill = _
        rw [BoundedQueue.read_fill]
        omega
      have hCounted : counted.WellFormed abi :=
        ⟨fun frame hFrame => hWell.frames frame (List.mem_of_mem_drop hFrame),
          hWell.framesPerBuffers⟩
      obtain ⟨f, hStores, hLater⟩ := ih hCounted
      have hRead := stores_read hWell address requestFrames
      refine ⟨_, (hRead.comp hStores).congr fun i => ?_, fun memory => ?_⟩
      · rw [mem_passExtents, lateReads, ← hRequest]
        simp only [hCount, if_neg hSome, if_pos hMore, List.exists_mem_cons_iff, Set.mem_union]
        rw [mem_passExtents, hFill]
        rfl
      · rw [dropLate]
        refine (if_neg hSome).trans ((if_pos hMore).trans ?_)
        exact congrArg (fun rest : State × List Frame => (rest.1, read.2 ++ rest.2)) (hLater _)
  | case3 drop player requestFrames read hSome counted hDone =>
      intro hWell
      have hRequest : requestFrames = lateRequest abi (player.frameSize abi) drop :=
        player.lateRequest_eq abi drop
      have hCount : min requestFrames player.fifo.fill = read.2.length :=
        (BoundedQueue.read_length _ _).symm
      refine ⟨_, (stores_read hWell address requestFrames).congr fun i => ?_, fun memory => ?_⟩
      · rw [mem_passExtents, lateReads, ← hRequest]
        simp only [hCount, if_neg hSome, if_neg hDone, List.mem_singleton, exists_eq_left]
      · rw [dropLate]
        exact (if_neg hSome).trans (if_neg hDone)

theorem decides_iff (player : State) :
    (!player.currentIsPlaying && player.currentSyncSystemTimeUs ≠ 0) = true ↔ player.Decides := by
  rw [Bool.and_eq_true, Bool.not_eq_true', decide_eq_true_iff]
  rfl

/-- Where the start decision stores frames that are overdue. -/
def lateExtents (abi : Abi) (clock : Clock) (player : State) : Set Nat :=
  { i | player.SkipsLate clock ∧ i ∈ player.passExtents abi (2 * player.nextBuffer.bufPtr abi)
    (player.overdueFrames clock) }

theorem decided_stores (hWell : player.WellFormed abi) (clock : Clock) :
    ∃ f, Stores (player.lateExtents abi clock) f ∧ ∀ memory,
      (player.withMemory memory).decided abi clock =
          (player.decided abi clock).withMemory (f memory) ∧
        (player.withMemory memory).skipped abi clock = player.skipped abi clock := by
  have hStart : player.nextBuffer.startPlayback abi clock (2 * player.nextBuffer.bufPtr abi) =
      (player.decided abi clock, player.skipped abi clock) := rfl
  suffices hLoop : ∃ f, Stores (player.lateExtents abi clock) f ∧ ∀ memory,
      (player.nextBuffer.withMemory memory).startPlayback abi clock
          (2 * player.nextBuffer.bufPtr abi) =
        ((player.decided abi clock).withMemory (f memory), player.skipped abi clock) by
    obtain ⟨f, hStores, hMemory⟩ := hLoop
    refine ⟨f, hStores, fun memory => ?_⟩
    have hFirst := congrArg Prod.fst (hMemory memory)
    have hSecond := congrArg Prod.snd (hMemory memory)
    exact ⟨hFirst, hSecond⟩
  unfold startPlayback at hStart ⊢
  by_cases hDecides : (!player.nextBuffer.currentIsPlaying &&
      player.nextBuffer.currentSyncSystemTimeUs ≠ 0) = true
  · rw [if_pos hDecides] at hStart
    by_cases hLate : player.nextBuffer.startDiff clock <
        -(player.nextBuffer.decideStart clock).accuracy
    · have hSkips : player.SkipsLate clock := by
        exact ⟨(decides_iff player.nextBuffer).mp hDecides, hLate⟩
      have hLoop := (if_pos hLate).symm.trans hStart
      obtain ⟨f, hStores, hMemory⟩ := dropLate_stores abi (2 * player.nextBuffer.bufPtr abi)
        (player.overdueFrames clock) (player.nextBuffer.decideStart clock)
        ⟨hWell.frames, hWell.framesPerBuffers⟩
      refine ⟨f, hStores.congr fun i => (and_iff_right hSkips).symm, fun memory => ?_⟩
      refine (if_pos hDecides).trans ((if_pos hLate).trans ((hMemory memory).trans ?_))
      exact congrArg (fun late : State × List Frame => (late.1.withMemory (f memory), late.2)) hLoop
    · have hNothing := (if_neg hLate).symm.trans hStart
      refine ⟨id, stores_id.congr fun i => ?_, fun memory => ?_⟩
      · exact iff_of_false (Set.notMem_empty i) fun hSkips => hLate hSkips.1.2
      · refine (if_pos hDecides).trans ((if_neg hLate).trans ?_)
        exact congrArg (fun late : State × List Frame => (late.1.withMemory memory, late.2))
          hNothing
  · have hNothing := (if_neg hDecides).symm.trans hStart
    refine ⟨id, stores_id.congr fun i => ?_, fun memory => ?_⟩
    · exact iff_of_false (Set.notMem_empty i) fun hSkips =>
        hDecides ((decides_iff player.nextBuffer).mpr hSkips.1.1)
    · refine (if_neg hDecides).trans ?_
      exact congrArg (fun late : State × List Frame => (late.1.withMemory memory, late.2)) hNothing

end Late

section Play

theorem squeeze_memory (abi : Abi) (bufPtr frameCount : Nat) (drop : Int) (player : State) :
    (player.squeeze abi bufPtr frameCount drop).map (fun squeezed => squeezed.tempBuffers) =
      if drop = 0 then none
      else dropFrames bufPtr player.currentNumChannels
        (toSigned 32 ((frameCount : Int).tdiv drop)) frameCount 0 0 drop player.tempBuffers := by
  unfold squeeze
  split_ifs with hZero
  · rfl
  · rw [Option.map_map]
    exact Option.map_id'

/-- Where frames that are played are stored. -/
theorem playFrames_stores (hWell : player.WellFormed abi)
    (hWhole : player.frameSize abi = 2 * player.currentNumChannels) (bufPtr requestFrames : Nat)
    (drop : Option Int) :
    ∃ f k, Stores (extent (2 * bufPtr)
        (min requestFrames player.fifo.fill * player.frameSize abi)) f ∧
      Confined (extent (2 * bufPtr)
        (min requestFrames player.fifo.fill * player.frameSize abi)) k ∧
      ∀ memory, ((player.withMemory memory).playFrames abi bufPtr requestFrames drop).map
        (fun run => run.player.tempBuffers) = k (f memory) := by
  have hStores := stores_read hWell (2 * bufPtr) requestFrames
  by_cases hNone : min requestFrames player.fifo.fill = 0
  · refine ⟨_, some, hStores, confined_some _, fun memory => ?_⟩
    have hRun : (player.withMemory memory).playFrames abi bufPtr requestFrames drop = _ :=
      playFrames_of_none hNone
    exact congrArg (Option.map _) hRun
  · cases drop with
    | none =>
        refine ⟨_, some, hStores, confined_some _, fun memory => ?_⟩
        have hRun : (player.withMemory memory).playFrames abi bufPtr requestFrames none = _ :=
          playFrames_of_plain hNone (Or.inl rfl)
        exact congrArg (Option.map _) hRun
    | some drop =>
        rcases Nat.lt_or_ge player.fifo.fill requestFrames with hShort | hFull
        · refine ⟨_, some, hStores, confined_some _, fun memory => ?_⟩
          have hRun : (player.withMemory memory).playFrames abi bufPtr requestFrames (some drop) =
              _ := playFrames_of_plain hNone (Or.inr hShort)
          exact congrArg (Option.map _) hRun
        · refine ⟨_, fun memory => if drop = 0 then none else dropFrames bufPtr
            player.currentNumChannels (toSigned 32 ((requestFrames : Int).tdiv drop)) requestFrames
              0 0 drop memory, hStores, ?_, fun memory => ?_⟩
          · intro memory result hRun i hOut
            split_ifs at hRun with hZero
            apply sameOutside_dropFrames (Nat.le_refl 0) hRun
            rw [mem_extent, Nat.min_eq_left hFull, hWhole] at hOut
            rw [Nat.zero_add, Nat.mul_add, Nat.mul_left_comm]
            omega
          · have hRun : (player.withMemory memory).playFrames abi bufPtr requestFrames
                (some drop) = _ := playFrames_of_full (by omega) hFull
            rw [hRun, Option.map_map]
            exact squeeze_memory abi bufPtr requestFrames drop
              ((player.withMemory memory).fifoRead (2 * bufPtr) requestFrames).1

/-- Where silence is stored, with the frames behind it, or filler instead. -/
def silenceExtents (abi : Abi) (bufPtr : Nat) (drop : Int) (player : State) : Set Nat :=
  if drop < player.globalFramesPerBuffers ∧
      0 < min (abi.size (player.globalFramesPerBuffers - drop)) player.fifo.fill then
    extent (2 * (bufPtr + player.silenceSamples abi drop))
        (min (abi.size (player.globalFramesPerBuffers - drop)) player.fifo.fill *
          player.frameSize abi) ∪
      extent (2 * bufPtr) (player.silenceSamples abi drop)
  else extent (2 * bufPtr) (player.maxBufferSize abi)

theorem playSilence_stores (hWell : player.WellFormed abi) (bufPtr : Nat) (drop : Int) :
    ∃ f, Stores (player.silenceExtents abi bufPtr drop) f ∧
      ∀ memory, ((player.withMemory memory).playSilence abi bufPtr drop).player.tempBuffers =
        f memory := by
  have hRun (memory : Pointer) :=
    silenced_playSilence abi bufPtr drop (player.withMemory memory)
  by_cases hFrames : drop < player.globalFramesPerBuffers ∧
      0 < min (abi.size (player.globalFramesPerBuffers - drop)) player.fifo.fill
  · have hStores := (stores_read hWell (2 * (bufPtr + player.silenceSamples abi drop))
      (abi.size (player.globalFramesPerBuffers - drop))).comp
        (stores_memset (2 * bufPtr) 0 (player.silenceSamples abi drop))
    refine ⟨_, hStores.congr fun i => ?_, fun memory => ?_⟩
    · rw [silenceExtents, if_pos hFrames]
    · have hSilenced := hRun memory
      generalize (player.withMemory memory).playSilence abi bufPtr drop = run at hSilenced
      cases hSilenced with
      | filler hNone => exact absurd hFrames hNone
      | frames hRoom hSome => rfl
  · have hStores := stores_memset (2 * bufPtr) 1 (player.maxBufferSize abi)
    refine ⟨_, hStores.congr fun i => ?_, fun memory => ?_⟩
    · rw [silenceExtents, if_neg hFrames]
    · have hSilenced := hRun memory
      generalize (player.withMemory memory).playSilence abi bufPtr drop = run at hSilenced
      cases hSilenced with
      | @filler filled hNone hMemory hStream =>
          have hBytes : filled.maxBufferSize abi = (player.withMemory memory).maxBufferSize abi :=
            SameStream.maxBufferSize hStream
          show memset filled.tempBuffers (2 * bufPtr) 1 (filled.maxBufferSize abi) = _
          rw [hMemory, hBytes]
          rfl
      | frames hRoom hSome => exact absurd ⟨hRoom, hSome⟩ hFrames

/-- Where a playing callback stores what it plays. -/
def playExtents (abi : Abi) (bufPtr : Nat) (player : State) : Set Nat :=
  match player.jumpFor player.currentDiff with
  | .silence => player.silenceExtents abi bufPtr (-player.currentDrop)
  | .speedUp => extent (2 * bufPtr)
      (min (player.speedUpRequest abi player.currentDrop).1 player.fifo.fill * player.frameSize abi)
  | .none => extent (2 * bufPtr)
      (min player.globalFramesPerBuffers player.fifo.fill * player.frameSize abi)

theorem play_stores (hWell : player.WellFormed abi)
    (hWhole : player.frameSize abi = 2 * player.currentNumChannels) (bufPtr : Nat) :
    ∃ f k, Stores (player.playExtents abi bufPtr) f ∧ Confined (player.playExtents abi bufPtr) k ∧
      ∀ memory, ((player.withMemory memory).play abi bufPtr).map
        (fun run => run.player.tempBuffers) = k (f memory) := by
  have hJump (memory : Pointer) : (player.withMemory memory).jumpFor
      (player.withMemory memory).currentDiff = player.jumpFor player.currentDiff := rfl
  have hRequest (memory : Pointer) : (player.withMemory memory).speedUpRequest abi
      (player.withMemory memory).currentDrop =
        player.speedUpRequest abi player.currentDrop := rfl
  unfold play playExtents
  simp only [hJump, hRequest]
  cases player.jumpFor player.currentDiff with
  | silence =>
      obtain ⟨f, hStores, hMemory⟩ := playSilence_stores hWell bufPtr (-player.currentDrop)
      exact ⟨f, some, hStores, confined_some _, fun memory => congrArg some (hMemory memory)⟩
  | speedUp =>
      exact playFrames_stores hWell hWhole bufPtr (player.speedUpRequest abi player.currentDrop).1
        (some (player.speedUpRequest abi player.currentDrop).2)
  | none => exact playFrames_stores hWell hWhole bufPtr player.globalFramesPerBuffers none

end Play

/-- Where a run of the callback stores what it enqueues. -/
def bufferExtents (abi : Abi) (clock : Clock) (player : State) : Set Nat :=
  if (player.decided abi clock).currentIsPlaying then
    (player.measured abi clock).playExtents abi (player.nextBuffer.bufPtr abi)
  else extent (2 * player.nextBuffer.bufPtr abi) (player.maxBufferSize abi)

/-- Where a run of the callback stores something. -/
def extents (abi : Abi) (clock : Clock) (player : State) : Set Nat :=
  player.lateExtents abi clock ∪ player.bufferExtents abi clock

theorem measure_withMemory (abi : Abi) (clock : Clock) (memory : Pointer) (player : State) :
    (player.withMemory memory).measure abi clock =
      (player.measure abi clock).withMemory memory := by
  have hRest : (player.withRest memory player.tempBuffersIx player.monitor).measure abi clock =
      (player.measure abi clock).withRest memory player.tempBuffersIx player.monitor :=
    measure_withRest clock
  obtain ⟨last, queue, diff, drop, hMeasured⟩ := measure_frame abi clock player
  rw [hMeasured] at hRest ⊢
  exact hRest

/-- The sample buffers behind a run of the callback, from those before it. -/
theorem finalMemory_stores (hWell : player.WellFormed abi)
    (hWhole : player.frameSize abi = 2 * player.currentNumChannels) (clock : Clock) :
    ∃ f k, Stores (player.extents abi clock) f ∧ Confined (player.extents abi clock) k ∧
      ∀ memory, player.finalMemory abi clock memory = k (f memory) := by
  obtain ⟨late, hLate, hDecided⟩ := decided_stores hWell clock
  unfold extents bufferExtents finalMemory
  by_cases hPlaying : (player.decided abi clock).currentIsPlaying = true
  · have hSetup := sameSetup_measured abi clock player
    have hFrame : (player.measured abi clock).frameSize abi =
        2 * (player.measured abi clock).currentNumChannels := by
      rw [frameSize_congr abi hSetup.channels, hSetup.channels]
      exact hWhole
    obtain ⟨f, k, hStores, hConfined, hPlay⟩ := play_stores (hWell.measured clock) hFrame
      (player.nextBuffer.bufPtr abi)
    rw [if_pos hPlaying]
    refine ⟨_, k, hLate.comp hStores, hConfined.mono Set.subset_union_right, fun memory => ?_⟩
    obtain ⟨hMemory, hSkipped⟩ := hDecided memory
    rw [bqPlayerCallback_eq]
    dsimp only
    rw [hMemory, hSkipped, measure_withMemory]
    refine (congrArg (Option.map _) (if_pos hPlaying)).trans ?_
    rw [Option.map_map]
    exact hPlay (late memory)
  · have hBytes : (player.decided abi clock).maxBufferSize abi = player.maxBufferSize abi :=
      SameStream.maxBufferSize (sameSetup_decided clock).toSameStream
    rw [if_neg hPlaying]
    have hFiller := stores_memset (2 * player.nextBuffer.bufPtr abi) 1 (player.maxBufferSize abi)
    refine ⟨_, some, hLate.comp hFiller, confined_some _, fun memory => ?_⟩
    obtain ⟨hMemory, hSkipped⟩ := hDecided memory
    rw [bqPlayerCallback_eq]
    dsimp only
    rw [hMemory, hSkipped]
    refine (congrArg (Option.map _) (if_neg hPlaying)).trans (congrArg some ?_)
    show memset (late memory) _ 1 ((player.decided abi clock).maxBufferSize abi) = _
    rw [hBytes]
    rfl

end State

end AudioSync.Player
