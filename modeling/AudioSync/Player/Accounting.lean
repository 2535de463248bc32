import AudioSync.Player.System

/-! What the parts of the callback do to the FIFO and to the frame counters. -/
namespace AudioSync.Player

open MachineInt

/-- The parameters that fix the size of a device buffer are the same. -/
structure SameStream (player next : State) : Prop where
  framesPerBuffers : next.globalFramesPerBuffers = player.globalFramesPerBuffers
  channels : next.currentNumChannels = player.currentNumChannels

/-- From `player` to `next` exactly the frames `consumed` were taken from the
FIFO, and the parameters of the stream stayed. When `exact` holds, these frames
were also counted as queued. -/
structure Accounts (exact : Prop) (player : State) (consumed : List Frame) (next : State) : Prop
    extends SameStream player next where
  frames : consumed ++ next.fifo.contents = player.fifo.contents
  queued : exact → next.currentQueuedFrames = player.currentQueuedFrames + consumed.length
  buffered : next.currentBufferedFrames = player.currentBufferedFrames

namespace Accounts

variable {exact : Prop} {player middle next : State} {first second : List Frame}

/-- A step that leaves the FIFO and the counters alone. -/
theorem of_fields (hFifo : next.fifo = player.fifo)
    (hQueued : next.currentQueuedFrames = player.currentQueuedFrames)
    (hBuffered : next.currentBufferedFrames = player.currentBufferedFrames)
    (hFrames : next.globalFramesPerBuffers = player.globalFramesPerBuffers)
    (hChannels : next.currentNumChannels = player.currentNumChannels) :
    Accounts exact player [] next :=
  ⟨⟨hFrames, hChannels⟩, by rw [hFifo]; rfl, fun _ => by simp [hQueued], hBuffered⟩

theorem trans (left : Accounts exact player first middle)
    (right : Accounts exact middle second next) :
    Accounts exact player (first ++ second) next where
  frames := by rw [List.append_assoc, right.frames, left.frames]
  queued hExact := by
    rw [right.queued hExact, left.queued hExact, List.length_append]
    push_cast
    ring
  buffered := right.buffered.trans left.buffered
  framesPerBuffers := right.framesPerBuffers.trans left.framesPerBuffers
  channels := right.channels.trans left.channels

theorem mono {weaker : Prop} (h : Accounts exact player first next) (hExact : weaker → exact) :
    Accounts weaker player first next :=
  ⟨h.toSameStream, h.frames, fun hWeaker => h.queued (hExact hWeaker), h.buffered⟩

/-- A read whose frames are then counted. -/
theorem of_read (count : Nat) (player next : State)
    (hFifo : next.fifo = (player.fifo.read count).1)
    (hQueued : exact → next.currentQueuedFrames =
      player.currentQueuedFrames + (player.fifo.read count).2.length)
    (hBuffered : next.currentBufferedFrames = player.currentBufferedFrames)
    (hFrames : next.globalFramesPerBuffers = player.globalFramesPerBuffers)
    (hChannels : next.currentNumChannels = player.currentNumChannels) :
    Accounts exact player (player.fifo.read count).2 next :=
  ⟨⟨hFrames, hChannels⟩, by rw [hFifo]; exact player.fifo.read_append_contents count, hQueued,
    hBuffered⟩

/-- A read that finds nothing has nothing to count. -/
theorem of_empty_read {address count : Nat}
    (hNone : (player.fifoRead address count).2.length = 0) :
    Accounts exact player (player.fifoRead address count).2 (player.fifoRead address count).1 :=
  of_read count player _ rfl
    (fun _ => by rw [← State.fifoRead_frames player address, hNone]; exact (add_zero _).symm)
    rfl rfl rfl

end Accounts

namespace State

variable {exact : Prop} (abi : Abi)

/-- The late-start loop accounts for every frame it throws away. -/
theorem accounts_dropLate (address : Nat) (drop : Int) (player : State) :
    Accounts exact player (player.dropLate abi address drop).2
      (player.dropLate abi address drop).1 := by
  fun_induction dropLate abi address drop player with
  | case1 drop player requestFrames read hNone =>
      exact Accounts.of_empty_read hNone
  | case2 drop player requestFrames read hSome counted hMore later ih =>
      exact (Accounts.of_read requestFrames player counted rfl (fun _ => rfl) rfl rfl rfl).trans ih
  | case3 drop player requestFrames read hSome counted hDone =>
      exact Accounts.of_read requestFrames player counted rfl (fun _ => rfl) rfl rfl rfl

theorem accounts_startPlayback (clock : Clock) (address : Nat) (player : State) :
    Accounts exact player (player.startPlayback abi clock address).2
      (player.startPlayback abi clock address).1 := by
  have hDecided : Accounts exact player [] (player.decideStart clock) :=
    Accounts.of_fields rfl rfl rfl rfl rfl
  simp only [startPlayback]
  split_ifs
  · exact hDecided.trans (accounts_dropLate abi address _ _)
  · exact hDecided
  · exact Accounts.of_fields rfl rfl rfl rfl rfl

theorem accounts_measure (clock : Clock) (player : State) :
    Accounts exact player [] (player.measure abi clock) := by
  unfold measure advanceMarks
  split <;> exact Accounts.of_fields rfl rfl rfl rfl rfl

theorem accounts_decided (clock : Clock) (player : State) :
    Accounts exact player (player.skipped abi clock) (player.decided abi clock) := by
  have hNext : Accounts exact player [] player.nextBuffer :=
    Accounts.of_fields rfl rfl rfl rfl rfl
  exact hNext.trans
    (accounts_startPlayback abi clock (2 * player.nextBuffer.bufPtr abi) player.nextBuffer)

theorem accounts_fillerBuffer (bufPtr : Nat) (player : State) :
    Accounts exact player [] (player.fillerBuffer abi bufPtr).1 :=
  Accounts.of_fields rfl rfl rfl rfl rfl

theorem accounts_playSilence (bufPtr : Nat) (drop : Int) (player : State) :
    Accounts exact player (player.playSilence abi bufPtr drop).consumed
      (player.playSilence abi bufPtr drop).player := by
  by_cases hRoom : drop < player.globalFramesPerBuffers
  · simp only [playSilence, if_pos hRoom]
    split_ifs with hSome
    · exact Accounts.of_read _ player _ rfl (fun _ => rfl) rfl rfl rfl
    · refine Accounts.of_read _ player _ rfl (fun _ => ?_) rfl rfl rfl
      rw [fifoRead_frames] at hSome
      simp only [fillerBuffer, fifoRead_queuedFrames]
      omega
  · simp only [playSilence, if_neg hRoom]
    exact accounts_fillerBuffer abi bufPtr player

/-- The surplus makes up the difference between what was read and what is played. -/
theorem surplus_add (frameCount : Nat) (player : State) (hSize : frameCount < 2 ^ abi.bits)
    (hRead : abi = .ilp32 → player.globalFramesPerBuffers ≤ frameCount) :
    player.surplus abi frameCount + player.globalFramesPerBuffers = frameCount := by
  cases abi with
  | ilp32 =>
      have hLe := hRead rfl
      simp only [Abi.bits] at hSize
      have hCast : ((frameCount : Int) - player.globalFramesPerBuffers) =
          (frameCount - player.globalFramesPerBuffers : Nat) := by omega
      simp only [surplus]
      rw [hCast, toUnsigned_of_lt (by omega)]
      omega
  | lp64 =>
      simp only [surplus]
      omega

theorem accounts_playFrames {bufPtr requestFrames : Nat} {drop : Option Int} {player : State}
    {run : Run} (hSize : drop.isSome → requestFrames < 2 ^ abi.bits)
    (hRun : player.playFrames abi bufPtr requestFrames drop = some run) :
    Accounts (drop.isSome → abi = .ilp32 → requestFrames ≤ player.fifo.fill →
      player.globalFramesPerBuffers ≤ requestFrames) player run.consumed run.player := by
  cases played_of_playFrames hRun with
  | starved hNone => exact Accounts.of_empty_read hNone
  | plain hSome hPlain => exact Accounts.of_read _ player _ rfl (fun _ => rfl) rfl rfl rfl
  | squeezed hSome hDrop hFull hSqueeze =>
      rw [hDrop] at hSize ⊢
      obtain ⟨-, memory, -, rfl⟩ := squeeze_eq_some hSqueeze
      refine Accounts.of_read _ player _ rfl (fun hExact => ?_) rfl rfl rfl
      have hLength := player.fifo.read_length requestFrames
      have hSurplus := surplus_add abi (player.fifo.read requestFrames).2.length
        (player.fifoRead (2 * bufPtr) requestFrames).1 (by rw [hFull]; exact hSize rfl)
        (fun hAbi => by rw [hFull]; exact hExact rfl hAbi (by omega))
      have hSame : (player.fifoRead (2 * bufPtr) requestFrames).1.globalFramesPerBuffers =
        player.globalFramesPerBuffers := rfl
      simp only [enqueueRun, enqueueFrames, fifoRead_queuedFrames] at hSurplus ⊢
      omega

theorem speedUpRequest_lt (drop : Int) (player : State) :
    (player.speedUpRequest abi drop).1 < 2 ^ abi.bits := by
  simp only [speedUpRequest]
  split_ifs with hLarge
  · have hBits := abi.two_pow_bits_ge
    have hMax : player.maxFrames abi ≤ MAX_BUFFER_SIZE := Nat.div_le_self _ _
    simp only [MAX_BUFFER_SIZE] at hMax
    omega
  · exact abi.size_lt _

/-- With a 32 bit `size_t`, a full read while catching up is not smaller than a
device buffer. The surplus would wrap around otherwise. -/
def CatchUpFillsBuffer (player : State) : Prop :=
  abi = .ilp32 → player.jumpFor player.currentDiff = .speedUp →
    (player.speedUpRequest abi player.currentDrop).1 ≤ player.fifo.fill →
    player.globalFramesPerBuffers ≤ (player.speedUpRequest abi player.currentDrop).1

theorem accounts_play {bufPtr : Nat} {player : State} {run : Run}
    (hRun : player.play abi bufPtr = some run) :
    Accounts (player.CatchUpFillsBuffer abi) player run.consumed run.player := by
  unfold play at hRun
  cases hJump : player.jumpFor player.currentDiff with
  | silence =>
      simp only [hJump] at hRun
      cases hRun
      exact accounts_playSilence abi bufPtr _ player
  | speedUp =>
      simp only [hJump] at hRun
      exact (accounts_playFrames abi (fun _ => speedUpRequest_lt abi _ player) hRun).mono
        fun hCatchUp _ hAbi => hCatchUp hAbi hJump
  | none =>
      simp only [hJump] at hRun
      exact (accounts_playFrames abi (by simp) hRun).mono fun _ hDrop => by simp at hDrop

/-- A run of the callback at this time counts every frame it takes. -/
def CountsExactly (clock : Clock) (player : State) : Prop :=
  (player.decided abi clock).currentIsPlaying = true →
    ((player.decided abi clock).measure abi clock).CatchUpFillsBuffer abi

instance (player : State) : Decidable (player.CatchUpFillsBuffer abi) :=
  inferInstanceAs (Decidable (_ → _ → _ → _))

instance (clock : Clock) (player : State) : Decidable (player.CountsExactly abi clock) :=
  inferInstanceAs (Decidable (_ → _))

end State

/-- Every run of the callback accounts for the frames it takes from the FIFO. -/
theorem accounts_bqPlayerCallback {abi : Abi} {clock : Clock} {player : State} {run : Run}
    (hRun : bqPlayerCallback abi clock player = some run) :
    Accounts (player.CountsExactly abi clock) player run.consumed run.player := by
  have hDecided : Accounts (player.CountsExactly abi clock) player _ _ :=
    State.accounts_decided abi clock player
  rw [bqPlayerCallback_eq] at hRun
  simp only at hRun
  split_ifs at hRun with hPlaying
  · obtain ⟨played, hPlay, rfl⟩ := Option.map_eq_some_iff.mp hRun
    exact hDecided.trans ((State.accounts_measure abi clock _).trans
      ((State.accounts_play abi hPlay).mono fun hExact => hExact hPlaying))
  · cases hRun
    simpa using hDecided.trans (State.accounts_fillerBuffer abi _ _)

theorem State.accounts_monitorPlayback {exact : Prop} (platform : Platform) (monotonicUs : Int)
    (player : State) :
    Accounts exact player [] (player.monitorPlayback platform monotonicUs).1 := by
  simp only [monitorPlayback]
  split_ifs <;> exact Accounts.of_fields rfl rfl rfl rfl rfl

theorem State.accounts_syncPlayback {exact : Prop} (platform : Platform)
    (monotonicUs systemTimeUs playbackTimeUs : Int) (player : State) :
    Accounts exact player []
      (player.syncPlayback platform monotonicUs systemTimeUs playbackTimeUs).1 := by
  simp only [syncPlayback]
  split_ifs
  · have hSynced : Accounts exact player []
        { player with currentSyncSystemTimeUs := systemTimeUs - playbackTimeUs } :=
      Accounts.of_fields rfl rfl rfl rfl rfl
    exact hSynced.trans (accounts_monitorPlayback platform monotonicUs _)
  · exact accounts_monitorPlayback platform monotonicUs player

/-- No piece of a call changes the stream's parameters. -/
theorem Call.sameStream_advance (platform : Platform) (monotonicUs : Int) (call : Call)
    (player : State) : SameStream player (call.advance platform monotonicUs player).1 := by
  have hMonitor : Accounts True player [] _ :=
    State.accounts_monitorPlayback platform monotonicUs player
  simp only [advance]
  cases call.phase with
  | write => exact ⟨rfl, rfl⟩
  | account written => exact ⟨rfl, rfl⟩
  | check written =>
      simp only
      split_ifs
      · exact hMonitor.toSameStream
      · exact ⟨rfl, rfl⟩
  | returning monitors => exact hMonitor.toSameStream

namespace System

variable {platform : Platform} {system next : System} {event : Event}

/-- What an event does to the system. The control calls are alike: they take no
frame and count none. -/
inductive Effect (platform : Platform) (system : System) : Event → System → Prop where
  | bufferFinished {clock : Clock} {buffer : SLBuffer} {rest : List SLBuffer}
      (hQueue : system.slQueue = buffer :: rest) :
      Effect platform system (.bufferFinished clock)
        (system.finishCallback rest (bqPlayerCallback platform.abi clock system.player))
  | enqueuePCMFrames {chunk : List Byte} {playbackTimeUs : Int} (hCall : system.call = none) :
      Effect platform system (.enqueuePCMFrames chunk playbackTimeUs) { system with
        call := some (Call.enter chunk playbackTimeUs)
        passed := system.passed ++ [chunk] }
  | advanceCall {monotonicUs : Int} {call : Call} (hCall : system.call = some call) :
      Effect platform system (.advanceCall monotonicUs) { system with
        player := (call.advance platform monotonicUs system.player).1
        call := (call.advance platform monotonicUs system.player).2 }
  | control {event : Event} {player : State} (hControl : event.isControl = true)
      (hAccounts : Accounts True system.player [] player) :
      Effect platform system event { system with player := player }

theorem effect_of_step (hStep : system.step platform event = some next) :
    Effect platform system event next := by
  obtain ⟨-, hAct⟩ := act_of_step hStep
  cases event with
  | bufferFinished clock =>
      simp only [act] at hAct
      split at hAct
      · cases hAct
      · next buffer rest hQueue =>
          cases hAct
          exact Effect.bufferFinished hQueue
  | enqueuePCMFrames chunk playbackTimeUs =>
      simp only [act] at hAct
      split_ifs at hAct with hCall
      cases hAct
      exact Effect.enqueuePCMFrames (by simpa using hCall)
  | advanceCall monotonicUs =>
      obtain ⟨call, hCall, rfl⟩ := Option.map_eq_some_iff.mp hAct
      exact Effect.advanceCall hCall
  | syncPlayback monotonicUs systemTimeUs playbackTimeUs =>
      simp only [act] at hAct
      split_ifs at hAct
      cases hAct
      exact Effect.control rfl (State.accounts_syncPlayback platform monotonicUs systemTimeUs
        playbackTimeUs system.player)
  | monitorPlayback monotonicUs =>
      simp only [act] at hAct
      split_ifs at hAct
      cases hAct
      exact Effect.control rfl (State.accounts_monitorPlayback platform monotonicUs system.player)
  | setSystemTimeOffset offsetUs =>
      cases hAct
      exact Effect.control rfl (Accounts.of_fields rfl rfl rfl rfl rfl)
  | setDeviceLatency latencyUs =>
      cases hAct
      exact Effect.control rfl (Accounts.of_fields rfl rfl rfl rfl rfl)

/-- No step of the system changes the stream's parameters. -/
theorem sameStream_step (hStep : system.step platform event = some next) :
    SameStream system.player next.player := by
  cases effect_of_step hStep with
  | @bufferFinished clock buffer rest hQueue =>
      cases hRun : bqPlayerCallback platform.abi clock system.player with
      | none => exact ⟨rfl, rfl⟩
      | some run => exact (accounts_bqPlayerCallback hRun).toSameStream
  | enqueuePCMFrames hCall => exact ⟨rfl, rfl⟩
  | @advanceCall monotonicUs call hCall =>
      exact call.sameStream_advance platform monotonicUs system.player
  | control hControl hAccounts => exact hAccounts.toSameStream

end System

end AudioSync.Player
