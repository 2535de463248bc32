import AudioSync.Player.Accounting

/-! OpenSL runs the callback again when a buffer has been played, so playback goes
on only as long as every run of the callback enqueues a buffer. -/
namespace AudioSync.Player

open MachineInt Transition

/-- A `size_t` that is passed on as an `SLuint32`. -/
theorem toUnsigned_size (abi : Abi) (n : Nat) : toUnsigned 32 (abi.size n) = n % 2 ^ 32 := by
  have hDvd : 2 ^ 32 ∣ 2 ^ abi.bits := Nat.pow_dvd_pow 2 abi.bits_ge
  rw [Abi.size_natCast, toUnsigned_natCast, Nat.mod_mod_of_dvd _ hDvd]

namespace State

variable (abi : Abi)

theorem frameSize_eq_mod (player : State) :
    player.frameSize abi = player.currentNumChannels * 2 % 2 ^ abi.bits :=
  abi.size_mul player.currentNumChannels 2

theorem frameSize_congr {player next : State}
    (hChannels : next.currentNumChannels = player.currentNumChannels) :
    next.frameSize abi = player.frameSize abi := by
  rw [frameSize, frameSize, hChannels]

theorem frameSize_of_channels {player : State}
    (hChannels : player.currentNumChannels = 1 ∨ player.currentNumChannels = 2) :
    player.frameSize abi = 2 * player.currentNumChannels := by
  rw [frameSize]
  rcases hChannels with hMono | hStereo
  · rw [hMono]
    cases abi <;> rfl
  · rw [hStereo]
    cases abi <;> rfl

/-- The bytes of some frames, as the callback computes them. -/
theorem size_frameCount (player : State) (frameCount : Nat) :
    abi.size (frameCount * player.currentNumChannels * 2) =
      frameCount * player.frameSize abi % 2 ^ abi.bits := by
  have hCast : ((frameCount : Int) * player.currentNumChannels * 2) =
      frameCount * (player.currentNumChannels * 2 : Nat) := by
    push_cast
    ring
  rw [hCast, Abi.size_mul, frameSize_eq_mod, Nat.mul_mod_mod]

/-- The bytes OpenSL is told to play for a number of frames. -/
def playedBytes (player : State) (frameCount : Nat) : Nat :=
  frameCount * player.currentNumChannels * 2 % 2 ^ 32

@[simp]
theorem playedBytes_fifoRead (address count frameCount : Nat) (player : State) :
    (player.fifoRead address count).1.playedBytes frameCount = player.playedBytes frameCount := rfl

theorem toUnsigned_maxBufferSize (player : State) :
    toUnsigned 32 (player.maxBufferSize abi) =
      player.playedBytes player.globalFramesPerBuffers := by
  have hDvd : 2 ^ 32 ∣ 2 ^ abi.bits := Nat.pow_dvd_pow 2 abi.bits_ge
  rw [maxBufferSize, ← Nat.cast_mul, toUnsigned_size, frameSize_eq_mod, playedBytes, Nat.mul_mod,
    Nat.mod_mod_of_dvd _ hDvd, ← Nat.mul_mod, Nat.mul_assoc]

theorem enqueueFrames_length (bufPtr frameCount : Nat) (player : State) :
    (player.enqueueFrames abi bufPtr frameCount).2.data.length =
      player.playedBytes frameCount := by
  have hCast : ((frameCount : Int) * player.currentNumChannels * 2) =
      (frameCount * player.currentNumChannels * 2 : Nat) := by push_cast; rfl
  rw [enqueueFrames, slBuffer_length, hCast, toUnsigned_size, playedBytes]

/-- The frame-dropping loop divides by zero only for `mod = 0`, and only while it
has frames to drop. -/
theorem dropFrames_isSome {base channels : Nat} {mod : Int} (remaining frame nFrame : Nat)
    (drop : Int) (memory : Pointer) (hMod : 0 < drop → mod ≠ 0) :
    (dropFrames base channels mod remaining frame nFrame drop memory).isSome := by
  induction remaining generalizing frame nFrame drop memory with
  | zero => rfl
  | succ remaining ih =>
      simp only [dropFrames]
      split_ifs with hTrap hDrop
      · exact absurd hTrap.2 (hMod hTrap.1)
      · exact ih _ _ _ _ fun _ => hMod hDrop.1
      · exact ih _ _ _ _ hMod

theorem dropFrames_zero {base channels remaining frame nFrame : Nat} {drop : Int}
    {memory : Pointer} (hDrop : 0 < drop) :
    dropFrames base channels 0 (remaining + 1) frame nFrame drop memory = none := by
  simp [dropFrames, hDrop]

theorem squeeze_isSome_iff (bufPtr : Nat) {frameCount : Nat} {drop : Int} (player : State)
    (hSome : 0 < frameCount) :
    (player.squeeze abi bufPtr frameCount drop).isSome ↔
      drop ≠ 0 ∧ (0 < drop → toSigned 32 ((frameCount : Int).tdiv drop) ≠ 0) := by
  simp only [squeeze]
  split_ifs with hZero
  · simp [hZero]
  · simp only [Option.isSome_map]
    constructor
    · intro hReturns
      refine ⟨hZero, fun hPos hMod => ?_⟩
      obtain ⟨count, rfl⟩ := Nat.exists_eq_succ_of_ne_zero hSome.ne'
      rw [hMod, dropFrames_zero hPos] at hReturns
      cases hReturns
    · rintro ⟨-, hMod⟩
      exact dropFrames_isSome _ _ _ _ _ hMod

theorem playedBytes_squeeze {bufPtr frameCount : Nat} {drop : Int} {player squeezed : State}
    (hSqueeze : player.squeeze abi bufPtr frameCount drop = some squeezed) (count : Nat) :
    squeezed.playedBytes count = player.playedBytes count := by
  obtain ⟨-, memory, -, rfl⟩ := squeeze_eq_some hSqueeze
  rfl

end State

/-- A run of the callback enqueued exactly one buffer, and that one is not empty. -/
def OneBuffer (enqueued : List SLBuffer) : Prop :=
  ∃ buffer, enqueued = [buffer] ∧ 0 < buffer.data.length

/-- The callback returned, and it kept the chain going. -/
def KeepsChain (run : Option Run) : Prop := ∃ result, run = some result ∧ OneBuffer result.enqueued

namespace State

variable (abi : Abi)

/-- What a playing callback needs so that something is played: frames in the FIFO,
unless it answers with silence. When it catches up and all frames it requests are
there, it divides by their surplus and by the distance of dropped frames. -/
def Sounds (player : State) : Prop :=
  match player.jumpFor player.currentDiff with
  | .silence => True
  | .speedUp =>
      let request := player.speedUpRequest abi player.currentDrop
      if request.1 ≤ player.fifo.fill then
        0 < request.1 ∧ request.2 ≠ 0 ∧
          (0 < request.2 → toSigned 32 ((request.1 : Int).tdiv request.2) ≠ 0)
      else 0 < player.playedBytes player.fifo.fill
  | .none => 0 < player.playedBytes (min player.globalFramesPerBuffers player.fifo.fill)

instance (player : State) : Decidable (player.Sounds abi) :=
  match hJump : player.jumpFor player.currentDiff with
  | .silence => isTrue (by simp [Sounds, hJump])
  | .speedUp =>
      let request := player.speedUpRequest abi player.currentDrop
      decidable_of_iff
        (if request.1 ≤ player.fifo.fill then
          0 < request.1 ∧ request.2 ≠ 0 ∧
            (0 < request.2 → toSigned 32 ((request.1 : Int).tdiv request.2) ≠ 0)
        else 0 < player.playedBytes player.fifo.fill)
        (by simp only [Sounds, hJump, request])
  | .none =>
      decidable_of_iff
        (0 < player.playedBytes (min player.globalFramesPerBuffers player.fifo.fill))
        (by simp only [Sounds, hJump])

theorem oneBuffer_fillerBuffer {bufPtr : Nat} {player : State}
    (hDevice : 0 < player.playedBytes player.globalFramesPerBuffers) :
    OneBuffer [(player.fillerBuffer abi bufPtr).2] := by
  refine ⟨_, rfl, ?_⟩
  simp only [fillerBuffer, slBuffer_length, toUnsigned_maxBufferSize]
  exact hDevice

theorem oneBuffer_playSilence {bufPtr : Nat} {drop : Int} {player : State}
    (hDevice : 0 < player.playedBytes player.globalFramesPerBuffers) :
    OneBuffer (player.playSilence abi bufPtr drop).enqueued := by
  by_cases hRoom : drop < player.globalFramesPerBuffers
  · simp only [playSilence, if_pos hRoom]
    split_ifs with hSome
    · refine ⟨_, rfl, ?_⟩
      rw [slBuffer_length, toUnsigned_maxBufferSize]
      exact hDevice
    · exact oneBuffer_fillerBuffer abi hDevice
  · simp only [playSilence, if_neg hRoom]
    exact oneBuffer_fillerBuffer abi hDevice

/-- The buffer of some frames is the one buffer, if it has any bytes. -/
theorem oneBuffer_enqueueFrames_iff (bufPtr frameCount : Nat) (player : State) :
    OneBuffer [(player.enqueueFrames abi bufPtr frameCount).2] ↔
      0 < player.playedBytes frameCount := by
  rw [← enqueueFrames_length abi bufPtr]
  constructor
  · rintro ⟨buffer, hBuffer, hLength⟩
    rw [List.cons.inj hBuffer |>.1]
    exact hLength
  · exact fun hLength => ⟨_, rfl, hLength⟩

/-- An empty FIFO, or a request for no frames: nothing is enqueued. -/
theorem keepsChain_playFrames_of_empty {bufPtr requestFrames : Nat} {drop : Option Int}
    {player : State} (hEmpty : min requestFrames player.fifo.fill = 0) :
    ¬ KeepsChain (player.playFrames abi bufPtr requestFrames drop) := by
  rintro ⟨run, hRun, buffer, hEnqueued, -⟩
  rw [playFrames_of_none hEmpty] at hRun
  cases hRun
  cases hEnqueued

theorem keepsChain_playFrames_none_iff {bufPtr requestFrames : Nat} {player : State} :
    KeepsChain (player.playFrames abi bufPtr requestFrames none) ↔
      0 < player.playedBytes (min requestFrames player.fifo.fill) := by
  rcases Nat.eq_zero_or_pos (min requestFrames player.fifo.fill) with hEmpty | hSome
  · refine iff_of_false (keepsChain_playFrames_of_empty abi hEmpty) ?_
    simp [hEmpty, playedBytes]
  · have hPlayed := oneBuffer_enqueueFrames_iff abi bufPtr (min requestFrames player.fifo.fill)
      (player.fifoRead (2 * bufPtr) requestFrames).1
    rw [playFrames_of_plain hSome.ne' (Or.inl rfl)]
    simpa [KeepsChain, enqueueRun] using hPlayed

theorem keepsChain_playFrames_some_iff {bufPtr requestFrames : Nat} {drop : Int} {player : State}
    (hDevice : 0 < player.playedBytes player.globalFramesPerBuffers) :
    KeepsChain (player.playFrames abi bufPtr requestFrames (some drop)) ↔
      if requestFrames ≤ player.fifo.fill then
        0 < requestFrames ∧ drop ≠ 0 ∧
          (0 < drop → toSigned 32 ((requestFrames : Int).tdiv drop) ≠ 0)
      else 0 < player.playedBytes player.fifo.fill := by
  rcases Nat.eq_zero_or_pos (min requestFrames player.fifo.fill) with hEmpty | hSome
  · refine iff_of_false (keepsChain_playFrames_of_empty abi hEmpty) ?_
    split_ifs with hFull
    · omega
    · have hFill : player.fifo.fill = 0 := by omega
      simp [hFill, playedBytes]
  · split_ifs with hFull
    · have hRequest : 0 < requestFrames := by omega
      rw [playFrames_of_full hRequest hFull, and_iff_right hRequest, ← squeeze_isSome_iff abi bufPtr
        (player.fifoRead (2 * bufPtr) requestFrames).1 hRequest, Option.isSome_iff_exists]
      constructor
      · rintro ⟨run, hRun, -⟩
        obtain ⟨squeezed, hSqueeze, -⟩ := Option.map_eq_some_iff.mp hRun
        exact ⟨squeezed, hSqueeze⟩
      · rintro ⟨squeezed, hSqueeze⟩
        refine ⟨_, by rw [hSqueeze, Option.map_some], ?_⟩
        apply (oneBuffer_enqueueFrames_iff abi bufPtr player.globalFramesPerBuffers squeezed).mpr
        rw [playedBytes_squeeze abi hSqueeze]
        exact hDevice
    · have hPlayed := oneBuffer_enqueueFrames_iff abi bufPtr player.fifo.fill
        (player.fifoRead (2 * bufPtr) requestFrames).1
      rw [playFrames_of_plain hSome.ne' (Or.inr (by omega)), Nat.min_eq_right (by omega)]
      simpa [KeepsChain, enqueueRun] using hPlayed

theorem keepsChain_play_iff {bufPtr : Nat} {player : State}
    (hDevice : 0 < player.playedBytes player.globalFramesPerBuffers) :
    KeepsChain (player.play abi bufPtr) ↔ player.Sounds abi := by
  unfold play Sounds
  cases player.jumpFor player.currentDiff with
  | silence => exact iff_of_true ⟨_, rfl, oneBuffer_playSilence abi hDevice⟩ trivial
  | speedUp => exact keepsChain_playFrames_some_iff abi hDevice
  | none => exact keepsChain_playFrames_none_iff abi

end State

/-- The stream parameters stay, and with them the size of a device buffer. -/
theorem SameStream.playedBytes {player next : State} (h : SameStream player next) :
    next.playedBytes next.globalFramesPerBuffers =
      player.playedBytes player.globalFramesPerBuffers := by
  rw [State.playedBytes, State.playedBytes, h.channels, h.framesPerBuffers]

/-- A run of the callback enqueues one buffer exactly when it does not play, or
when it has something to play. -/
theorem keepsChain_bqPlayerCallback_iff (abi : Abi) (clock : Clock) {player : State}
    (hDevice : 0 < player.playedBytes player.globalFramesPerBuffers) :
    KeepsChain (bqPlayerCallback abi clock player) ↔
      ((player.decided abi clock).currentIsPlaying = true →
        ((player.decided abi clock).measure abi clock).Sounds abi) := by
  have hDecided : Accounts True player _ _ := State.accounts_decided abi clock player
  have hMeasured := hDecided.trans (State.accounts_measure abi clock _)
  rw [bqPlayerCallback_eq]
  simp only
  by_cases hPlaying : (player.decided abi clock).currentIsPlaying = true
  · rw [if_pos hPlaying, forall_prop_of_true hPlaying,
      ← State.keepsChain_play_iff abi (by rw [hMeasured.playedBytes]; exact hDevice)]
    constructor
    · rintro ⟨run, hRun, hOne⟩
      obtain ⟨played, hPlayed, rfl⟩ := Option.map_eq_some_iff.mp hRun
      exact ⟨played, hPlayed, hOne⟩
    · rintro ⟨played, hPlayed, hOne⟩
      exact ⟨{ played with consumed := player.skipped abi clock ++ played.consumed },
        by rw [hPlayed, Option.map_some], hOne⟩
  · rw [if_neg hPlaying]
    refine iff_of_true ⟨_, rfl, State.oneBuffer_fillerBuffer abi ?_⟩ (absurd · hPlaying)
    rw [hDecided.playedBytes]
    exact hDevice

namespace System

/-- Every run of the callback so far has enqueued exactly one non-empty buffer. -/
def Unbroken (system : System) : Prop := ∀ enqueued ∈ system.callbacks, OneBuffer enqueued

/-- A run of the callback that plays has something to play. -/
def NotStarved (platform : Platform) (system : System) : Event → Prop
  | .bufferFinished clock =>
      (system.player.decided platform.abi clock).currentIsPlaying = true →
        ((system.player.decided platform.abi clock).measure platform.abi clock).Sounds
          platform.abi
  | _ => True

instance (platform : Platform) (system : System) (event : Event) :
    Decidable (system.NotStarved platform event) :=
  match event with
  | .bufferFinished clock =>
      inferInstanceAs (Decidable (
        (system.player.decided platform.abi clock).currentIsPlaying = true →
          ((system.player.decided platform.abi clock).measure platform.abi clock).Sounds
            platform.abi))
  | .enqueuePCMFrames _ _ => isTrue trivial
  | .advanceCall _ => isTrue trivial
  | .syncPlayback _ _ _ => isTrue trivial
  | .monitorPlayback _ => isTrue trivial
  | .setSystemTimeOffset _ => isTrue trivial
  | .setDeviceLatency _ => isTrue trivial

theorem notStarved_of_isControl {platform : Platform} {system : System} {event : Event}
    (hControl : event.isControl = true) : system.NotStarved platform event := by
  cases event with
  | bufferFinished clock => cases hControl
  | _ => trivial

/-- The device buffer holds at least one byte; this never changes in a stream. -/
def HasDevice (system : System) : Prop :=
  0 < system.player.playedBytes system.player.globalFramesPerBuffers

theorem HasDevice.step {platform : Platform} {system next : System} {event : Event}
    (hDevice : system.HasDevice) (hStep : system.step platform event = some next) :
    next.HasDevice := by
  rw [HasDevice, (sameStream_step hStep).playedBytes]
  exact hDevice

/-- One more run of the callback keeps the chain if it enqueued one buffer. -/
theorem Unbroken.append_iff {system : System} (hUnbroken : system.Unbroken)
    (last : List SLBuffer) :
    (∀ enqueued ∈ system.callbacks ++ [last], OneBuffer enqueued) ↔ OneBuffer last := by
  simp only [List.mem_append, List.mem_singleton]
  constructor
  · exact fun h => h last (Or.inr rfl)
  · exact fun h enqueued hMem => hMem.elim (hUnbroken enqueued) fun hEq => hEq ▸ h

/-- The chain survives a step exactly when the callback that is run is not starved. -/
theorem Unbroken.step_iff {platform : Platform} {system next : System} {event : Event}
    (hDevice : system.HasDevice) (hUnbroken : system.Unbroken)
    (hStep : system.step platform event = some next) :
    next.Unbroken ↔ system.NotStarved platform event := by
  cases effect_of_step hStep with
  | @bufferFinished clock buffer rest hQueue =>
      rw [NotStarved, ← keepsChain_bqPlayerCallback_iff platform.abi clock hDevice]
      cases hRun : bqPlayerCallback platform.abi clock system.player with
      | none =>
          refine (hUnbroken.append_iff []).trans (iff_of_false ?_ ?_)
          · rintro ⟨buffer, hBuffer, -⟩
            cases hBuffer
          · rintro ⟨result, hResult, -⟩
            cases hResult
      | some run =>
          refine (hUnbroken.append_iff run.enqueued).trans ?_
          simp [KeepsChain]
  | enqueuePCMFrames hCall => exact iff_of_true hUnbroken trivial
  | advanceCall hCall => exact iff_of_true hUnbroken trivial
  | control hControl hAccounts => exact iff_of_true hUnbroken (notStarved_of_isControl hControl)

/-- The first run of the callback is the one `audioplayer_initPlayback` makes. -/
theorem unbroken_start_iff {abi : Abi} {clock : Clock} {samplesPerSec numChannels : BitVec 32}
    {player : State} {run : Run}
    (hInit : initPlayback abi clock samplesPerSec numChannels player = some run) :
    (start run).Unbroken ↔ (start run).HasDevice := by
  obtain ⟨hPos, -, -, hRun⟩ := initPlayback_eq_some hInit
  obtain ⟨hPlayer, hEnqueued⟩ := Prod.mk.inj hRun
  simp only [start, Unbroken, HasDevice, List.mem_singleton, forall_eq, hPlayer, hEnqueued]
  constructor
  · rintro ⟨buffer, hBuffer, hLength⟩
    rw [← (List.cons.inj hBuffer).1, State.fillerBuffer, State.slBuffer_length,
      State.toUnsigned_maxBufferSize] at hLength
    exact hLength
  · exact fun hDevice => State.oneBuffer_fillerBuffer abi hDevice

/-- The callback chain: since `audioplayer_initPlayback`, every run of the callback
enqueues one non-empty buffer, exactly when the device buffer has a size and no run
of the callback is starved. -/
theorem always_unbroken_iff (platform : Platform) (clock : Clock)
    (samplesPerSec numChannels : BitVec 32) (player : State) (run : Run)
    (hInit : initPlayback platform.abi clock samplesPerSec numChannels player = some run)
    (events : List Event) :
    Always (step platform) Unbroken (start run) events ↔
      0 < player.globalFramesPerBuffers * numChannels.toNat * 2 % 2 ^ 32 ∧
        Meets (step platform) (NotStarved platform) (start run) events := by
  have hStart := unbroken_start_iff hInit
  have hSize : (start run).HasDevice ↔
      0 < player.globalFramesPerBuffers * numChannels.toNat * 2 % 2 ^ 32 := by
    obtain ⟨hPos, -, -, hRun⟩ := initPlayback_eq_some hInit
    have hPlayer : (start run).player = _ := congrArg Prod.fst hRun
    rw [HasDevice, hPlayer]
    rfl
  rw [← hSize]
  constructor
  · intro hAlways
    have hDevice := hStart.mp hAlways.head
    exact ⟨hDevice, (always_iff_meets HasDevice (fun _ _ _ => HasDevice.step)
      (fun _ _ _ => Unbroken.step_iff) hDevice hAlways.head events).mp hAlways⟩
  · rintro ⟨hDevice, hMeets⟩
    exact (always_iff_meets HasDevice (fun _ _ _ => HasDevice.step)
      (fun _ _ _ => Unbroken.step_iff) hDevice (hStart.mpr hDevice) events).mpr hMeets

/-- A run of the callback before the stream is synchronised, and two that play a frame each. -/
def playedFrames : List Event :=
  [.bufferFinished ⟨500, 10000⟩, .enqueuePCMFrames [1, 2] 125, .advanceCall 0, .advanceCall 0,
    .advanceCall 0, .advanceCall 0, .syncPlayback 0 1000 0, .bufferFinished ⟨1000, 10000⟩,
    .enqueuePCMFrames [3, 4] 250, .advanceCall 1, .bufferFinished ⟨1125, 10000⟩]

theorem always_unbroken_playedFrames :
    ∃ run, initPlayback .lp64 ⟨0, 10000⟩ 8000#32 1#32 (State.boot 48000#32 160#32) = some run ∧
      (Transition.run (step ⟨.lp64, fun _ _ => 0⟩) (start run) playedFrames).map consumed =
          some [[1, 2], [3, 4]] ∧
        Always (step ⟨.lp64, fun _ _ => 0⟩) Unbroken (start run) playedFrames := by
  obtain ⟨run, hInit⟩ := initPlayback_isSome .lp64 ⟨0, 10000⟩ (State.boot 48000#32 160#32)
    (by decide : 0 < State.fifoFrames 8000#32) (by decide : 0 < Abi.lp64.size ((1#32).toNat * 2))
  have hSteps : (initPlayback .lp64 ⟨0, 10000⟩ 8000#32 1#32 (State.boot 48000#32 160#32)).all
      fun run =>
        (Transition.run (step ⟨.lp64, fun _ _ => 0⟩) (start run) playedFrames).map consumed =
            some [[1, 2], [3, 4]] ∧
          Meets (step ⟨.lp64, fun _ _ => 0⟩) (NotStarved ⟨.lp64, fun _ _ => 0⟩) (start run)
            playedFrames := by
    decide
  rw [hInit, Option.all_some, decide_eq_true_iff] at hSteps
  exact ⟨run, hInit, hSteps.1, (always_unbroken_iff ⟨.lp64, fun _ _ => 0⟩ ⟨0, 10000⟩ _ _ _ run hInit
    _).mpr ⟨by decide, hSteps.2⟩⟩

/-- Playback starts before the first packet has been decoded: the FIFO is empty,
and the second run of the callback enqueues nothing. -/
theorem not_always_unbroken_empty_fifo :
    ∃ run, initPlayback .lp64 ⟨0, 10000⟩ 44100#32 2#32 (State.boot 48000#32 480#32) = some run ∧
      ¬ Always (step ⟨.lp64, fun _ _ => 0⟩) Unbroken (start run)
        [.syncPlayback 0 1000 0, .bufferFinished ⟨1000, 10000⟩] := by
  obtain ⟨run, hInit⟩ := initPlayback_isSome .lp64 ⟨0, 10000⟩ (State.boot 48000#32 480#32)
    (by decide : 0 < State.fifoFrames 44100#32) (by decide : 0 < Abi.lp64.size ((2#32).toNat * 2))
  obtain ⟨hPos, -, -, hRun⟩ := initPlayback_eq_some hInit
  obtain ⟨player, consumed, enqueued⟩ := run
  obtain ⟨hPlayer, hEnqueued⟩ := Prod.mk.inj hRun
  simp only at hPlayer hEnqueued
  refine ⟨_, hInit, fun hAlways => ?_⟩
  subst hPlayer hEnqueued
  have hUnbroken := ((hAlways.2 _ rfl).2 _ rfl).head
  obtain ⟨buffer, hBuffer, -⟩ :=
    hUnbroken [] (List.mem_append_right [_] (List.mem_singleton_self _))
  cases hBuffer

end System

end AudioSync.Player
