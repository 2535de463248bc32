import AudioSync.Player.Accounting

/-! Every frame that is passed to the player comes out of its FIFO once, and the
two counters that drive the playback clock differ by the FIFO's fill. -/
namespace AudioSync.Player

open MachineInt Transition

/-- Cutting whole frames out of a block loses no byte. -/
theorem framesOf_flatten {frameSize : Nat} {pcm : List Byte}
    (hWhole : frameSize ∣ pcm.length) : (framesOf frameSize pcm).flatten = pcm := by
  have hPrefix : ∀ count, ((List.range count).map fun i =>
      (pcm.drop (i * frameSize)).take frameSize).flatten = pcm.take (count * frameSize) := by
    intro count
    induction count with
    | zero => simp
    | succ count ih =>
        rw [List.range_succ, List.map_append, List.flatten_append, ih, Nat.succ_mul,
          List.take_add]
        simp
  rw [framesOf, hPrefix, Nat.div_mul_cancel hWhole, List.take_length]

theorem flatMap_framesOf_flatten {frameSize : Nat} {chunks : List (List Byte)}
    (hWhole : ∀ chunk ∈ chunks, frameSize ∣ chunk.length) :
    (chunks.flatMap (framesOf frameSize)).flatten = chunks.flatten := by
  induction chunks with
  | nil => rfl
  | cons chunk chunks ih =>
      rw [List.flatMap_cons, List.flatten_append, List.flatten_cons,
        framesOf_flatten (hWhole chunk List.mem_cons_self),
        ih fun other hOther => hWhole other (List.mem_cons_of_mem _ hOther)]

namespace Call

/-- The frames of the call that have not been offered to the FIFO. -/
def unwritten (frameSize : Nat) (call : Call) : List Frame :=
  match call.phase with
  | .write => framesOf frameSize call.chunk
  | _ => []

/-- How many frames of the call are not in `current_bufferedFrames`. -/
def uncounted (frameSize : Nat) (call : Call) : Nat :=
  match call.phase with
  | .write => (framesOf frameSize call.chunk).length
  | .account _ => (framesOf frameSize call.chunk).length
  | _ => 0

/-- The FIFO took every frame it was offered. -/
def WroteAll (frameSize : Nat) (call : Call) : Prop :=
  match call.phase with
  | .account written => written = (framesOf frameSize call.chunk).length
  | .check written => written = (framesOf frameSize call.chunk).length
  | _ => True

end Call

namespace System

/-- After every returned call, the frames that came out of the FIFO and those still
in it are the chunks passed in, and the counters differ by the fill. -/
def Conserves (system : System) : Prop :=
  system.call = none →
    (system.consumed ++ system.player.fifo.contents).flatten = system.passed.flatten ∧
    (system.player.currentBufferedFrames : Int) - system.player.currentQueuedFrames =
      system.player.fifo.fill

/-- What a step must find for no frame to be lost or counted twice: chunks of whole
frames, room in the FIFO for all of a chunk, and counters that do not overflow. -/
def FindsRoom (platform : Platform) (system : System) : Event → Prop
  | .bufferFinished clock => system.player.CountsExactly platform.abi clock
  | .enqueuePCMFrames chunk _ => system.player.frameSize platform.abi ∣ chunk.length
  | .advanceCall _ => ∀ call ∈ system.call,
      match call.phase with
      | .write =>
          (framesOf (system.player.frameSize platform.abi) call.chunk).length ≤
            system.player.fifo.free
      | .account _ =>
          system.player.currentBufferedFrames +
            (framesOf (system.player.frameSize platform.abi) call.chunk).length <
              2 ^ platform.abi.bits
      | _ => True
  | _ => True

instance (platform : Platform) (system : System) (event : Event) :
    Decidable (system.FindsRoom platform event) :=
  match event with
  | .bufferFinished clock =>
      inferInstanceAs (Decidable (system.player.CountsExactly platform.abi clock))
  | .enqueuePCMFrames chunk _ =>
      inferInstanceAs (Decidable (system.player.frameSize platform.abi ∣ chunk.length))
  | .advanceCall _ =>
      match hCall : system.call with
      | none => isTrue fun call hSome => nomatch hCall.symm.trans hSome
      | some ⟨chunk, _, _, .write⟩ =>
          decidable_of_iff
            ((framesOf (system.player.frameSize platform.abi) chunk).length ≤
              system.player.fifo.free)
            (by simp [FindsRoom, hCall])
      | some ⟨chunk, _, _, .account _⟩ =>
          decidable_of_iff
            (system.player.currentBufferedFrames +
              (framesOf (system.player.frameSize platform.abi) chunk).length <
                2 ^ platform.abi.bits)
            (by simp [FindsRoom, hCall])
      | some ⟨_, _, _, .check _⟩ => isTrue (by simp [FindsRoom, hCall])
      | some ⟨_, _, _, .returning _⟩ => isTrue (by simp [FindsRoom, hCall])
  | .syncPlayback _ _ _ => isTrue trivial
  | .monitorPlayback _ => isTrue trivial
  | .setSystemTimeOffset _ => isTrue trivial
  | .setDeviceLatency _ => isTrue trivial

/-- The accounts of a system whose frame size is `frameSize`, also in the middle
of a call. -/
structure Balanced (abi : Abi) (frameSize : Nat) (system : System) : Prop where
  size : system.player.frameSize abi = frameSize
  frames : system.consumed ++ system.player.fifo.contents ++
    (system.call.elim [] (Call.unwritten frameSize)) = system.passed.flatMap (framesOf frameSize)
  queued : system.player.currentQueuedFrames = system.consumed.length
  buffered : system.player.currentBufferedFrames +
    system.call.elim 0 (Call.uncounted frameSize) =
      (system.passed.flatMap (framesOf frameSize)).length
  whole : ∀ chunk ∈ system.passed, frameSize ∣ chunk.length
  pending : ∀ call ∈ system.call, call.chunk ∈ system.passed ∧ call.WroteAll frameSize

namespace Balanced

variable {platform : Platform} {abi : Abi} {frameSize : Nat} {system next : System}

theorem conserves (h : Balanced abi frameSize system) : system.Conserves := by
  intro hCall
  have hFrames := h.frames
  have hBuffered := h.buffered
  simp only [hCall, Option.elim_none, List.append_nil, Nat.add_zero] at hFrames hBuffered
  constructor
  · rw [hFrames, flatMap_framesOf_flatten h.whole]
  · rw [h.queued, hBuffered, ← hFrames, List.length_append, BoundedQueue.fill]
    push_cast
    ring

/-- A step that only takes frames from the FIFO and counts them as queued. -/
theorem of_accounts (h : Balanced abi frameSize system) {exact : Prop} {consumed : List Frame}
    {player : State} (hAccounts : Accounts exact system.player consumed player) (hExact : exact)
    (hPlayer : next.player = player)
    (hConsumed : next.consumed = system.consumed ++ consumed) (hCall : next.call = system.call)
    (hPassed : next.passed = system.passed) : Balanced abi frameSize next where
  size := by
    rw [← h.size, hPlayer, State.frameSize, State.frameSize, hAccounts.channels]
  frames := by
    rw [hConsumed, hPlayer, hCall, hPassed, List.append_assoc system.consumed, hAccounts.frames]
    exact h.frames
  queued := by
    rw [hPlayer, hAccounts.queued hExact, h.queued, hConsumed, List.length_append]
    push_cast
    rfl
  buffered := by
    rw [hPlayer, hAccounts.buffered, hCall, hPassed]
    exact h.buffered
  whole := by rw [hPassed]; exact h.whole
  pending := by rw [hCall, hPassed]; exact h.pending

/-- A call enters with all of its frames still to be written and counted. -/
theorem enter (h : Balanced abi frameSize system) {chunk : List Byte} {playbackTimeUs : Int}
    (hCall : system.call = none) (hWhole : frameSize ∣ chunk.length) :
    Balanced abi frameSize { system with
      call := some (Call.enter chunk playbackTimeUs)
      passed := system.passed ++ [chunk] } := by
  have hFrames := h.frames
  have hBuffered := h.buffered
  simp only [hCall, Option.elim_none, List.append_nil, Nat.add_zero] at hFrames hBuffered
  refine ⟨h.size, ?_, h.queued, ?_, ?_, ?_⟩
  · simp [hFrames, Call.unwritten, Call.enter]
  · simp [hBuffered, Call.uncounted, Call.enter]
  · intro other hOther
    rcases List.mem_append.mp hOther with hOld | hNew
    · exact h.whole other hOld
    · rw [List.mem_singleton.mp hNew]
      exact hWhole
  · rintro call ⟨⟩
    exact ⟨by simp [Call.enter], trivial⟩

/-- Each piece of a call keeps the accounts when it finds room. -/
theorem advance (h : Balanced platform.abi frameSize system) {monotonicUs : Int} {call : Call}
    (hCall : system.call = some call)
    (hRoom : system.FindsRoom platform (.advanceCall monotonicUs)) :
    Balanced platform.abi frameSize { system with
      player := (call.advance platform monotonicUs system.player).1
      call := (call.advance platform monotonicUs system.player).2 } := by
  have hFrames := h.frames
  have hBuffered := h.buffered
  have hOk := hRoom call hCall
  obtain ⟨hChunk, hWrote⟩ := h.pending call hCall
  rw [h.size] at hOk
  rw [hCall] at hFrames hBuffered
  obtain ⟨chunk, playbackTimeUs, depth, phase⟩ := call
  cases phase with
  | write =>
      simp only [Call.unwritten, Call.uncounted, Option.elim_some] at hFrames hBuffered hOk
      refine ⟨h.size, ?_, h.queued, ?_, h.whole, ?_⟩
      · simp only [Call.advance, Call.unwritten, Option.elim_some, List.append_nil, h.size]
        rw [BoundedQueue.write_contents_of_room hOk, ← List.append_assoc]
        exact hFrames
      · simpa [Call.advance, Call.uncounted] using hBuffered
      · rintro _ ⟨⟩
        refine ⟨hChunk, ?_⟩
        simp only [Call.WroteAll, h.size]
        omega
  | account written =>
      simp only [Call.unwritten, Call.uncounted, Option.elim_some, List.append_nil]
        at hFrames hBuffered hOk
      refine ⟨h.size, ?_, h.queued, ?_, h.whole, ?_⟩
      · simpa [Call.advance, Call.unwritten] using hFrames
      · simp only [Call.advance, Call.uncounted, Option.elim_some, h.size, Nat.add_zero]
        rw [← hBuffered]
        exact_mod_cast Abi.size_of_lt hOk
      · rintro _ ⟨⟩
        exact ⟨hChunk, hWrote⟩
  | check written =>
      simp only [Call.unwritten, Call.uncounted, Option.elim_some, List.append_nil, Nat.add_zero]
        at hFrames hBuffered
      -- An empty write means an empty chunk here, so the call does not recurse.
      have hDone : ¬ (written = 0 ∧ 0 < chunk.length ∧ system.player.currentIsPlaying = true) := by
        rintro ⟨hZero, hSome, -⟩
        have hLength : written = chunk.length / frameSize := by
          simpa [Call.WroteAll] using hWrote
        have hExact := Nat.div_mul_cancel (h.whole chunk hChunk)
        rw [← hLength, hZero, Nat.zero_mul] at hExact
        omega
      simp only [Call.advance, if_neg hDone]
      refine ⟨h.size, ?_, h.queued, ?_, h.whole, ?_⟩
      · simpa [Call.unwritten] using hFrames
      · simpa [Call.uncounted] using hBuffered
      · rintro _ ⟨⟩
        exact ⟨hChunk, trivial⟩
  | returning monitors =>
      simp only [Call.unwritten, Call.uncounted, Option.elim_some, List.append_nil, Nat.add_zero]
        at hFrames hBuffered
      have hMonitor : Accounts True system.player [] _ :=
        State.accounts_monitorPlayback platform monotonicUs system.player
      have hSize : (system.player.monitorPlayback platform monotonicUs).1.frameSize platform.abi =
          frameSize := by
        rw [← h.size, State.frameSize, State.frameSize, hMonitor.channels]
      have hContents := hMonitor.frames
      simp only [List.nil_append] at hContents
      refine ⟨hSize, ?_, ?_, ?_, h.whole, ?_⟩
      · cases monitors <;> simpa [Call.advance, Call.unwritten, hContents] using hFrames
      · simpa [Call.advance, hMonitor.queued trivial] using h.queued
      · cases monitors <;>
          simpa [Call.advance, Call.uncounted, hMonitor.buffered] using hBuffered
      · cases monitors with
        | zero => simp [Call.advance]
        | succ left =>
            rintro _ ⟨⟩
            exact ⟨hChunk, trivial⟩

end Balanced

/-- One step of the system keeps the accounts when it finds room. -/
theorem Balanced.step {platform : Platform} {frameSize : Nat} {system next : System}
    {event : Event} (h : Balanced platform.abi frameSize system)
    (hRoom : system.FindsRoom platform event) (hStep : system.step platform event = some next) :
    Balanced platform.abi frameSize next := by
  cases effect_of_step hStep with
  | @bufferFinished clock buffer rest hQueue =>
      cases hRun : bqPlayerCallback platform.abi clock system.player with
      | none => exact ⟨h.size, h.frames, h.queued, h.buffered, h.whole, h.pending⟩
      | some run => exact h.of_accounts (accounts_bqPlayerCallback hRun) hRoom rfl rfl rfl rfl
  | enqueuePCMFrames hCall => exact h.enter hCall (h.size ▸ hRoom)
  | advanceCall hCall => exact h.advance hCall hRoom
  | control hControl hAccounts =>
      exact h.of_accounts hAccounts trivial rfl (List.append_nil _).symm rfl rfl

/-- What `audioplayer_initPlayback` leaves in the player. -/
theorem start_player {abi : Abi} {clock : Clock} {samplesPerSec numChannels : BitVec 32}
    {player : State} {run : Run}
    (hInit : initPlayback abi clock samplesPerSec numChannels player = some run) :
    (start run).player.currentIsPlaying = false ∧
      (start run).player.frameSize abi = abi.size (numChannels.toNat * 2) ∧
      (start run).player.fifo = BoundedQueue.empty (State.fifoFrames samplesPerSec) ∧
      (start run).player.currentBufferedFrames = 0 ∧
      (start run).player.currentQueuedFrames = 0 := by
  obtain ⟨hPos, -, -, hRun⟩ := initPlayback_eq_some hInit
  have hPlayer : (start run).player = _ := congrArg Prod.fst hRun
  rw [hPlayer]
  exact ⟨rfl, rfl, rfl, rfl, rfl⟩

/-- The accounts are balanced when `audioplayer_initPlayback` returns. -/
theorem balanced_start {abi : Abi} {clock : Clock} {samplesPerSec numChannels : BitVec 32}
    {player : State} {run : Run}
    (hInit : initPlayback abi clock samplesPerSec numChannels player = some run) :
    Balanced abi (abi.size (numChannels.toNat * 2)) (start run) := by
  obtain ⟨-, hSize, hFifo, hBuffered, hQueued⟩ := start_player hInit
  obtain ⟨-, -, hConsumed, -⟩ := initPlayback_eq_some hInit
  have hNone : (start run).consumed = [] := hConsumed
  refine ⟨hSize, ?_, ?_, ?_, by simp [start], by simp [start]⟩
  · rw [hNone, hFifo]
    rfl
  · rw [hQueued, hNone]
    rfl
  · rw [hBuffered]
    rfl

/-- A call that no other event interrupts. -/
def wholeCall (chunk : List Byte) (playbackTimeUs monotonicUs : Int) : List Event :=
  [.enqueuePCMFrames chunk playbackTimeUs, .advanceCall monotonicUs, .advanceCall monotonicUs,
    .advanceCall monotonicUs, .advanceCall monotonicUs]

/-- Before playback has started a call returns after one round, whatever part of
the chunk the FIFO took. -/
theorem run_wholeCall (platform : Platform) (system : System) (chunk : List Byte)
    (playbackTimeUs monotonicUs : Int) (hHalted : system.halted = false)
    (hCall : system.call = none) (hIdle : system.player.currentIsPlaying = false) :
    ∃ next, run (step platform) system (wholeCall chunk playbackTimeUs monotonicUs) = some next ∧
      next.call = none ∧
      next.player.fifo =
        (system.player.fifo.write (framesOf (system.player.frameSize platform.abi) chunk)).1 ∧
      next.player.currentQueuedFrames = system.player.currentQueuedFrames ∧
      next.player.currentBufferedFrames =
        platform.abi.size (system.player.currentBufferedFrames +
          (framesOf (system.player.frameSize platform.abi) chunk).length) := by
  obtain ⟨player, call, passed, consumed, slQueue, callbacks, halted⟩ := system
  simp only at hHalted hCall hIdle
  subst hHalted hCall
  simp [run, wholeCall, step, act, Call.enter, Call.advance, State.monitorPlayback, hIdle]
  rfl

/-- Frame conservation: in every run since `audioplayer_initPlayback` whose steps
find room, whatever the interleaving of the two threads. -/
theorem always_conserves (platform : Platform) (clock : Clock)
    (samplesPerSec numChannels : BitVec 32) (player : State) (run : Run)
    (hInit : initPlayback platform.abi clock samplesPerSec numChannels player = some run)
    (events : List Event)
    (hRoom : Meets (step platform) (FindsRoom platform) (start run) events) :
    Always (step platform) Conserves (start run) events :=
  (always_of_meets (fun _ _ _ hBalanced hOk hStep => hBalanced.step hOk hStep)
    (balanced_start hInit) hRoom).imp fun _ hBalanced => hBalanced.conserves

/-- Three frames are played together. The callback plays the fourth before the call that passed it
in has counted it. -/
def fourFrames : List Event :=
  wholeCall [1, 2, 3, 4, 5, 6] 375 0 ++
    [.syncPlayback 0 1000 0, .bufferFinished ⟨1000, 10000⟩, .enqueuePCMFrames [7, 8] 500,
      .advanceCall 1, .bufferFinished ⟨1375, 10000⟩, .advanceCall 1, .advanceCall 1,
      .advanceCall 1]

theorem always_conserves_fourFrames :
    ∃ run, initPlayback .ilp32 ⟨0, 10000⟩ 8000#32 1#32 (State.boot 48000#32 160#32) = some run ∧
      (Transition.run (step ⟨.ilp32, fun _ _ => 0⟩) (start run) fourFrames).map consumed =
          some [[1, 2], [3, 4], [5, 6], [7, 8]] ∧
        Always (step ⟨.ilp32, fun _ _ => 0⟩) Conserves (start run) fourFrames := by
  obtain ⟨run, hInit⟩ := initPlayback_isSome .ilp32 ⟨0, 10000⟩ (State.boot 48000#32 160#32)
    (by decide : 0 < State.fifoFrames 8000#32) (by decide : 0 < Abi.ilp32.size ((1#32).toNat * 2))
  have hSteps : (initPlayback .ilp32 ⟨0, 10000⟩ 8000#32 1#32 (State.boot 48000#32 160#32)).all
      fun run =>
        (Transition.run (step ⟨.ilp32, fun _ _ => 0⟩) (start run) fourFrames).map consumed =
            some [[1, 2], [3, 4], [5, 6], [7, 8]] ∧
          Meets (step ⟨.ilp32, fun _ _ => 0⟩) (FindsRoom ⟨.ilp32, fun _ _ => 0⟩) (start run)
            fourFrames := by
    decide
  rw [hInit, Option.all_some, decide_eq_true_iff] at hSteps
  exact ⟨run, hInit, hSteps.1, always_conserves ⟨.ilp32, fun _ _ => 0⟩ ⟨0, 10000⟩ _ _ _ run hInit _
    hSteps.2⟩

/-- One frame more than five minutes of audio, in one chunk: the FIFO cannot take
the last frame, which is counted all the same. -/
theorem not_always_conserves_full_fifo :
    ∃ run, initPlayback .lp64 ⟨0, 10000⟩ 8000#32 1#32 (State.boot 48000#32 480#32) = some run ∧
      ¬ Always (step ⟨.lp64, fun _ _ => 0⟩) Conserves (start run)
        (wholeCall (List.replicate 4800002 0) 0 0) := by
  obtain ⟨run, hInit⟩ := initPlayback_isSome .lp64 ⟨0, 10000⟩ (State.boot 48000#32 480#32)
    (by decide : 0 < State.fifoFrames 8000#32) (by decide : 0 < Abi.lp64.size ((1#32).toNat * 2))
  obtain ⟨hIdle, hSize, hEmpty, hBufferedZero, hQueuedZero⟩ := start_player hInit
  refine ⟨run, hInit, fun hAlways => ?_⟩
  obtain ⟨next, hNext, hReturned, hFifo, hQueued, hBuffered⟩ :=
    run_wholeCall ⟨.lp64, fun _ _ => 0⟩ (start run) (List.replicate 4800002 0) 0 0 rfl rfl hIdle
  have hCounters := (hAlways.of_run hNext hReturned).2
  have hCapacity : next.player.fifo.capacity = 2400000 := by
    rw [hFifo, BoundedQueue.write_capacity, hEmpty]
    rfl
  have hTotal : next.player.currentBufferedFrames = 2400001 := by
    rw [hBuffered, hBufferedZero, framesOf_length, hSize, List.length_replicate]
    rfl
  have hFits := next.player.fifo.fits
  rw [hTotal, hQueued, hQueuedZero] at hCounters
  simp only [BoundedQueue.fill] at hCounters
  omega

end System

end AudioSync.Player
