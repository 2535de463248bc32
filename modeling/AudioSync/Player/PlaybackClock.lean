import AudioSync.Player.Marks
import AudioSync.Player.FrameConservation

/-! The playback clock: the media time of the frame that is read next, from the last mark
that has been reached and the frames counted since. -/
namespace AudioSync.Player

open MachineInt Transition

namespace Marked

/-- A chunk is stamped with the media time of its end, and fits the FIFO. -/
def Supposed (platform : Platform) (marked : Marked) : Event → Prop
  | .enqueuePCMFrames chunk playbackTimeUs =>
      playbackTimeUs = mediaTimeUs marked.system.player.currentSamplesPerSec
        (marked.system.framesPassed platform.abi +
          (framesOf (marked.system.player.frameSize platform.abi) chunk).length)
  | .advanceCall _ => ∀ call ∈ marked.system.call, call.phase = .write →
      (framesOf (marked.system.player.frameSize platform.abi) call.chunk).length ≤
        marked.system.player.fifo.free
  | _ => True

/-- The frames passed are a `size_t`, and the microsecond frames since the latest mark are
an `int64_t` whenever the callback plays. -/
def InRange (platform : Platform) (marked : Marked) : Event → Prop
  | .enqueuePCMFrames chunk _ =>
      marked.system.framesPassed platform.abi +
        (framesOf (marked.system.player.frameSize platform.abi) chunk).length <
          2 ^ platform.abi.bits
  | .bufferFinished clock =>
      let decided := marked.system.player.decided platform.abi clock
      decided.currentIsPlaying = true → Fits 64 (SECOND_MICRO *
        (decided.currentQueuedFrames -
          (latest decided.currentQueuedFrames marked.marks).frameCount))
  | _ => True

/-- A callback that plays works with the latest mark, and with the media time of the position
or a time less than two microseconds before it. -/
def Accurate (platform : Platform) (marked : Marked) : Event → Prop
  | .bufferFinished clock =>
      let player := marked.system.player
      let queuedFrames := (player.decided platform.abi clock).currentQueuedFrames
      let measured := player.measured platform.abi clock
      (player.decided platform.abi clock).currentIsPlaying = true →
        measured.lastMark = latest queuedFrames marked.marks ∧
          measured.playbackTimeUs platform.abi * player.currentSamplesPerSec ≤
            queuedFrames * SECOND_MICRO ∧
          queuedFrames * SECOND_MICRO <
            (measured.playbackTimeUs platform.abi + 2) * player.currentSamplesPerSec
  | _ => True

end Marked

/-- The marks, the counters and the frames on their way agree. All marks are stamped with
their media time; those up to the last one have been reached. -/
structure Tracks (abi : Abi) (frameSize rate : Nat) (call : Option Call)
    (passed : List (List Byte)) (marks : List PlaybackMark) (player : State) : Prop where
  size : player.frameSize abi = frameSize
  samplesPerSec : player.currentSamplesPerSec = rate
  split : ∃ front, ⟨0, 0⟩ :: marks = front ++ player.lastMark :: player.currentPlaybackMarkQueue ∧
    ∀ mark ∈ front ++ [player.lastMark], (mark.frameCount : Int) ≤ player.currentQueuedFrames
  sorted : (⟨0, 0⟩ :: marks).Pairwise fun mark later => mark.frameCount ≤ later.frameCount
  stamped : ∀ mark ∈ ⟨0, 0⟩ :: marks,
    mark.playbackTimeUs = Marked.mediaTimeUs rate mark.frameCount ∧
      mark.frameCount ≤ player.currentBufferedFrames
  buffered : player.currentBufferedFrames + call.elim 0 (Call.uncounted frameSize) =
    (passed.flatMap (framesOf frameSize)).length
  inRange : (passed.flatMap (framesOf frameSize)).length < 2 ^ abi.bits
  queued : abi = .lp64 → player.currentQueuedFrames + player.fifo.fill +
    (call.elim [] (Call.unwritten frameSize)).length = (passed.flatMap (framesOf frameSize)).length
  pending : ∀ open' ∈ call, open'.WroteAll frameSize ∧
    open'.playbackTimeUs = Marked.mediaTimeUs rate (passed.flatMap (framesOf frameSize)).length

namespace Tracks

variable {abi : Abi} {frameSize rate : Nat} {call : Option Call} {passed : List (List Byte)}
variable {marks : List PlaybackMark} {player : State}

theorem reached (h : Tracks abi frameSize rate call passed marks player) :
    (player.lastMark.frameCount : Int) ≤ player.currentQueuedFrames := by
  obtain ⟨front, -, hFront⟩ := h.split
  exact hFront _ (by simp)

theorem queued_lt (h : Tracks abi frameSize rate call passed marks player) (hAbi : abi = .lp64) :
    player.currentQueuedFrames < 2 ^ 64 := by
  have hTotal := h.queued hAbi
  have hLess := h.inRange
  rw [hAbi] at hLess
  simp only [Abi.bits] at hLess
  omega

/-- Frames that are taken from the FIFO and counted. -/
theorem of_keepsMarks {next : State} {exact : Prop} {consumed : List Frame}
    (h : Tracks abi frameSize rate call passed marks player) (hKeeps : KeepsMarks player next)
    (hAccounts : Accounts exact player consumed next) (hExact : abi = .lp64 → exact) :
    Tracks abi frameSize rate call passed marks next where
  size := by rw [← h.size, State.frameSize, State.frameSize, hAccounts.channels]
  samplesPerSec := hKeeps.samplesPerSec.trans h.samplesPerSec
  split := by
    obtain ⟨front, hMarks, hFront⟩ := h.split
    rw [hKeeps.lastMark, hKeeps.queue]
    exact ⟨front, hMarks, fun mark hMark => (hFront mark hMark).trans hKeeps.queued⟩
  sorted := h.sorted
  stamped := by rw [hAccounts.buffered]; exact h.stamped
  buffered := by rw [hAccounts.buffered]; exact h.buffered
  inRange := h.inRange
  queued hAbi := by
    have hFill := congrArg List.length hAccounts.frames
    rw [List.length_append] at hFill
    rw [← h.queued hAbi, hAccounts.queued (hExact hAbi)]
    simp only [BoundedQueue.fill]
    omega
  pending := h.pending

/-- The callback comes to the latest mark. -/
theorem advanceMarks (h : Tracks abi frameSize rate call passed marks player) :
    Tracks abi frameSize rate call passed marks (player.advanceMarks abi) ∧
      (player.advanceMarks abi).lastMark = Marked.latest player.currentQueuedFrames marks := by
  have hNonneg : 0 ≤ player.currentQueuedFrames := (Int.natCast_nonneg _).trans h.reached
  have hReached := (markReached_iff hNonneg h.queued_lt).mpr h.reached
  obtain ⟨front, hMarks, hFront⟩ := h.split
  obtain ⟨taken, hQueue, hLast, hTaken, hHead⟩ :=
    dequeueMarks_spec hNonneg h.queued_lt player.currentPlaybackMarkQueue player.lastMark
  have hAdvanced : player.advanceMarks abi = { player with
      lastMark := (State.dequeueMarks abi player.currentQueuedFrames player.lastMark
        player.currentPlaybackMarkQueue).1
      currentPlaybackMarkQueue := (State.dequeueMarks abi player.currentQueuedFrames
        player.lastMark player.currentPlaybackMarkQueue).2 } := if_pos hReached
  generalize State.dequeueMarks abi player.currentQueuedFrames player.lastMark
    player.currentPlaybackMarkQueue = split at hAdvanced hQueue hLast hHead
  obtain ⟨last, rest⟩ := split
  dsimp only at hAdvanced hQueue hLast hHead
  rw [hQueue] at hMarks
  have hAll : ∀ mark ∈ front ++ player.lastMark :: taken,
      (mark.frameCount : Int) ≤ player.currentQueuedFrames := by
    intro mark hMark
    rw [List.append_cons, List.mem_append] at hMark
    exact hMark.elim (hFront mark) (hTaken mark)
  have hAhead : ∀ mark ∈ rest, player.currentQueuedFrames < (mark.frameCount : Int) := by
    -- The marks are in order, so all of them are ahead when the first is.
    have hSorted := h.sorted
    rw [hMarks] at hSorted
    have hRest : rest.Pairwise fun mark later => mark.frameCount ≤ later.frameCount :=
      hSorted.sublist (List.IsSuffix.sublist ⟨front ++ player.lastMark :: taken, by simp⟩)
    cases rest with
    | nil => simp
    | cons first others =>
        have hFirst := hHead first rfl
        rw [List.forall_mem_cons]
        refine ⟨hFirst, fun mark hMark => ?_⟩
        have hLater := List.rel_of_pairwise_cons hRest hMark
        omega
  have hLatest := latest_eq hMarks hAll hAhead
  have hEnd : (front ++ player.lastMark :: taken).dropLast ++ [last] =
      front ++ player.lastMark :: taken := by
    rw [hLast, ← List.getLast_eq_getLastD (List.cons_ne_nil _ _),
      ← List.getLast_append_of_ne_nil (l := front) (by simp) (List.cons_ne_nil _ _)]
    exact List.dropLast_append_getLast _
  have hSplit : ⟨0, 0⟩ :: marks =
      (front ++ player.lastMark :: taken).dropLast ++ last :: rest := by
    rw [List.append_cons, hEnd, hMarks]
    simp
  rw [← hEnd] at hAll
  rw [hAdvanced]
  constructor
  · exact { h with split := ⟨_, hSplit, hAll⟩ }
  · exact hLast.trans hLatest.symm

theorem measure (h : Tracks abi frameSize rate call passed marks player) (clock : Clock) :
    Tracks abi frameSize rate call passed marks (player.measure abi clock) ∧
      (player.measure abi clock).lastMark = Marked.latest player.currentQueuedFrames marks := by
  obtain ⟨hTracks, hLast⟩ := h.advanceMarks
  exact ⟨⟨hTracks.size, hTracks.samplesPerSec, hTracks.split, hTracks.sorted, hTracks.stamped,
    hTracks.buffered, hTracks.inRange, hTracks.queued, hTracks.pending⟩, hLast⟩

/-- What the start decision leaves is still in order. -/
theorem decided (h : Tracks abi frameSize rate call passed marks player) (clock : Clock) :
    Tracks abi frameSize rate call passed marks (player.decided abi clock) :=
  h.of_keepsMarks (State.keepsMarks_decided abi clock player)
    (State.accounts_decided abi clock player : Accounts True _ _ _) fun _ => trivial

/-- The callback's media time is right, unless the correction overflows. -/
theorem playbackTimeUs (h : Tracks abi frameSize rate call passed marks player)
    (hFits : Fits 64 (SECOND_MICRO *
      (player.currentQueuedFrames - player.lastMark.frameCount))) :
    player.playbackTimeUs abi * rate ≤ player.currentQueuedFrames * SECOND_MICRO ∧
      player.currentQueuedFrames * SECOND_MICRO < (player.playbackTimeUs abi + 2) * rate := by
  have hStamp := h.stamped player.lastMark (by
    obtain ⟨front, hMarks, -⟩ := h.split
    rw [hMarks]
    simp)
  have hTime := mediaTime_add player.samplesPerSec_pos player.lastMark.frameCount
    (player.currentQueuedFrames - player.lastMark.frameCount)
  rw [add_sub_cancel] at hTime
  rw [State.playbackTimeUs, State.correction_eq h.reached hFits, hStamp.1, ← h.samplesPerSec]
  exact hTime

/-- A run of the callback. -/
theorem bqPlayerCallback {clock : Clock} {run : Run}
    (h : Tracks abi frameSize rate call passed marks player)
    (hRun : Player.bqPlayerCallback abi clock player = some run) :
    Tracks abi frameSize rate call passed marks run.player := by
  rw [bqPlayerCallback_eq] at hRun
  dsimp only at hRun
  have hDecided := h.decided clock
  split_ifs at hRun with hPlaying
  · obtain ⟨played, hPlay, rfl⟩ := Option.map_eq_some_iff.mp hRun
    have hWide (hAbi : abi = .lp64) :
        ((player.decided abi clock).measure abi clock).CatchUpFillsBuffer abi := by
      rw [hAbi]
      exact fun hNarrow => nomatch hNarrow
    have hPlayed : Tracks abi frameSize rate call passed marks played.player :=
      (hDecided.measure clock).1.of_keepsMarks (State.keepsMarks_play hPlay)
        (State.accounts_play abi hPlay) hWide
    exact hPlayed
  · cases hRun
    exact hDecided.of_keepsMarks ⟨rfl, rfl, rfl, le_refl _⟩
      (State.accounts_fillerBuffer abi _ _ : Accounts True _ _ _) fun _ => trivial

theorem enter {chunk : List Byte} {playbackTimeUs : Int}
    (h : Tracks abi frameSize rate none passed marks player)
    (hStamp : playbackTimeUs = Marked.mediaTimeUs rate
      ((passed.flatMap (framesOf frameSize)).length + (framesOf frameSize chunk).length))
    (hRange : (passed.flatMap (framesOf frameSize)).length + (framesOf frameSize chunk).length <
      2 ^ abi.bits) :
    Tracks abi frameSize rate (some (Call.enter chunk playbackTimeUs)) (passed ++ [chunk]) marks
      player := by
  have hTotal : ((passed ++ [chunk]).flatMap (framesOf frameSize)).length =
      (passed.flatMap (framesOf frameSize)).length + (framesOf frameSize chunk).length := by
    rw [List.flatMap_append, List.length_append, List.flatMap_singleton]
  have hBuffered := h.buffered
  have hQueued := h.queued
  simp only [Option.elim_none, List.length_nil, Nat.cast_zero, add_zero] at hBuffered hQueued
  refine ⟨h.size, h.samplesPerSec, h.split, h.sorted, h.stamped, ?_, ?_, ?_, ?_⟩
  · rw [hTotal, hBuffered]
    rfl
  · rw [hTotal]
    exact hRange
  · intro hAbi
    rw [hTotal, Nat.cast_add, ← hQueued hAbi]
    rfl
  · rintro call ⟨⟩
    rw [hTotal]
    exact ⟨trivial, hStamp⟩

/-- A call that goes on with as much left to write and to count. -/
theorem of_call {call' : Option Call} (h : Tracks abi frameSize rate call passed marks player)
    (hCounted : call'.elim 0 (Call.uncounted frameSize) = call.elim 0 (Call.uncounted frameSize))
    (hWritten : (call'.elim [] (Call.unwritten frameSize)).length =
      (call.elim [] (Call.unwritten frameSize)).length)
    (hPending : ∀ open' ∈ call', open'.WroteAll frameSize ∧
      open'.playbackTimeUs =
        Marked.mediaTimeUs rate (passed.flatMap (framesOf frameSize)).length) :
    Tracks abi frameSize rate call' passed marks player :=
  ⟨h.size, h.samplesPerSec, h.split, h.sorted, h.stamped, by rw [hCounted]; exact h.buffered,
    h.inRange, by rw [hWritten]; exact h.queued, hPending⟩

theorem monitorPlayback (platform : Platform) (monotonicUs : Int)
    (h : Tracks platform.abi frameSize rate call passed marks player) :
    Tracks platform.abi frameSize rate call passed marks
      (player.monitorPlayback platform monotonicUs).1 :=
  h.of_keepsMarks (State.keepsMarks_monitorPlayback platform monotonicUs player)
    (State.accounts_monitorPlayback platform monotonicUs player : Accounts True _ _ _)
    fun _ => trivial

/-- A piece of a call that finds room. -/
theorem advance {platform : Platform} {call : Call} (monotonicUs : Int)
    (h : Tracks platform.abi frameSize rate (some call) passed marks player)
    (hRoom : call.phase = .write → (framesOf frameSize call.chunk).length ≤ player.fifo.free) :
    Tracks platform.abi frameSize rate (call.advance platform monotonicUs player).2 passed
      (marks ++ call.newMarks platform.abi player)
      (call.advance platform monotonicUs player).1 := by
  have hSize := h.size
  have hBuffered := h.buffered
  have hQueued := h.queued
  obtain ⟨hWrote, hStamp⟩ := h.pending call rfl
  obtain ⟨chunk, playbackTimeUs, depth, phase⟩ := call
  cases phase with
  | write =>
      have hFree := hRoom rfl
      rw [Call.newMarks, List.append_nil]
      refine ⟨h.size, h.samplesPerSec, h.split, h.sorted, h.stamped, h.buffered, h.inRange, ?_, ?_⟩
      · intro hAbi
        rw [← hQueued hAbi]
        simp only [Call.advance, Call.unwritten, Option.elim_some, hSize, BoundedQueue.fill]
        rw [BoundedQueue.write_contents_of_room hFree, List.length_append, List.length_nil]
        push_cast
        ring
      · rintro _ ⟨⟩
        refine ⟨?_, hStamp⟩
        simp only [Call.WroteAll, hSize]
        exact Nat.min_eq_right hFree
  | account written =>
      simp only [Call.uncounted, Option.elim_some] at hBuffered
      have hRange := h.inRange
      have hCount : platform.abi.size (player.currentBufferedFrames +
          (framesOf (player.frameSize platform.abi) chunk).length) =
            (passed.flatMap (framesOf frameSize)).length := by
        rw [hSize, ← Nat.cast_add, hBuffered]
        exact Abi.size_of_lt hRange
      obtain ⟨front, hMarks, hFront⟩ := h.split
      rw [Call.newMarks]
      dsimp only [Call.advance]
      rw [hCount]
      refine ⟨h.size, h.samplesPerSec, ⟨front, ?_, hFront⟩, ?_, ?_, rfl, h.inRange, hQueued, ?_⟩
      · rw [← List.cons_append, hMarks]
        simp
      · rw [← List.cons_append, List.pairwise_append]
        refine ⟨h.sorted, List.pairwise_singleton _ _, fun mark hMark later hLater => ?_⟩
        have hBefore := (h.stamped mark hMark).2
        rw [List.mem_singleton.mp hLater]
        dsimp only
        omega
      · intro mark hMark
        rw [← List.cons_append, List.mem_append, List.mem_singleton] at hMark
        rcases hMark with hOld | rfl
        · have hBefore := h.stamped mark hOld
          exact ⟨hBefore.1, hBefore.2.trans (Nat.le.intro hBuffered)⟩
        · exact ⟨hStamp, le_refl _⟩
      · rintro _ ⟨⟩
        exact ⟨hWrote, hStamp⟩
  | check written =>
      rw [Call.newMarks, List.append_nil]
      dsimp only [Call.advance]
      split_ifs with hFull
      · -- The call starts over with a chunk that has no frame.
        have hNone : (framesOf frameSize chunk).length = 0 := by
          rw [← hFull.1]
          exact hWrote.symm
        refine (h.monitorPlayback platform monotonicUs).of_call hNone hNone ?_
        rintro _ ⟨⟩
        exact ⟨trivial, hStamp⟩
      · refine h.of_call rfl rfl ?_
        rintro _ ⟨⟩
        exact ⟨trivial, hStamp⟩
  | returning monitors =>
      rw [Call.newMarks, List.append_nil]
      dsimp only [Call.advance]
      refine (h.monitorPlayback platform monotonicUs).of_call ?_ ?_ ?_
      · cases monitors <;> rfl
      · cases monitors <;> rfl
      · cases monitors with
        | zero => simp
        | succ left =>
            rintro _ ⟨⟩
            exact ⟨trivial, hStamp⟩

end Tracks

namespace Marked

variable {platform : Platform} {frameSize rate : Nat} {marked next : Marked} {event : Event}

/-- The invariant of the marked system. -/
def InStep (platform : Platform) (frameSize rate : Nat) (marked : Marked) : Prop :=
  Tracks platform.abi frameSize rate marked.system.call marked.system.passed marked.marks
    marked.system.player

theorem framesPassed_eq (h : marked.InStep platform frameSize rate) :
    marked.system.framesPassed platform.abi =
      (marked.system.passed.flatMap (framesOf frameSize)).length := by
  rw [System.framesPassed, Tracks.size h]

theorem InStep.step (h : marked.InStep platform frameSize rate)
    (hSupposed : marked.Supposed platform event) (hRange : marked.InRange platform event)
    (hStep : marked.step platform event = some next) : next.InStep platform frameSize rate := by
  obtain ⟨system, hSystem, rfl⟩ := Option.map_eq_some_iff.mp hStep
  obtain ⟨before, marks⟩ := marked
  dsimp only at hSystem ⊢
  cases System.effect_of_step hSystem with
  | @bufferFinished clock buffer rest hQueue =>
      have hMarks : before.newMarks platform (.bufferFinished clock) = [] := rfl
      rw [hMarks, List.append_nil]
      cases hRun : bqPlayerCallback platform.abi clock before.player with
      | none => exact h
      | some run => exact Tracks.bqPlayerCallback h hRun
  | @enqueuePCMFrames chunk playbackTimeUs hCall =>
      have hMarks : before.newMarks platform (.enqueuePCMFrames chunk playbackTimeUs) = [] := rfl
      rw [hMarks, List.append_nil]
      have hPassed := framesPassed_eq h
      simp only [Supposed, InRange] at hSupposed hRange
      rw [hPassed, Tracks.size h] at hSupposed hRange
      rw [Tracks.samplesPerSec h] at hSupposed
      rw [InStep, hCall] at h
      exact Tracks.enter h hSupposed hRange
  | @advanceCall monotonicUs call hCall =>
      have hMarks : before.newMarks platform (.advanceCall monotonicUs) =
          call.newMarks platform.abi before.player := by
        rw [System.newMarks, hCall]
        rfl
      have hRoom := hSupposed call hCall
      rw [Tracks.size h] at hRoom
      rw [InStep, hCall] at h
      rw [hMarks]
      exact Tracks.advance monotonicUs h hRoom
  | @control _ player hControl hAccounts =>
      have hMarks : before.newMarks platform event = [] := by
        cases event <;> first | rfl | simp [Event.isControl] at hControl
      rw [hMarks, List.append_nil]
      exact Tracks.of_keepsMarks h (System.keepsMarks_control hControl hSystem) hAccounts
        fun _ => trivial

/-- A callback that plays in step is accurate, unless the correction overflows. -/
theorem InStep.accurate (h : marked.InStep platform frameSize rate)
    (hRange : marked.InRange platform event) : marked.Accurate platform event := by
  cases event with
  | bufferFinished clock =>
      intro hPlaying
      obtain ⟨hMeasured, hLatest⟩ := (Tracks.decided h clock).measure clock
      have hFits := hRange hPlaying
      rw [← hLatest, ← State.queuedFrames_measure platform.abi clock] at hFits
      have hTime := hMeasured.playbackTimeUs hFits
      rw [← Tracks.samplesPerSec h, State.queuedFrames_measure] at hTime
      exact ⟨hLatest, hTime⟩
  | _ => trivial

end Marked

end AudioSync.Player
