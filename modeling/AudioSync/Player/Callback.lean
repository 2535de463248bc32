import AudioSync.Player.State

/-! `_bqPlayerCallback`, split at the points where the source branches. Every
part returns the frames it took from the FIFO along with the player. -/
namespace AudioSync.Player

open MachineInt

/-- The clock as one run of the callback reads it. -/
structure Clock where
  coarseTimeUs : Int
  coarseAccuracyUs : Int
  deriving Repr

/-- What a run of the callback leaves behind: the player, the frames it read from
the FIFO and the buffers it enqueued. -/
structure Run where
  player : State
  consumed : List Frame
  enqueued : List SLBuffer

namespace State

variable (abi : Abi)

/-- The clock reading in the sender's time, ahead by the device latency. -/
def nowUs (clock : Clock) (player : State) : Int :=
  clock.coarseTimeUs + player.currentSystemTimeOffsetUs + player.currentDeviceLatency

/-- A request of this many frames is larger than `MAX_BUFFER_SIZE` bytes. -/
def tooLarge (player : State) (requestFrames : Nat) : Bool :=
  MAX_BUFFER_SIZE < abi.size (requestFrames * player.frameSize abi)

/-- The frames a request is cut down to when it is too large. -/
def maxFrames (player : State) : Nat := MAX_BUFFER_SIZE / player.frameSize abi

/-- The loop of a late start, which reads frames and throws them away. -/
def dropLate (address : Nat) (drop : Int) (player : State) : State × List Frame :=
  let requestFrames :=
    if player.tooLarge abi (abi.size drop) then player.maxFrames abi else abi.size drop
  let read := player.fifoRead address requestFrames
  if read.2.length = 0 then read
  else
    let counted := { read.1 with
      currentQueuedFrames := read.1.currentQueuedFrames + read.2.length }
    if 0 < drop - read.2.length then
      let later := dropLate address (drop - read.2.length) counted
      (later.1, read.2 ++ later.2)
    else (counted, read.2)
termination_by player.fifo.fill
decreasing_by
  rename_i hSome _
  simp only [read, fifoRead_frames, BoundedQueue.read_length] at hSome
  simp only [fifoRead_fifo, BoundedQueue.read_fill]
  omega

/-- How far the synchronised time is ahead of the clock. -/
def startDiff (clock : Clock) (player : State) : Int :=
  player.currentSyncSystemTimeUs - player.nowUs clock

/-- Playback begins once the synchronised time is less than the clock's accuracy
ahead. -/
def decideStart (clock : Clock) (player : State) : State :=
  let accuracy := if player.accuracy = 0 then clock.coarseAccuracyUs else player.accuracy
  { player with
    accuracy := accuracy
    currentIsPlaying := decide (player.startDiff clock < accuracy)
    currentStarted := player.nowUs clock }

/-- The frames that are overdue at a late start. -/
def overdueFrames (clock : Clock) (player : State) : Int :=
  (int64 (-player.startDiff clock * player.currentSamplesPerSec)).tdiv SECOND_MICRO

/-- The start of playback, where a late start skips what is overdue. -/
def startPlayback (clock : Clock) (address : Nat) (player : State) : State × List Frame :=
  if !player.currentIsPlaying && player.currentSyncSystemTimeUs ≠ 0 then
    let started := player.decideStart clock
    if player.startDiff clock < -started.accuracy then
      started.dropLate abi address (player.overdueFrames clock)
    else (started, [])
  else (player, [])

/-- `frameCount <= queuedFrames`, a comparison of a `size_t` with an `int64_t`. -/
def markReached (frameCount : Nat) (queuedFrames : Int) : Bool :=
  match abi with
  | .ilp32 => (frameCount : Int) ≤ queuedFrames
  | .lp64 => frameCount ≤ toUnsigned 64 queuedFrames

/-- Dequeue marks up to the last one that has been reached. -/
def dequeueMarks (queuedFrames : Int) :
    PlaybackMark → List PlaybackMark → PlaybackMark × List PlaybackMark
  | last, [] => (last, [])
  | last, mark :: marks =>
      if markReached abi mark.frameCount queuedFrames then dequeueMarks queuedFrames mark marks
      else (last, mark :: marks)

def advanceMarks (player : State) : State :=
  if markReached abi player.lastMark.frameCount player.currentQueuedFrames then
    let marks := dequeueMarks abi player.currentQueuedFrames player.lastMark
      player.currentPlaybackMarkQueue
    { player with lastMark := marks.1, currentPlaybackMarkQueue := marks.2 }
  else player

/-- The time since the last mark. With a 64 bit `size_t` the source computes it
without a sign. -/
def correction (player : State) : Int :=
  let scaled := SECOND_MICRO * (player.currentQueuedFrames - player.lastMark.frameCount)
  match abi with
  | .ilp32 => (int64 scaled).tdiv player.currentSamplesPerSec
  | .lp64 => int64 (toUnsigned 64 scaled / player.currentSamplesPerSec : Nat)

/-- How late playback is, in microseconds. -/
def playbackDiff (clock : Clock) (player : State) : Int :=
  player.nowUs clock -
    (player.currentSyncSystemTimeUs + (player.lastMark.playbackTimeUs + player.correction abi))

/-- The lateness in frames. -/
def playbackDrop (player : State) (diff : Int) : Int :=
  (int64 (diff * player.currentSamplesPerSec)).tdiv SECOND_MICRO

/-- What the callback does about its lateness. -/
inductive Jump where
  | none
  | speedUp
  | silence
  deriving DecidableEq, Repr

def jumpFor (player : State) (diff : Int) : Jump :=
  if player.currentEnableJumps then
    if player.accuracy.tdiv 2 ≤ diff then .speedUp
    else if diff ≤ (-player.accuracy).tdiv 2 then .silence
    else .none
  else .none

/-- The frames to request when late, and the number of these to drop. -/
def speedUpRequest (player : State) (drop : Int) : Nat × Int :=
  let requestFrames := abi.size (player.globalFramesPerBuffers + drop)
  if player.tooLarge abi requestFrames then
    (player.maxFrames abi,
      int64 (abi.size (player.maxFrames abi - player.globalFramesPerBuffers : Int)))
  else (requestFrames, drop)

/-- Copy the frame at sample index `source` to `target`, sample by sample. -/
def copyFrame (channels target source : Nat) (memory : Pointer) : Pointer :=
  (List.range channels).foldl
    (fun memory c => setSample memory (target + c) (sample memory (source + c))) memory

/-- Store the mean of two frames at sample index `target`. -/
def averageFrame (channels target source next : Nat) (memory : Pointer) : Pointer :=
  (List.range channels).foldl
    (fun memory c => setSample memory (target + c)
      ((sample memory (source + c) + sample memory (next + c)).tdiv 2)) memory

/-- The frame-dropping loop, with the number of frames it still has to visit.
`none` is a division by zero. -/
def dropFrames (base channels : Nat) (mod : Int) :
    Nat → Nat → Nat → Int → Pointer → Option Pointer
  | 0, _, _, _, memory => some memory
  | remaining + 1, frame, nFrame, drop, memory =>
      let source := base + frame * channels
      let target := base + nFrame * channels
      if 0 < drop ∧ mod = 0 then none
      else if 0 < drop ∧ (frame : Int).tmod mod = 0 then
        dropFrames base channels mod remaining (frame + 1) nFrame (drop - 1)
          (averageFrame channels target source (source + channels) memory)
      else
        dropFrames base channels mod remaining (frame + 1) (nFrame + 1) drop
          (copyFrame channels target source memory)

/-- Frames counted ahead of the buffer when more were read than are played: the
difference of a `ssize_t` and a `uint32_t`. -/
def surplus (frameCount : Nat) (player : State) : Int :=
  match abi with
  | .ilp32 => toUnsigned 32 (frameCount - player.globalFramesPerBuffers : Int)
  | .lp64 => (frameCount : Int) - player.globalFramesPerBuffers

/-- The squeezing of `frameCount` frames into one device buffer. -/
def squeeze (bufPtr frameCount : Nat) (drop : Int) (player : State) : Option State :=
  if drop = 0 then none
  else
    let mod := toSigned 32 ((frameCount : Int).tdiv drop)
    (dropFrames bufPtr player.currentNumChannels mod frameCount 0 0 drop player.tempBuffers).map
      fun memory => { player with
        tempBuffers := memory
        currentQueuedFrames := player.currentQueuedFrames + surplus abi frameCount player }

variable {abi} in
theorem squeeze_eq_some {bufPtr frameCount : Nat} {drop : Int} {player next : State}
    (hSqueeze : player.squeeze abi bufPtr frameCount drop = some next) :
    drop ≠ 0 ∧ ∃ memory,
      dropFrames bufPtr player.currentNumChannels (toSigned 32 ((frameCount : Int).tdiv drop))
        frameCount 0 0 drop player.tempBuffers = some memory ∧
      next = { player with
        tempBuffers := memory
        currentQueuedFrames := player.currentQueuedFrames + surplus abi frameCount player } := by
  unfold squeeze at hSqueeze
  split_ifs at hSqueeze with hZero
  obtain ⟨memory, hMemory, rfl⟩ := Option.map_eq_some_iff.mp hSqueeze
  exact ⟨hZero, memory, hMemory, rfl⟩

/-- Count the frames of the buffer and enqueue it. -/
def enqueueFrames (bufPtr frameCount : Nat) (player : State) : State × SLBuffer :=
  ({ player with currentQueuedFrames := player.currentQueuedFrames + frameCount },
    player.slBuffer (2 * bufPtr) (abi.size (frameCount * player.currentNumChannels * 2)))

/-- Play what the FIFO yields; `drop` is given when the callback is catching up. -/
def playFrames (bufPtr requestFrames : Nat) (drop : Option Int) (player : State) : Option Run :=
  let read := player.fifoRead (2 * bufPtr) requestFrames
  let finish (frameCount : Nat) (player : State) : Run :=
    let played := player.enqueueFrames abi bufPtr frameCount
    ⟨played.1, read.2, [played.2]⟩
  if read.2.length = 0 then some ⟨read.1, read.2, []⟩
  else
    match drop with
    | none => some (finish read.2.length read.1)
    | some drop =>
        if read.2.length = requestFrames then
          (read.1.squeeze abi bufPtr read.2.length drop).map
            (finish player.globalFramesPerBuffers)
        else some (finish read.2.length read.1)

/-- A run that has read these frames and enqueues so many frames of the buffer. -/
def enqueueRun (abi : Abi) (bufPtr frameCount : Nat) (consumed : List Frame) (player : State) :
    Run :=
  ⟨(player.enqueueFrames abi bufPtr frameCount).1, consumed,
    [(player.enqueueFrames abi bufPtr frameCount).2]⟩

section PlayFrames

variable {abi} {bufPtr requestFrames : Nat} {drop : Option Int} {player : State}

/-- The FIFO yields none. -/
theorem playFrames_of_none (hNone : min requestFrames player.fifo.fill = 0) :
    player.playFrames abi bufPtr requestFrames drop =
      some ⟨(player.fifoRead (2 * bufPtr) requestFrames).1, (player.fifo.read requestFrames).2,
        []⟩ := by
  rw [← BoundedQueue.read_length] at hNone
  exact if_pos hNone

/-- What it yields is enqueued as it is. -/
theorem playFrames_of_plain (hSome : min requestFrames player.fifo.fill ≠ 0)
    (hPlain : drop = none ∨ player.fifo.fill < requestFrames) :
    player.playFrames abi bufPtr requestFrames drop =
      some (enqueueRun abi bufPtr (min requestFrames player.fifo.fill)
        (player.fifo.read requestFrames).2 (player.fifoRead (2 * bufPtr) requestFrames).1) := by
  have hLength := player.fifo.read_length requestFrames
  rw [← hLength] at hSome ⊢
  refine (if_neg hSome).trans ?_
  cases drop with
  | none => rfl
  | some drop =>
      rcases hPlain with hNone | hShort
      · cases hNone
      · exact if_neg (by rw [fifoRead_frames]; omega)

/-- A full read of a callback that is catching up is squeezed into one buffer. -/
theorem playFrames_of_full {drop : Int} (hSome : 0 < requestFrames)
    (hFull : requestFrames ≤ player.fifo.fill) :
    player.playFrames abi bufPtr requestFrames (some drop) =
      ((player.fifoRead (2 * bufPtr) requestFrames).1.squeeze abi bufPtr requestFrames drop).map
        (enqueueRun abi bufPtr player.globalFramesPerBuffers
          (player.fifo.read requestFrames).2) := by
  have hLength : (player.fifoRead (2 * bufPtr) requestFrames).2.length = requestFrames := by
    rw [fifoRead_frames, BoundedQueue.read_length, Nat.min_eq_left hFull]
  unfold playFrames
  dsimp only
  rw [hLength, if_neg hSome.ne', if_pos rfl]
  rfl

/-- How frames are played: the FIFO yields none; what it yields is enqueued as it is; or a
full read of a callback that is catching up is squeezed into one buffer. -/
inductive Played (abi : Abi) (bufPtr requestFrames : Nat) (drop : Option Int) (player : State) :
    Run → Prop where
  | starved (hNone : (player.fifo.read requestFrames).2.length = 0) :
      Played abi bufPtr requestFrames drop player
        ⟨(player.fifoRead (2 * bufPtr) requestFrames).1, (player.fifo.read requestFrames).2, []⟩
  | plain (hSome : (player.fifo.read requestFrames).2.length ≠ 0)
      (hPlain : drop = none ∨ (player.fifo.read requestFrames).2.length ≠ requestFrames) :
      Played abi bufPtr requestFrames drop player
        (enqueueRun abi bufPtr (player.fifo.read requestFrames).2.length
          (player.fifo.read requestFrames).2 (player.fifoRead (2 * bufPtr) requestFrames).1)
  | squeezed {d : Int} {squeezed : State}
      (hSome : (player.fifo.read requestFrames).2.length ≠ 0) (hDrop : drop = some d)
      (hFull : (player.fifo.read requestFrames).2.length = requestFrames)
      (hSqueeze : (player.fifoRead (2 * bufPtr) requestFrames).1.squeeze abi bufPtr
        (player.fifo.read requestFrames).2.length d = some squeezed) :
      Played abi bufPtr requestFrames drop player
        (enqueueRun abi bufPtr player.globalFramesPerBuffers (player.fifo.read requestFrames).2
          squeezed)

theorem played_of_playFrames {run : Run}
    (hRun : player.playFrames abi bufPtr requestFrames drop = some run) :
    Played abi bufPtr requestFrames drop player run := by
  have hLength := player.fifo.read_length requestFrames
  by_cases hNone : min requestFrames player.fifo.fill = 0
  · cases (playFrames_of_none hNone).symm.trans hRun
    exact .starved (by omega)
  · by_cases hPlain : drop = none ∨ player.fifo.fill < requestFrames
    · cases (playFrames_of_plain hNone hPlain).symm.trans hRun
      rw [← hLength]
      exact .plain (by omega) (hPlain.imp id fun hShort => by omega)
    · obtain ⟨hDrop, hFull⟩ := not_or.mp hPlain
      obtain ⟨d, rfl⟩ := Option.ne_none_iff_exists'.mp hDrop
      rw [playFrames_of_full (by omega) (by omega)] at hRun
      obtain ⟨squeezed, hSqueeze, rfl⟩ := Option.map_eq_some_iff.mp hRun
      have hRead : (player.fifo.read requestFrames).2.length = requestFrames := by omega
      exact .squeezed (by omega) rfl hRead (by rw [hRead]; exact hSqueeze)

end PlayFrames

/-- A buffer of constant bytes; zero bytes are not used for this. -/
def fillerBuffer (bufPtr : Nat) (player : State) : State × SLBuffer :=
  let filled := { player with
    tempBuffers := memset player.tempBuffers (2 * bufPtr) 1 (player.maxBufferSize abi) }
  (filled, filled.slBuffer (2 * bufPtr) (player.maxBufferSize abi))

/-- Playing ahead of time: `drop` frames of silence, then frames from the FIFO. -/
def playSilence (bufPtr : Nat) (drop : Int) (player : State) : Run :=
  let filler (read : State × List Frame) : Run :=
    let filled := read.1.fillerBuffer abi bufPtr
    ⟨filled.1, read.2, [filled.2]⟩
  if drop < player.globalFramesPerBuffers then
    let ss := abi.size (abi.size drop * player.currentNumChannels)
    let read := player.fifoRead (2 * (bufPtr + ss)) (abi.size (player.globalFramesPerBuffers - drop))
    if 0 < read.2.length then
      let silenced := { read.1 with
        tempBuffers := memset read.1.tempBuffers (2 * bufPtr) 0 ss
        currentQueuedFrames := read.1.currentQueuedFrames + read.2.length }
      ⟨silenced, read.2, [silenced.slBuffer (2 * bufPtr) (player.maxBufferSize abi)]⟩
    else filler read
  else filler (player, [])

/-- The lateness of a playing callback, as it is left in the globals. -/
def measure (clock : Clock) (player : State) : State :=
  let marked := player.advanceMarks abi
  let diff := marked.playbackDiff abi clock
  { marked with currentDiff := diff, currentDrop := marked.playbackDrop diff }

/-- The callback while playing, once the lateness is known. -/
def play (bufPtr : Nat) (player : State) : Option Run :=
  match player.jumpFor player.currentDiff with
  | .silence => some (player.playSilence abi bufPtr (-player.currentDrop))
  | .speedUp =>
      let request := player.speedUpRequest abi player.currentDrop
      player.playFrames abi bufPtr request.1 (some request.2)
  | .none => player.playFrames abi bufPtr player.globalFramesPerBuffers none

/-- The sample index at which the next buffer starts. -/
def bufPtr (player : State) : Nat := abi.size (player.maxBufferSize abi * player.tempBuffersIx)

def nextBuffer (player : State) : State :=
  { player with tempBuffersIx := (player.tempBuffersIx + 1) % N_BUFFERS }

end State

/-- `_bqPlayerCallback`. `none` is a division by zero. -/
def bqPlayerCallback (abi : Abi) (clock : Clock) (player : State) : Option Run :=
  let player := player.nextBuffer
  let bufPtr := player.bufPtr abi
  let started := player.startPlayback abi clock (2 * bufPtr)
  if started.1.currentIsPlaying then
    ((started.1.measure abi clock).play abi bufPtr).map fun run =>
      { run with consumed := started.2 ++ run.consumed }
  else
    let filled := started.1.fillerBuffer abi bufPtr
    some ⟨filled.1, started.2, [filled.2]⟩

/-- The player once the callback has decided whether to play. -/
def State.decided (abi : Abi) (clock : Clock) (player : State) : State :=
  (player.nextBuffer.startPlayback abi clock (2 * player.nextBuffer.bufPtr abi)).1

/-- The frames a late start throws away. -/
def State.skipped (abi : Abi) (clock : Clock) (player : State) : List Frame :=
  (player.nextBuffer.startPlayback abi clock (2 * player.nextBuffer.bufPtr abi)).2

theorem bqPlayerCallback_eq (abi : Abi) (clock : Clock) (player : State) :
    bqPlayerCallback abi clock player =
      let bufPtr := player.nextBuffer.bufPtr abi
      let decided := player.decided abi clock
      let skipped := player.skipped abi clock
      if decided.currentIsPlaying then
        ((decided.measure abi clock).play abi bufPtr).map fun run =>
          { run with consumed := skipped ++ run.consumed }
      else some ⟨(decided.fillerBuffer abi bufPtr).1, skipped, [(decided.fillerBuffer abi bufPtr).2]⟩ :=
  rfl

end AudioSync.Player
