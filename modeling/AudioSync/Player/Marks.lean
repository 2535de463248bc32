import AudioSync.Player.Setup
import Mathlib.Tactic.Linarith

/-! The marks that place positions of the frame stream in media time, and what the callback
makes of them. -/
namespace AudioSync.Player

open MachineInt Transition

/-- The marks that a piece of `audioplayer_enqueuePCMFrames` enqueues. -/
def Call.newMarks (abi : Abi) (player : State) (call : Call) : List PlaybackMark :=
  match call.phase with
  | .account _ =>
      [⟨abi.size (player.currentBufferedFrames +
          (framesOf (player.frameSize abi) call.chunk).length), call.playbackTimeUs⟩]
  | _ => []

/-- The system with all marks that have been enqueued, the oldest first. -/
structure Marked where
  system : System
  marks : List PlaybackMark

/-- The marks that an event enqueues. -/
def System.newMarks (platform : Platform) (system : System) : Event → List PlaybackMark
  | .advanceCall _ => system.call.elim [] (Call.newMarks platform.abi system.player)
  | _ => []

/-- The frames of all chunks that have been passed. -/
def System.framesPassed (abi : Abi) (system : System) : Nat :=
  (system.passed.flatMap (framesOf (system.player.frameSize abi))).length

namespace Marked

def start (run : Run) : Marked := ⟨System.start run, []⟩

def step (platform : Platform) (marked : Marked) (event : Event) : Option Marked :=
  (marked.system.step platform event).map fun next =>
    ⟨next, marked.marks ++ marked.system.newMarks platform event⟩

/-- The marks are only looked at: the system makes the steps it makes without them. -/
theorem step_system (platform : Platform) (marked : Marked) (event : Event) :
    (marked.step platform event).map Marked.system = marked.system.step platform event := by
  rw [step, Option.map_map]
  exact Option.map_id'

/-- The most recently enqueued mark up to a position, or the initial zero mark. -/
def latest (queuedFrames : Int) (marks : List PlaybackMark) : PlaybackMark :=
  (marks.filter fun mark => (mark.frameCount : Int) ≤ queuedFrames).getLastD ⟨0, 0⟩

/-- The media time of a position in microseconds, rounded down. -/
def mediaTimeUs (rate frames : Nat) : Int := (frames : Int) * SECOND_MICRO / rate

end Marked

/-- The media time the callback works with. -/
def State.playbackTimeUs (abi : Abi) (player : State) : Int :=
  player.lastMark.playbackTimeUs + player.correction abi

theorem State.currentDiff_measured (abi : Abi) (clock : Clock) (player : State) :
    (player.measured abi clock).currentDiff =
      (player.measured abi clock).nowUs clock -
        ((player.measured abi clock).currentSyncSystemTimeUs +
          (player.measured abi clock).playbackTimeUs abi) := by
  unfold State.measured State.measure State.advanceMarks
  dsimp only
  split_ifs <;> rfl

theorem State.lastMark_measure {abi : Abi} {clock : Clock} {player : State}
    (hReached : markReached abi player.lastMark.frameCount player.currentQueuedFrames = true) :
    (player.measure abi clock).lastMark =
      (dequeueMarks abi player.currentQueuedFrames player.lastMark
        player.currentPlaybackMarkQueue).1 :=
  congrArg State.lastMark (if_pos hReached)

section Marks

variable {abi : Abi}

theorem markReached_iff {frameCount : Nat} {queuedFrames : Int} (hNonneg : 0 ≤ queuedFrames)
    (hLess : abi = .lp64 → queuedFrames < 2 ^ 64) :
    State.markReached abi frameCount queuedFrames = true ↔ (frameCount : Int) ≤ queuedFrames := by
  cases abi with
  | ilp32 => simp [State.markReached]
  | lp64 =>
      obtain ⟨queued, rfl⟩ := Int.eq_ofNat_of_zero_le hNonneg
      have hWidth : queued < 2 ^ 64 := by exact_mod_cast hLess rfl
      simp only [State.markReached, decide_eq_true_eq, toUnsigned_of_lt hWidth, Nat.cast_le]

/-- Dequeuing stops at the first mark that has not been reached. -/
theorem dequeueMarks_spec {queuedFrames : Int} (hNonneg : 0 ≤ queuedFrames)
    (hLess : abi = .lp64 → queuedFrames < 2 ^ 64) (queue : List PlaybackMark) :
    ∀ last, ∃ taken, queue = taken ++ (State.dequeueMarks abi queuedFrames last queue).2 ∧
      (State.dequeueMarks abi queuedFrames last queue).1 = taken.getLastD last ∧
      (∀ mark ∈ taken, (mark.frameCount : Int) ≤ queuedFrames) ∧
      ∀ mark ∈ (State.dequeueMarks abi queuedFrames last queue).2.head?,
        queuedFrames < mark.frameCount := by
  induction queue with
  | nil =>
      intro last
      exact ⟨[], rfl, rfl, by simp, by simp [State.dequeueMarks]⟩
  | cons mark marks ih =>
      intro last
      have hReached : State.markReached abi mark.frameCount queuedFrames = true ↔ _ :=
        markReached_iff hNonneg hLess
      unfold State.dequeueMarks
      split_ifs with hMark
      · obtain ⟨taken, hQueue, hLast, hTaken, hHead⟩ := ih mark
        refine ⟨mark :: taken, ?_, ?_, ?_, hHead⟩
        · rw [List.cons_append, ← hQueue]
        · rw [hLast, List.getLastD_cons]
        · rw [List.forall_mem_cons]
          exact ⟨hReached.mp hMark, hTaken⟩
      · refine ⟨[], rfl, rfl, by simp, ?_⟩
        rintro other ⟨⟩
        rw [hReached] at hMark
        omega

/-- When all marks have been reached, the last one stays. -/
theorem dequeueMarks_all {queuedFrames : Int} (hNonneg : 0 ≤ queuedFrames)
    (hLess : abi = .lp64 → queuedFrames < 2 ^ 64) (last mark : PlaybackMark)
    {queue : List PlaybackMark}
    (hReached : ∀ other ∈ queue ++ [mark], (other.frameCount : Int) ≤ queuedFrames) :
    (State.dequeueMarks abi queuedFrames last (queue ++ [mark])).1 = mark := by
  obtain ⟨taken, hQueue, hLast, -, hHead⟩ := dequeueMarks_spec hNonneg hLess (queue ++ [mark]) last
  have hRest : (State.dequeueMarks abi queuedFrames last (queue ++ [mark])).2 = [] := by
    cases hCases : (State.dequeueMarks abi queuedFrames last (queue ++ [mark])).2 with
    | nil => rfl
    | cons other others =>
        rw [hCases] at hQueue hHead
        have hAhead := hHead other rfl
        have hBehind := hReached other (by rw [hQueue]; simp)
        omega
  rw [hRest, List.append_nil] at hQueue
  rw [hLast, ← hQueue, List.getLastD_concat]

/-- The latest mark, when the marks are split where the position is. -/
theorem latest_eq {queuedFrames : Int} {marks front taken rest : List PlaybackMark}
    {last : PlaybackMark} (hMarks : ⟨0, 0⟩ :: marks = front ++ last :: (taken ++ rest))
    (hReached : ∀ mark ∈ front ++ last :: taken, (mark.frameCount : Int) ≤ queuedFrames)
    (hAhead : ∀ mark ∈ rest, queuedFrames < (mark.frameCount : Int)) :
    Marked.latest queuedFrames marks = taken.getLastD last := by
  have hLast := hReached last (by simp)
  have hKept : (⟨0, 0⟩ :: marks).filter (fun mark => (mark.frameCount : Int) ≤ queuedFrames) =
      front ++ last :: taken := by
    have hSplit : front ++ last :: (taken ++ rest) = (front ++ last :: taken) ++ rest := by simp
    rw [hMarks, hSplit, List.filter_append, List.filter_eq_self.mpr, List.filter_eq_nil_iff.mpr,
      List.append_nil]
    · intro mark hMark
      have hAfter := hAhead mark hMark
      simpa using hAfter
    · intro mark hMark
      simpa using hReached mark hMark
  have hZero : ((0 : Nat) : Int) ≤ queuedFrames := by omega
  rw [List.filter_cons_of_pos (by simpa using hZero)] at hKept
  calc Marked.latest queuedFrames marks
      = (⟨0, 0⟩ :: marks.filter fun mark => (mark.frameCount : Int) ≤ queuedFrames).getLastD
          ⟨0, 0⟩ := List.getLastD_cons.symm
    _ = taken.getLastD last := by
        rw [hKept]
        simp [List.getLast?_cons]

end Marks

section MediaTime

/-- A mark and a correction, each rounded down, are less than two microseconds short. -/
theorem mediaTime_add {rate : Nat} (hRate : 0 < rate) (frames : Nat) (ahead : Int) :
    (Marked.mediaTimeUs rate frames + SECOND_MICRO * ahead / rate) * rate ≤
        (frames + ahead) * SECOND_MICRO ∧
      (frames + ahead) * SECOND_MICRO <
        (Marked.mediaTimeUs rate frames + SECOND_MICRO * ahead / rate + 2) * rate := by
  have hPos : (0 : Int) < rate := by exact_mod_cast hRate
  have hLow := Int.ediv_mul_le ((frames : Int) * SECOND_MICRO) hPos.ne'
  have hHigh := Int.lt_ediv_add_one_mul_self ((frames : Int) * SECOND_MICRO) hPos
  have hLow' := Int.ediv_mul_le (SECOND_MICRO * ahead) hPos.ne'
  have hHigh' := Int.lt_ediv_add_one_mul_self (SECOND_MICRO * ahead) hPos
  unfold Marked.mediaTimeUs
  constructor <;> linarith

variable {abi : Abi} {player : State}

/-- The correction is rounded down, unless it overflows. -/
theorem State.correction_eq
    (hReached : (player.lastMark.frameCount : Int) ≤ player.currentQueuedFrames)
    (hFits : Fits 64
      (SECOND_MICRO * (player.currentQueuedFrames - player.lastMark.frameCount))) :
    player.correction abi =
      SECOND_MICRO * (player.currentQueuedFrames - player.lastMark.frameCount) /
        player.currentSamplesPerSec := by
  have hNonneg : 0 ≤ SECOND_MICRO *
      (player.currentQueuedFrames - player.lastMark.frameCount) :=
    mul_nonneg (by decide) (by omega)
  unfold State.correction
  dsimp only
  generalize SECOND_MICRO * (player.currentQueuedFrames - player.lastMark.frameCount) = scaled at *
  obtain ⟨product, rfl⟩ := Int.eq_ofNat_of_zero_le hNonneg
  cases abi with
  | ilp32 =>
      show (int64 product).tdiv player.currentSamplesPerSec = _
      have hSame : int64 product = product := (toSigned_eq_self (by decide)).mpr hFits
      rw [hSame, Int.tdiv_eq_ediv_of_nonneg hNonneg]
  | lp64 =>
      have hHigh := hFits.2
      have hQuotient := Nat.div_le_self product player.currentSamplesPerSec
      norm_num at hHigh
      have hSame : toUnsigned 64 (product : Int) = product := toUnsigned_of_lt (by omega)
      have hFitsQuotient : Fits 64 ((product / player.currentSamplesPerSec : Nat) : Int) := by
        generalize product / player.currentSamplesPerSec = quotient at hQuotient
        constructor
        · norm_num
        · norm_num
          omega
      show int64 (toUnsigned 64 (product : Int) / player.currentSamplesPerSec : Nat) = _
      rw [hSame]
      exact ((toSigned_eq_self (by decide)).mpr hFitsQuotient).trans (Int.natCast_div _ _)

end MediaTime

section Keeps

/-- The marks and the rate stay, and no frame is taken off the count. -/
structure KeepsMarks (player next : State) : Prop where
  lastMark : next.lastMark = player.lastMark
  queue : next.currentPlaybackMarkQueue = player.currentPlaybackMarkQueue
  samplesPerSec : next.currentSamplesPerSec = player.currentSamplesPerSec
  queued : player.currentQueuedFrames ≤ next.currentQueuedFrames

theorem KeepsMarks.trans {player middle next : State} (left : KeepsMarks player middle)
    (right : KeepsMarks middle next) : KeepsMarks player next where
  lastMark := right.lastMark.trans left.lastMark
  queue := right.queue.trans left.queue
  samplesPerSec := right.samplesPerSec.trans left.samplesPerSec
  queued := left.queued.trans right.queued

/-- Only the count of the frames may have changed. -/
theorem KeepsMarks.of_count {player next : State} (hLast : next.lastMark = player.lastMark)
    (hQueue : next.currentPlaybackMarkQueue = player.currentPlaybackMarkQueue)
    (hRate : next.currentSamplesPerSec = player.currentSamplesPerSec) {count : Int}
    (hQueued : next.currentQueuedFrames = player.currentQueuedFrames + count)
    (hCount : 0 ≤ count) : KeepsMarks player next :=
  ⟨hLast, hQueue, hRate, by omega⟩

namespace State

variable {abi : Abi} {player : State}

theorem keepsMarks_decided (abi : Abi) (clock : Clock) (player : State) :
    KeepsMarks player (player.decided abi clock) := by
  unfold decided startPlayback
  dsimp only
  split_ifs
  · obtain ⟨fifo, memory, -, hDropped⟩ := dropLate_frame abi
      (2 * player.nextBuffer.bufPtr abi) (player.nextBuffer.overdueFrames clock)
      (player.nextBuffer.decideStart clock)
    rw [hDropped]
    exact .of_count rfl rfl rfl rfl (Int.natCast_nonneg _)
  · exact ⟨rfl, rfl, rfl, le_refl _⟩
  · exact ⟨rfl, rfl, rfl, le_refl _⟩

theorem keepsMarks_playSilence (bufPtr : Nat) (drop : Int) :
    KeepsMarks player (player.playSilence abi bufPtr drop).player := by
  unfold playSilence
  dsimp only
  split_ifs
  · exact .of_count rfl rfl rfl rfl (Int.natCast_nonneg _)
  · exact ⟨rfl, rfl, rfl, le_refl _⟩
  · exact ⟨rfl, rfl, rfl, le_refl _⟩

/-- What is counted ahead of a buffer and the buffer itself are not negative together. -/
theorem surplus_add_nonneg (abi : Abi) (frameCount : Nat) (player : State) :
    0 ≤ player.surplus abi frameCount + player.globalFramesPerBuffers := by
  cases abi with
  | ilp32 => exact add_nonneg (Int.natCast_nonneg _) (Int.natCast_nonneg _)
  | lp64 =>
      simp only [surplus]
      omega

theorem keepsMarks_playFrames {bufPtr requestFrames : Nat} {drop : Option Int} {run : Run}
    (hRun : player.playFrames abi bufPtr requestFrames drop = some run) :
    KeepsMarks player run.player := by
  cases played_of_playFrames hRun with
  | starved hNone => exact ⟨rfl, rfl, rfl, le_refl _⟩
  | plain hSome hPlain => exact .of_count rfl rfl rfl rfl (Int.natCast_nonneg _)
  | squeezed hSome hDrop hFull hSqueeze =>
      obtain ⟨-, memory, -, rfl⟩ := squeeze_eq_some hSqueeze
      exact .of_count rfl rfl rfl (add_assoc _ _ _)
        (surplus_add_nonneg abi _ (player.fifoRead (2 * bufPtr) requestFrames).1)

theorem keepsMarks_play {bufPtr : Nat} {run : Run} (hRun : player.play abi bufPtr = some run) :
    KeepsMarks player run.player := by
  unfold play at hRun
  cases hJump : player.jumpFor player.currentDiff with
  | silence =>
      rw [hJump] at hRun
      cases hRun
      exact keepsMarks_playSilence bufPtr _
  | speedUp =>
      rw [hJump] at hRun
      exact keepsMarks_playFrames hRun
  | none =>
      rw [hJump] at hRun
      exact keepsMarks_playFrames hRun

theorem keepsMarks_monitorPlayback (platform : Platform) (monotonicUs : Int) (player : State) :
    KeepsMarks player (player.monitorPlayback platform monotonicUs).1 := by
  unfold monitorPlayback
  dsimp only
  split_ifs <;> exact ⟨rfl, rfl, rfl, le_refl _⟩

theorem keepsMarks_syncPlayback (platform : Platform)
    (monotonicUs systemTimeUs playbackTimeUs : Int) (player : State) :
    KeepsMarks player
      (player.syncPlayback platform monotonicUs systemTimeUs playbackTimeUs).1 := by
  have hSynced : KeepsMarks player (player.synced systemTimeUs playbackTimeUs) := by
    unfold synced
    split_ifs <;> exact ⟨rfl, rfl, rfl, le_refl _⟩
  exact hSynced.trans (keepsMarks_monitorPlayback platform monotonicUs _)

end State

end Keeps

theorem System.keepsMarks_control {platform : Platform} {system next : System} {event : Event}
    (hControl : event.isControl = true) (hStep : system.step platform event = some next) :
    KeepsMarks system.player next.player := by
  obtain ⟨-, hAct⟩ := act_of_step hStep
  cases event with
  | bufferFinished clock => simp [Event.isControl] at hControl
  | enqueuePCMFrames chunk playbackTimeUs => simp [Event.isControl] at hControl
  | advanceCall monotonicUs => simp [Event.isControl] at hControl
  | syncPlayback monotonicUs systemTimeUs playbackTimeUs =>
      simp only [act] at hAct
      split_ifs at hAct
      cases hAct
      exact State.keepsMarks_syncPlayback platform monotonicUs systemTimeUs playbackTimeUs _
  | monitorPlayback monotonicUs =>
      simp only [act] at hAct
      split_ifs at hAct
      cases hAct
      exact State.keepsMarks_monitorPlayback platform monotonicUs _
  | setSystemTimeOffset offsetUs =>
      cases hAct
      exact ⟨rfl, rfl, rfl, le_refl _⟩
  | setDeviceLatency latencyUs =>
      cases hAct
      exact ⟨rfl, rfl, rfl, le_refl _⟩

end AudioSync.Player
