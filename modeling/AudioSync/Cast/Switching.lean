import AudioSync.Lib.Transition
import AudioSync.Cast.MusicService
import AudioSync.Local.Playback

/-! `MusicService` when it switches between playbacks, with their stream positions. A
`LocalPlayback` keeps its position in a field; a `CastPlayback` asks the native session. -/
namespace AudioSync.Cast.Switching

open Transition MachineInt
open Local (LocalPlayback)

/-- The object `mPlayback`. The other fields of a `CastPlayback` are those of the device. -/
inductive Playback where
  | localPlayback (playback : LocalPlayback)
  | castPlayback (mCurrentPosition : Int)

/-- The class of a new playback. -/
inductive NewPlayback where
  | localPlayback
  | castPlayback

structure MusicService where
  device : Device
  mPlayback : Playback

/-- What the system answers during a switch: whether the focus is granted, or abandoned, and the
data source opened; the random number of a port; and the native session's playback time. -/
structure Answers where
  granted : Bool
  abandoned : Bool
  opens : Bool
  draw : Fin 10000
  currentPlaybackTimeUs : Int

/-- `AudioCore.getCurrentPresentationTime`. -/
def getCurrentPresentationTime (device : Device) (currentPlaybackTimeUs : Int) : Int :=
  if device.core.current.any Core.Session.isRunning then currentPlaybackTimeUs.tdiv 1000 else -1

namespace MusicService

variable (sourceOf : String → Option String) (service : MusicService) (answers : Answers)

def getState : PlaybackState :=
  match service.mPlayback with
  | .localPlayback playback => playback.mState
  | .castPlayback _ => service.device.mState

/-- A `CastPlayback` does not use the position it was given. -/
def getCurrentStreamPosition (currentPlaybackTimeUs : Int) : Int :=
  match service.mPlayback with
  | .localPlayback playback => playback.getCurrentStreamPosition
  | .castPlayback _ =>
      toSigned 32 (getCurrentPresentationTime service.device currentPlaybackTimeUs)

def getCurrentMediaId : Option String :=
  match service.mPlayback with
  | .localPlayback playback => playback.mCurrentMediaId
  | .castPlayback _ => service.device.mCurrentMediaId

/-- `mPlayback.stop`. -/
def stop (abandoned : Bool) : MusicService :=
  match service.mPlayback with
  | .localPlayback playback =>
      { service with mPlayback := .localPlayback (playback.stop abandoned) }
  | .castPlayback _ => { service with device := service.device.stop }

/-- `mPlayback.pause`. -/
def pause (abandoned : Bool) : MusicService :=
  match service.mPlayback with
  | .localPlayback playback =>
      { service with mPlayback := .localPlayback (playback.pause abandoned) }
  | .castPlayback _ => { service with device := service.device.pause }

/-- `mPlayback.play`, which may throw. -/
def play (mediaId : String) : Option MusicService :=
  match service.mPlayback with
  | .localPlayback playback =>
      (playback.play sourceOf mediaId answers.granted answers.opens).toOption.map fun playing =>
        { service with mPlayback := .localPlayback playing }
  | .castPlayback _ => some { service with device := service.device.play mediaId answers.draw }

/-- A new playback with its position and media id, and `mPlayback = playback`. -/
def swap (playback : NewPlayback) (pos : Int) (currentMediaId : Option String) : MusicService :=
  match playback with
  | .localPlayback =>
      { service with mPlayback := .localPlayback (LocalPlayback.initial pos currentMediaId) }
  | .castPlayback =>
      ⟨{ service.device with mState := .none, mCurrentMediaId := currentMediaId },
        .castPlayback pos⟩

/-- `item` is the current one of the queue, if it is playable. -/
def switchToPlayer (playback : NewPlayback) (resumePlaying : Bool) (item : Option String) :
    Option MusicService :=
  let oldState := service.getState
  let pos := service.getCurrentStreamPosition answers.currentPlaybackTimeUs
  let swapped := (service.stop answers.abandoned).swap playback (if pos < 0 then 0 else pos)
    service.getCurrentMediaId
  match oldState with
  | .buffering => some (swapped.pause answers.abandoned)
  | .connecting => some (swapped.pause answers.abandoned)
  | .paused => some (swapped.pause answers.abandoned)
  | .playing =>
      match resumePlaying, item with
      | true, some mediaId => swapped.play sourceOf answers mediaId
      | true, none => some (swapped.stop answers.abandoned)
      | false, _ => some (swapped.pause answers.abandoned)
  | .none => some swapped
  | .stopped => some swapped

def startRemotePlayback (item : Option String) : Option MusicService :=
  service.switchToPlayer sourceOf answers .castPlayback true item

def stopRemotePlayback : Option MusicService :=
  service.switchToPlayer sourceOf answers .localPlayback false none

/-- What can happen while nobody plays anything: requests to pause, and what goes on in the
background of the device. -/
inductive QuietEvent where
  | handlePauseRequest (abandoned : Bool)
  | background (event : Event) (isBackground : event.isCall = false)

def quietStep (library : String → Option Track) (service : MusicService) :
    QuietEvent → Option MusicService
  | .handlePauseRequest abandoned => some (service.pause abandoned)
  | .background event _ =>
      (service.device.step library event).map fun device => { service with device := device }

/-- The positions of both kinds of playback are left out. -/
def erase : Cast.MusicService where
  device := service.device
  mPlayback :=
    match service.mPlayback with
    | .localPlayback playback => .localPlayback playback.mState playback.mCurrentMediaId
    | .castPlayback _ => .castPlayback

end MusicService

/-- A service with a `LocalPlayback` that is paused, while no native session is running. -/
structure PausedService where
  service : MusicService
  playback : LocalPlayback
  isLocal : service.mPlayback = .localPlayback playback
  isPaused : playback.mState = .paused
  mainThread : service.device.loading = none
  notRunning : service.device.core.current.any Core.Session.isRunning = false

/-- Casting and back leaves the position and the media id, whatever the system answers, as long as
nobody plays anything and no native session is running in the end. -/
def KeepsPosition (paused : PausedService) : Prop :=
  ∀ sourceOf library item answers casting, paused.service.startRemotePlayback sourceOf answers
      item = some casting →
    ∀ quiet last, run (MusicService.quietStep library) casting quiet = some last →
      last.device.core.current.any Core.Session.isRunning = false →
      ∀ answers, ∃ back playback, last.stopRemotePlayback sourceOf answers = some back ∧
        back.mPlayback = .localPlayback playback ∧
        playback.getCurrentStreamPosition = paused.playback.getCurrentStreamPosition ∧
        playback.mCurrentMediaId = paused.playback.mCurrentMediaId

namespace MusicService

section Switch

variable {library : String → Option Track} {service next : MusicService} {mediaId : Option String}

/-- A `CastPlayback` that is paused. -/
structure PausesCast (service : MusicService) (mediaId : Option String) : Prop where
  isCast : ∃ mCurrentPosition, service.mPlayback = .castPlayback mCurrentPosition
  isPaused : service.device.mState = .paused
  hasMedia : service.device.mCurrentMediaId = mediaId
  mainThread : service.device.loading = none

/-- A paused `LocalPlayback` is replaced by a `CastPlayback` that is paused at once. -/
theorem pausesCast_start (sourceOf : String → Option String) (answers : Answers)
    (paused : PausedService) (item : Option String) :
    ∃ casting, paused.service.startRemotePlayback sourceOf answers item = some casting ∧
      casting.PausesCast paused.playback.mCurrentMediaId ∧
      casting.device.core = paused.service.device.core := by
  obtain ⟨service, playback, hLocal, hPaused, hLoading, -⟩ := paused
  have hState : service.getState = .paused := by
    rw [getState, hLocal]
    exact hPaused
  have hMedia : service.getCurrentMediaId = playback.mCurrentMediaId := by
    rw [getCurrentMediaId, hLocal]
  unfold startRemotePlayback switchToPlayer stop
  dsimp only
  rw [hState, hMedia, hLocal]
  exact ⟨_, rfl, ⟨⟨_, rfl⟩, rfl, rfl, hLoading⟩, rfl⟩

/-- What goes on in the background does not change the playback. -/
theorem pausesCast_background {event : Event} (hBackground : event.isCall = false)
    (hCast : service.PausesCast mediaId) {device : Device}
    (hStep : service.device.step library event = some device) :
    ({ service with device := device } : MusicService).PausesCast mediaId := by
  obtain ⟨hIsCast, hPaused, hMedia, hLoading⟩ := hCast
  cases Device.effect_of_step hStep with
  | play => cases hBackground
  | pause => cases hBackground
  | stop => cases hBackground
  | loadMedia hSome =>
      rw [hLoading] at hSome
      cases hSome
  | runTask => exact ⟨hIsCast, hPaused, hMedia, hLoading⟩
  | networkThreadReturns => exact ⟨hIsCast, hPaused, hMedia, hLoading⟩
  | @awaitedPostExecute download success =>
      cases success with
      | true => exact ⟨hIsCast, hPaused, hMedia, hLoading⟩
      | false => exact ⟨hIsCast, hPaused, hMedia, hLoading⟩
  | @earlierPostExecute i download success =>
      cases success with
      | true => exact ⟨hIsCast, hPaused, hMedia, hLoading⟩
      | false => exact ⟨hIsCast, hPaused, hMedia, hLoading⟩

theorem pausesCast_quietStep {event : QuietEvent} (hCast : service.PausesCast mediaId)
    (hStep : service.quietStep library event = some next) : next.PausesCast mediaId := by
  cases event with
  | handlePauseRequest abandoned =>
      obtain ⟨⟨mCurrentPosition, hIsCast⟩, -, hMedia, hLoading⟩ := hCast
      cases hStep
      unfold pause
      rw [hIsCast]
      exact ⟨⟨mCurrentPosition, rfl⟩, rfl, hMedia, hLoading⟩
  | background event hBackground =>
      obtain ⟨device, hDevice, rfl⟩ := Option.map_eq_some_iff.mp hStep
      exact pausesCast_background hBackground hCast hDevice

/-- Without a native session the position that comes back is 0. -/
theorem stopRemotePlayback_of_pausesCast (sourceOf : String → Option String) (answers : Answers)
    (hCast : service.PausesCast mediaId)
    (hStopped : service.device.core.current.any Core.Session.isRunning = false) :
    ∃ back, service.stopRemotePlayback sourceOf answers = some back ∧ back.mPlayback =
      .localPlayback ((LocalPlayback.initial 0 mediaId).pause answers.abandoned) := by
  obtain ⟨⟨mCurrentPosition, hIsCast⟩, hPaused, hMedia, -⟩ := hCast
  have hState : service.getState = .paused := by
    rw [getState, hIsCast]
    exact hPaused
  have hPosition : service.getCurrentStreamPosition answers.currentPlaybackTimeUs = -1 := by
    rw [getCurrentStreamPosition, hIsCast]
    dsimp only
    rw [getCurrentPresentationTime, hStopped, if_neg Bool.false_ne_true]
    rfl
  have hOwn : service.getCurrentMediaId = mediaId := by
    rw [getCurrentMediaId, hIsCast]
    exact hMedia
  unfold stopRemotePlayback switchToPlayer
  dsimp only
  rw [hState, hPosition, hOwn]
  exact ⟨_, rfl, rfl⟩

end Switch

section Erasure

variable (sourceOf : String → Option String) (service : MusicService) (answers : Answers)

theorem mCurrentMediaId_giveUpAudioFocus (playback : LocalPlayback) (abandoned : Bool) :
    (playback.giveUpAudioFocus abandoned).mCurrentMediaId = playback.mCurrentMediaId := by
  unfold LocalPlayback.giveUpAudioFocus
  split <;> rfl

theorem mCurrentMediaId_pauseMediaPlayer (playback : LocalPlayback) :
    playback.pauseMediaPlayer.mCurrentMediaId = playback.mCurrentMediaId := by
  unfold LocalPlayback.pauseMediaPlayer
  split
  · split <;> rfl
  · rfl

theorem mCurrentMediaId_pause (playback : LocalPlayback) (abandoned : Bool) :
    (playback.pause abandoned).mCurrentMediaId = playback.mCurrentMediaId := by
  unfold LocalPlayback.pause
  split
  · exact (mCurrentMediaId_giveUpAudioFocus _ abandoned).trans
      (mCurrentMediaId_pauseMediaPlayer playback)
  · rfl

theorem mCurrentMediaId_stop (playback : LocalPlayback) (abandoned : Bool) :
    (playback.stop abandoned).mCurrentMediaId = playback.mCurrentMediaId :=
  mCurrentMediaId_giveUpAudioFocus _ abandoned

theorem mState_stop (playback : LocalPlayback) (abandoned : Bool) :
    (playback.stop abandoned).mState = .stopped := by
  unfold LocalPlayback.stop LocalPlayback.giveUpAudioFocus
  dsimp only
  split <;> rfl

theorem erase_pause (abandoned : Bool) : (service.pause abandoned).erase = service.erase.pause := by
  obtain ⟨device, playback | mCurrentPosition⟩ := service
  · simp only [pause, erase, Cast.MusicService.pause, mCurrentMediaId_pause]
    rfl
  · rfl

theorem erase_stop (abandoned : Bool) : (service.stop abandoned).erase = service.erase.stop := by
  obtain ⟨device, playback | mCurrentPosition⟩ := service
  · simp only [stop, erase, Cast.MusicService.stop, mCurrentMediaId_stop, mState_stop]
  · rfl

theorem erase_getState : service.erase.getState = service.getState := by
  obtain ⟨device, playback | mCurrentPosition⟩ := service <;> rfl

theorem erase_getCurrentMediaId :
    service.erase.getCurrentMediaId = service.getCurrentMediaId := by
  obtain ⟨device, playback | mCurrentPosition⟩ := service <;> rfl

/-- Without the positions, a switch is one of the service that has none. -/
theorem erase_startRemotePlayback (item : Option String) :
    (service.startRemotePlayback sourceOf answers item).map erase =
      some (service.erase.switchToPlayer .castPlayback true
        (item.map fun mediaId => (mediaId, answers.draw))) := by
  have hSwap (stopped : MusicService) (pos : Int) (mediaId : Option String) :
      (stopped.swap .castPlayback pos mediaId).erase =
        stopped.erase.swap .castPlayback mediaId := rfl
  unfold startRemotePlayback switchToPlayer Cast.MusicService.switchToPlayer
  dsimp only
  rw [erase_getState, erase_getCurrentMediaId, ← erase_stop service answers.abandoned]
  cases service.getState with
  | playing =>
      cases item with
      | none => simp only [Option.map_some, Option.map_none, erase_stop, hSwap]
      | some mediaId => rfl
  | none => rfl
  | stopped => rfl
  | paused => simp only [Option.map_some, erase_pause, hSwap]
  | buffering => simp only [Option.map_some, erase_pause, hSwap]
  | connecting => simp only [Option.map_some, erase_pause, hSwap]

theorem erase_stopRemotePlayback :
    (service.stopRemotePlayback sourceOf answers).map erase =
      some (service.erase.switchToPlayer (.localPlayback .none .none) false none) := by
  have hSwap (stopped : MusicService) (pos : Int) (mediaId : Option String) :
      (stopped.swap .localPlayback pos mediaId).erase =
        stopped.erase.swap (.localPlayback .none .none) mediaId := rfl
  unfold stopRemotePlayback switchToPlayer Cast.MusicService.switchToPlayer
  dsimp only
  rw [erase_getState, erase_getCurrentMediaId, ← erase_stop service answers.abandoned]
  cases service.getState with
  | playing => simp only [Option.map_some, erase_pause, hSwap]
  | none => rfl
  | stopped => rfl
  | paused => simp only [Option.map_some, erase_pause, hSwap]
  | buffering => simp only [Option.map_some, erase_pause, hSwap]
  | connecting => simp only [Option.map_some, erase_pause, hSwap]

end Erasure

end MusicService

/-- Even without a single event in between, the position comes back as 0. -/
theorem position_eq_zero_of_keeps {paused : PausedService} (hKeeps : KeepsPosition paused) :
    paused.playback.getCurrentStreamPosition = 0 := by
  let answers : Answers := ⟨false, false, false, 0, 0⟩
  obtain ⟨casting, hStart, hCast, hCore⟩ :=
    MusicService.pausesCast_start some answers paused none
  have hStopped : casting.device.core.current.any Core.Session.isRunning = false := by
    rw [hCore]
    exact paused.notRunning
  obtain ⟨back, playback, hBack, hLocal, hPosition, -⟩ :=
    hKeeps some shelf none answers casting hStart [] casting rfl hStopped answers
  obtain ⟨other, hOther, hInitial⟩ :=
    MusicService.stopRemotePlayback_of_pausesCast some answers hCast hStopped
  cases hBack.symm.trans hOther
  cases hLocal.symm.trans hInitial
  rw [← hPosition]
  rfl

/-- Casting and back keeps the position if and only if it is 0. -/
theorem keepsPosition_iff (paused : PausedService) :
    KeepsPosition paused ↔ paused.playback.getCurrentStreamPosition = 0 := by
  constructor
  · exact position_eq_zero_of_keeps
  · intro hZero sourceOf library item answers casting hStart quiet last hRun hStopped later
    obtain ⟨other, hOther, hCast, -⟩ :=
      MusicService.pausesCast_start sourceOf answers paused item
    cases hStart.symm.trans hOther
    have hLast := run_keeps
      (fun _ _ _ hCast hStep => MusicService.pausesCast_quietStep hCast hStep) hCast hRun
    obtain ⟨back, hBack, hInitial⟩ :=
      MusicService.stopRemotePlayback_of_pausesCast sourceOf later hLast hStopped
    refine ⟨back, _, hBack, hInitial, ?_, ?_⟩
    · rw [hZero]
      rfl
    · rfl

/-- A piece is paused after five seconds. -/
def pausedAfterFiveSeconds : PausedService where
  service := ⟨Device.initial, .localPlayback
    { LocalPlayback.initial 0 (some "first") with
      mState := .paused
      mMediaPlayer := some ⟨.ready, 5000, 0⟩ }⟩
  playback :=
    { LocalPlayback.initial 0 (some "first") with
      mState := .paused
      mMediaPlayer := some ⟨.ready, 5000, 0⟩ }
  isLocal := rfl
  isPaused := rfl
  mainThread := rfl
  notRunning := rfl

/-- It comes back at its beginning. -/
theorem not_keepsPosition_fiveSeconds : ¬ KeepsPosition pausedAfterFiveSeconds := by
  intro hKeeps
  exact absurd (position_eq_zero_of_keeps hKeeps) (by decide)

end AudioSync.Cast.Switching
