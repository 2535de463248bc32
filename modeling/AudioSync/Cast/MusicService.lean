import AudioSync.Cast.Playback

/-! `MusicService`, which owns the current playback and puts another one in its
place when casting starts or ends. -/
namespace AudioSync.Cast

/-- The object `mPlayback`. The fields of a `CastPlayback` are those of the device. -/
inductive Playback where
  | localPlayback (mState : PlaybackState) (mCurrentMediaId : Option String)
  | castPlayback
  deriving DecidableEq, Repr

structure MusicService where
  device : Device
  mPlayback : Playback

/-- A call of a method of `CastPlayback`, as opposed to what goes on in the background. -/
def Event.isCall : Event → Bool
  | .play _ _ => true
  | .pause => true
  | .stop => true
  | .loadMedia _ _ => false
  | .runTask => false
  | .awaitedPostExecute _ => false
  | .earlierPostExecute _ _ => false
  | .networkThreadReturns _ => false

namespace MusicService

/-- What reaches the service. `localPlayback` is any change a `LocalPlayback` makes to
itself. `startRemotePlayback` carries the current queue item, if it is playable,
with the random number `play` draws for it. -/
inductive Event where
  | castPlayback (event : Cast.Event)
  | localPlayback (mState : PlaybackState) (mCurrentMediaId : Option String)
  | playFromSearch
  | startRemotePlayback (item : Option (String × Fin 10000))
  | stopRemotePlayback

/-- After `onCreate`. -/
def initial : MusicService := ⟨Device.initial, .localPlayback .none .none⟩

def getState (service : MusicService) : PlaybackState :=
  match service.mPlayback with
  | .localPlayback mState _ => mState
  | .castPlayback => service.device.mState

def getCurrentMediaId (service : MusicService) : Option String :=
  match service.mPlayback with
  | .localPlayback _ mCurrentMediaId => mCurrentMediaId
  | .castPlayback => service.device.mCurrentMediaId

/-- `mPlayback.setState`. -/
def setState (service : MusicService) (state : PlaybackState) : MusicService :=
  match service.mPlayback with
  | .localPlayback _ mediaId => { service with mPlayback := .localPlayback state mediaId }
  | .castPlayback => { service with device := { service.device with mState := state } }

/-- `mPlayback.stop`. -/
def stop (service : MusicService) : MusicService :=
  match service.mPlayback with
  | .localPlayback _ mediaId => { service with mPlayback := .localPlayback .stopped mediaId }
  | .castPlayback => { service with device := service.device.stop }

/-- `mPlayback.pause`. -/
def pause (service : MusicService) : MusicService :=
  match service.mPlayback with
  | .localPlayback _ mediaId => { service with mPlayback := .localPlayback .paused mediaId }
  | .castPlayback => { service with device := service.device.pause }

/-- `mPlayback.play` on a playback that is not paused. A `LocalPlayback` begins to buffer. -/
def play (service : MusicService) (mediaId : String) (draw : Fin 10000) : MusicService :=
  match service.mPlayback with
  | .localPlayback _ _ => { service with mPlayback := .localPlayback .buffering (some mediaId) }
  | .castPlayback => { service with device := service.device.play mediaId draw }

/-- `setCurrentMediaId` on a new playback, and `mPlayback = playback`. A new
`CastPlayback` is in `STATE_NONE`. -/
def swap (service : MusicService) (playback : Playback) (currentMediaId : Option String) :
    MusicService :=
  match playback with
  | .localPlayback mState _ =>
      { service with mPlayback := .localPlayback mState currentMediaId }
  | .castPlayback =>
      ⟨{ service.device with mState := .none, mCurrentMediaId := currentMediaId }, .castPlayback⟩

def switchToPlayer (service : MusicService) (playback : Playback) (resumePlaying : Bool)
    (item : Option (String × Fin 10000)) : MusicService :=
  let swapped := service.stop.swap playback service.getCurrentMediaId
  match service.getState with
  | .buffering => swapped.pause
  | .connecting => swapped.pause
  | .paused => swapped.pause
  | .playing =>
      match resumePlaying, item with
      | true, some (mediaId, draw) => swapped.play mediaId draw
      | true, none => swapped.stop
      | false, _ => swapped.pause
  | .none => swapped
  | .stopped => swapped

def step (library : String → Option Track) (service : MusicService) :
    Event → Option MusicService
  | .castPlayback event =>
      if event.isCall = true ∧ service.mPlayback ≠ .castPlayback then none
      else (service.device.step library event).map fun device => { service with device := device }
  | .localPlayback mState mCurrentMediaId =>
      match service.mPlayback with
      | .localPlayback _ _ =>
          some { service with mPlayback := .localPlayback mState mCurrentMediaId }
      | .castPlayback => none
  | .playFromSearch => service.device.onMainThread (service.setState .connecting)
  | .startRemotePlayback item =>
      service.device.onMainThread (service.switchToPlayer .castPlayback true item)
  | .stopRemotePlayback =>
      service.device.onMainThread (service.switchToPlayer (.localPlayback .none .none) false none)

section Switching

/-- Whichever playback the service stops, the registration stays. -/
@[simp]
theorem stop_nsd (service : MusicService) : service.stop.device.nsd = service.device.nsd := by
  unfold stop
  cases service.mPlayback <;> rfl

@[simp]
theorem stop_loading (service : MusicService) :
    service.stop.device.loading = service.device.loading := by
  unfold stop
  cases service.mPlayback <;> rfl

@[simp]
theorem swap_nsd (service : MusicService) (playback : Playback) (mediaId : Option String) :
    (service.swap playback mediaId).device.nsd = service.device.nsd := by
  cases playback <;> rfl

@[simp]
theorem swap_loading (service : MusicService) (playback : Playback) (mediaId : Option String) :
    (service.swap playback mediaId).device.loading = service.device.loading := by
  cases playback <;> rfl

end Switching

end MusicService

end AudioSync.Cast
