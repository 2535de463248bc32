import AudioSync.Cast.MusicService

/-! The port under which the service is advertised against the port of the most
recent `play`. -/
namespace AudioSync.Cast

open Transition

namespace NsdHelper

/-- The flag lets a registration through only if there is none. -/
theorem registerService_eq_iff (nsd : NsdHelper) (port : Int) :
    (nsd.registerService port).registered = some port ↔
      nsd.registered = none ∨ nsd.registered = some port := by
  unfold registerService
  cases hRegistered : nsd.registered with
  | none => simp
  | some other => simp [hRegistered]

end NsdHelper

namespace Device

/-- In `STATE_PLAYING` the service is registered with the port of the most recent `play`. -/
def Advertises (device : Device) : Prop :=
  device.mState = .playing →
    ∃ port, device.nsd.registered = some port ∧ device.lastPort = some port

/-- The advertised port is right, or will be when a pending `play` has loaded its item. -/
structure InStep (library : String → Option Track) (device : Device) : Prop where
  advertises : device.Advertises
  loading : ∀ loading, device.loading = some loading → device.mState ≠ .playing ∧
    ((library loading.mediaId).isSome = true → device.nsd.registered = some loading.port)

/-- Nothing is registered, or the right port. -/
def FreeFor (device : Device) (port : Int) : Prop :=
  device.nsd.registered = none ∨ device.nsd.registered = some port

section InStep

variable {library : String → Option Track} {device next : Device}

theorem inStep_of_idle (hState : device.mState ≠ .playing) (hLoading : device.loading = none) :
    InStep library device where
  advertises := fun hPlaying => absurd hPlaying hState
  loading := by simp [hLoading]

/-- What goes on in the background touches none of the fields compared. -/
theorem inStep_frame (hInStep : InStep library device) (hState : next.mState = device.mState)
    (hLoading : next.loading = device.loading) (hNsd : next.nsd = device.nsd)
    (hPort : next.lastPort = device.lastPort) : InStep library next where
  advertises := by
    unfold Advertises
    rw [hState, hNsd, hPort]
    exact hInStep.advertises
  loading := by
    rw [hState, hLoading, hNsd]
    exact hInStep.loading

/-- `play` unregisters only where it pauses. Otherwise its own registration has to
go through. -/
theorem inStep_play {mediaId : String} {draw : Fin 10000}
    (hFree : (library mediaId).isSome = true →
      device.mState = .playing ∨ device.FreeFor (choosePort draw)) :
    InStep library (device.play mediaId draw) := by
  by_cases hState : device.mState = .playing
  · refine ⟨by simp [Advertises, play, isPlaying, hState, pause], ?_⟩
    intro loading hLoading
    cases hLoading
    refine ⟨by simp [play, isPlaying, hState, pause], fun _ => ?_⟩
    simp [play, isPlaying, hState, pause, NsdHelper.unregisterService, NsdHelper.registerService]
  · refine ⟨by simp [Advertises, play, isPlaying, hState], ?_⟩
    intro loading hLoading
    cases hLoading
    refine ⟨by simp [play, isPlaying, hState], fun hKnown => ?_⟩
    have hPlay : (device.play mediaId draw).nsd = device.nsd.registerService (choosePort draw) := by
      simp [play, isPlaying, hState]
    rw [hPlay, NsdHelper.registerService_eq_iff]
    exact (hFree hKnown).resolve_left hState

theorem inStep_loadMedia {loading : Loading} {fd : Option Int} {tempFile : Option String}
    (hInStep : InStep library device) (hLoading : device.loading = some loading)
    (hLoad : device.loadMedia library loading fd tempFile = some next) :
    InStep library next := by
  obtain ⟨hState, hRegistered⟩ := hInStep.loading loading hLoading
  unfold loadMedia at hLoad
  cases hKnown : library loading.mediaId with
  | none =>
      rw [hKnown] at hLoad
      cases hLoad
      exact inStep_of_idle hState rfl
  | some track =>
      have hPort := hRegistered (by simp [hKnown])
      rw [hKnown] at hLoad
      cases track with
      | asset file =>
          obtain ⟨core, -, rfl⟩ := Option.map_eq_some_iff.mp hLoad
          exact ⟨fun _ => ⟨loading.port, hPort, rfl⟩, by simp⟩
      | remote source =>
          cases hLoad
          exact ⟨fun _ => ⟨loading.port, hPort, rfl⟩, by simp⟩

theorem inStep_onPostExecute {download : Download} {success : Bool}
    (hInStep : InStep library device) :
    InStep library (device.onPostExecute download success) := by
  cases success with
  | false => exact hInStep
  | true => exact inStep_frame hInStep rfl rfl rfl rfl

theorem inStep_step {event : Event} (hInStep : InStep library device)
    (hFree : ∀ mediaId draw, event = .play mediaId draw → (library mediaId).isSome = true →
      device.mState = .playing ∨ device.FreeFor (choosePort draw))
    (hStep : step library device event = some next) : InStep library next := by
  cases effect_of_step hStep with
  | play hLoading => exact inStep_play (hFree _ _ rfl)
  | loadMedia hLoading hLoad => exact inStep_loadMedia hInStep hLoading hLoad
  | pause hLoading => exact inStep_of_idle (by simp [pause]) hLoading
  | stop hLoading => exact inStep_of_idle (by simp [stop]) hLoading
  | runTask hQueue hCore => exact inStep_frame hInStep rfl rfl rfl rfl
  | awaitedPostExecute hAwaited =>
      exact inStep_onPostExecute (inStep_frame hInStep rfl rfl rfl rfl)
  | earlierPostExecute hEarlier =>
      exact inStep_onPostExecute (inStep_frame hInStep rfl rfl rfl rfl)
  | networkThreadReturns => exact inStep_frame hInStep rfl rfl rfl rfl

end InStep

end Device

namespace MusicService

/-- A `play`, called by the user or by a switch that resumes, comes when nothing is
registered or its own port; or `CastPlayback` is playing and pauses first. -/
def Admits (library : String → Option Track) (service : MusicService) : Event → Prop
  | .castPlayback event => ∀ mediaId draw, event = .play mediaId draw →
      (library mediaId).isSome = true →
        service.device.mState = .playing ∨ service.device.FreeFor (choosePort draw)
  | .localPlayback _ _ => True
  | .playFromSearch => True
  | .startRemotePlayback item => service.getState = .playing →
      ∀ mediaId draw, item = some (mediaId, draw) → (library mediaId).isSome = true →
        service.device.FreeFor (choosePort draw)
  | .stopRemotePlayback => True

section InStep

variable {library : String → Option Track} {service next : MusicService}

theorem inStep_stop (hInStep : service.device.InStep library)
    (hLoading : service.device.loading = none) : service.stop.device.InStep library := by
  unfold stop
  cases service.mPlayback with
  | localPlayback mState mediaId => exact hInStep
  | castPlayback => exact Device.inStep_of_idle (by simp [Device.stop]) hLoading

theorem inStep_pause (hInStep : service.device.InStep library)
    (hLoading : service.device.loading = none) : service.pause.device.InStep library := by
  unfold pause
  cases service.mPlayback with
  | localPlayback mState mediaId => exact hInStep
  | castPlayback => exact Device.inStep_of_idle (by simp [Device.pause]) hLoading

theorem inStep_setState {state : PlaybackState} (hState : state ≠ .playing)
    (hInStep : service.device.InStep library) (hLoading : service.device.loading = none) :
    (service.setState state).device.InStep library := by
  unfold setState
  cases service.mPlayback with
  | localPlayback mState mediaId => exact hInStep
  | castPlayback => exact Device.inStep_of_idle hState hLoading

theorem inStep_swap {playback : Playback} {mediaId : Option String}
    (hInStep : service.device.InStep library) (hLoading : service.device.loading = none) :
    (service.swap playback mediaId).device.InStep library := by
  cases playback with
  | localPlayback mState _ => exact hInStep
  | castPlayback =>
      apply Device.inStep_of_idle
      · simp [swap]
      · exact hLoading

theorem inStep_play {mediaId : String} {draw : Fin 10000}
    (hInStep : service.device.InStep library)
    (hFree : (library mediaId).isSome = true → service.device.FreeFor (choosePort draw)) :
    (service.play mediaId draw).device.InStep library := by
  unfold play
  cases service.mPlayback with
  | localPlayback mState _ => exact hInStep
  | castPlayback => exact Device.inStep_play fun hKnown => .inr (hFree hKnown)

theorem inStep_switchToPlayer {playback : Playback} {resumePlaying : Bool}
    {item : Option (String × Fin 10000)} (hInStep : service.device.InStep library)
    (hLoading : service.device.loading = none)
    (hFree : service.getState = .playing → ∀ mediaId draw, item = some (mediaId, draw) →
      (library mediaId).isSome = true → service.device.FreeFor (choosePort draw)) :
    (service.switchToPlayer playback resumePlaying item).device.InStep library := by
  have hSwapped : (service.stop.swap playback service.getCurrentMediaId).device.InStep library :=
    inStep_swap (inStep_stop hInStep hLoading) (by simpa using hLoading)
  have hIdle : (service.stop.swap playback service.getCurrentMediaId).device.loading = none := by
    simpa using hLoading
  unfold switchToPlayer
  cases hState : service.getState with
  | buffering => exact inStep_pause hSwapped hIdle
  | connecting => exact inStep_pause hSwapped hIdle
  | paused => exact inStep_pause hSwapped hIdle
  | none => exact hSwapped
  | stopped => exact hSwapped
  | playing =>
      cases resumePlaying with
      | false => exact inStep_pause hSwapped hIdle
      | true =>
          cases item with
          | none => exact inStep_stop hSwapped hIdle
          | some item =>
              obtain ⟨mediaId, draw⟩ := item
              apply inStep_play hSwapped
              intro hKnown
              simpa [Device.FreeFor] using hFree hState mediaId draw rfl hKnown

theorem inStep_step {event : Event} (hInStep : service.device.InStep library)
    (hAdmits : Admits library service event) (hStep : step library service event = some next) :
    next.device.InStep library := by
  cases event with
  | castPlayback event =>
      simp only [step] at hStep
      split at hStep
      · cases hStep
      · obtain ⟨device, hDevice, rfl⟩ := Option.map_eq_some_iff.mp hStep
        exact Device.inStep_step hInStep hAdmits hDevice
  | localPlayback mState mediaId =>
      simp only [step] at hStep
      split at hStep
      · cases hStep
        exact hInStep
      · cases hStep
  | playFromSearch =>
      obtain ⟨hLoading, rfl⟩ := Device.onMainThread_eq_some hStep
      exact inStep_setState (by simp) hInStep hLoading
  | startRemotePlayback item =>
      obtain ⟨hLoading, rfl⟩ := Device.onMainThread_eq_some hStep
      exact inStep_switchToPlayer hInStep hLoading hAdmits
  | stopRemotePlayback =>
      obtain ⟨hLoading, rfl⟩ := Device.onMainThread_eq_some hStep
      exact inStep_switchToPlayer hInStep hLoading (by simp)

/-- In every run whose steps are all admitted, the advertised port is the served one. -/
theorem always_advertises {events : List Event}
    (hMeets : Meets (step library) (Admits library) initial events) :
    Always (step library) (fun service => service.device.Advertises) initial events := by
  have hInitial : initial.device.InStep library :=
    Device.inStep_of_idle (by simp [initial, Device.initial]) rfl
  have hInStep : Always (step library) (fun service => service.device.InStep library) initial events :=
    always_of_meets (fun _ _ _ => inStep_step) hInitial hMeets
  exact hInStep.imp fun _ hDevice => hDevice.advertises

/-- A skip, and a switch to local playback and back that finds the piece paused. -/
theorem always_advertises_skip_and_switches :
    Always (step shelf) (fun service => service.device.Advertises) initial
      [.startRemotePlayback none, .castPlayback (.play "first" 0),
        .castPlayback (.loadMedia (some 3) none), .castPlayback (.play "third" 2),
        .castPlayback (.loadMedia none (some "tmp1mp3")), .stopRemotePlayback,
        .startRemotePlayback none, .castPlayback (.play "second" 4),
        .castPlayback (.loadMedia (some 3) none)] := by
  apply always_advertises
  refine meets_cons_of_step rfl (by intro hPlaying; cases hPlaying) ?_
  refine meets_cons_of_step rfl (fun _ _ _ _ => .inr (.inl rfl)) ?_
  refine meets_cons_of_step rfl (by intro _ _ hPlay; cases hPlay) ?_
  refine meets_cons_of_step rfl (fun _ _ _ _ => .inl rfl) ?_
  refine meets_cons_of_step rfl (by intro _ _ hPlay; cases hPlay) ?_
  refine meets_cons_of_step rfl trivial ?_
  refine meets_cons_of_step rfl (by intro hPlaying; cases hPlaying) ?_
  refine meets_cons_of_step rfl (fun _ _ _ _ => .inr (.inl rfl)) ?_
  exact meets_cons_of_step rfl (by intro _ _ hPlay; cases hPlay) trivial

/-- `stop` keeps the registration, and the next `play` does not pause: its own port
is never registered. -/
theorem not_always_advertises_play_after_stop :
    ¬ Always (step shelf) (fun service => service.device.Advertises) initial
      [.startRemotePlayback none, .castPlayback (.play "first" 0),
        .castPlayback (.loadMedia (some 3) none), .castPlayback .stop,
        .castPlayback (.play "second" 2), .castPlayback (.loadMedia (some 4) none)] := by
  intro hAlways
  obtain ⟨port, hRegistered, hServed⟩ := hAlways.of_run rfl rfl
  have hOld : (10000 : Int) = port := Option.some.inj hRegistered
  have hNew : (10002 : Int) = port := Option.some.inj hServed
  omega

end InStep

end MusicService

end AudioSync.Cast
