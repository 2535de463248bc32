import AudioSync.Lib.Transition
import AudioSync.Local.Playback

/-! Focus changes that arrive after the media player has been released. -/
namespace AudioSync.Local

open Transition

namespace LocalPlayback

variable (sourceOf : String → Option String)

/-- The audio manager calls the listener as long as it is registered. -/
def Arrives (playback : LocalPlayback) : Event → Prop
  | .onAudioFocusChange _ => playback.listening = true
  | _ => True

instance (playback : LocalPlayback) (event : Event) : Decidable (playback.Arrives event) := by
  cases event <;> unfold Arrives <;> infer_instance

def stepArriving (playback : LocalPlayback) (event : Event) : Option LocalPlayback :=
  if playback.Arrives event then playback.step sourceOf event else none

/-- Whatever comes next does not call a method of a missing media player: only a track that is
not in the catalogue makes a handler throw. -/
def Unharmed (playback : LocalPlayback) : Prop :=
  ∀ event, playback.Arrives event → ∀ exception,
    playback.perform sourceOf event = .error exception →
      ∃ mediaId granted opens, event = .play mediaId granted opens ∧ sourceOf mediaId = none

/-- Where a listener is registered, `stop` takes it back. -/
def GivesUpFocus (playback : LocalPlayback) : Event → Prop
  | .stop abandoned =>
      playback.listening = true → playback.mAudioFocus = .focused ∧ abandoned = true
  | _ => True

/-- Where the listener is registered, there is a media player. -/
def Guarded (playback : LocalPlayback) : Prop :=
  playback.listening = true → playback.mMediaPlayer.isSome = true

/-- No listener is registered, and the media player is not released. -/
structure Keeps (before after : LocalPlayback) : Prop where
  listening : after.listening = true → before.listening = true
  player : after.mMediaPlayer.isSome = before.mMediaPlayer.isSome

section Handlers

variable {sourceOf} {playback next : LocalPlayback}

theorem Keeps.guarded (hKeeps : Keeps playback next) (hGuarded : playback.Guarded) :
    next.Guarded := by
  intro hListening
  rw [hKeeps.player]
  exact hGuarded (hKeeps.listening hListening)

theorem Keeps.trans {last : LocalPlayback} (hKeeps : Keeps playback next)
    (hLater : Keeps next last) : Keeps playback last :=
  ⟨fun hListening => hKeeps.listening (hLater.listening hListening),
    hLater.player.trans hKeeps.player⟩

theorem keeps_pauseMediaPlayer (playback : LocalPlayback) :
    Keeps playback playback.pauseMediaPlayer := by
  unfold pauseMediaPlayer
  split
  · next mp hPlayer =>
      split
      · exact ⟨fun hListening => hListening, by rw [hPlayer]; rfl⟩
      · exact ⟨fun hListening => hListening, rfl⟩
  · exact ⟨fun hListening => hListening, rfl⟩

theorem keeps_giveUpAudioFocus (playback : LocalPlayback) (abandoned : Bool) :
    Keeps playback (playback.giveUpAudioFocus abandoned) := by
  unfold giveUpAudioFocus
  split
  · exact ⟨fun hListening => absurd hListening Bool.false_ne_true, rfl⟩
  · exact ⟨fun hListening => hListening, rfl⟩

theorem keeps_pause (playback : LocalPlayback) (abandoned : Bool) :
    Keeps playback (playback.pause abandoned) := by
  have hPaused := (keeps_pauseMediaPlayer playback).trans
    (keeps_giveUpAudioFocus playback.pauseMediaPlayer abandoned)
  unfold pause
  split
  · exact ⟨hPaused.listening, hPaused.player⟩
  · exact ⟨fun hListening => hListening, rfl⟩

theorem keeps_resume (playback : LocalPlayback) : Keeps playback playback.resume := by
  unfold resume
  split
  · next mp hPlayer =>
      split
      · exact ⟨fun hListening => hListening, rfl⟩
      · split
        · exact ⟨fun hListening => hListening, by rw [hPlayer]; rfl⟩
        · exact ⟨fun hListening => hListening, by rw [hPlayer]; rfl⟩
  · exact ⟨fun hListening => hListening, rfl⟩

/-- With a media player `configMediaPlayerState` gets through, without one there is a way in
which it does not. -/
theorem configMediaPlayerState_cases (playback : LocalPlayback) :
    (∃ next, playback.configMediaPlayerState = .ok next ∧ Keeps playback next) ∨
      (playback.mAudioFocus = .noFocusCanDuck ∧ playback.mMediaPlayer = none ∧
        playback.configMediaPlayerState = .error .nullPointer) := by
  unfold configMediaPlayerState
  split
  · refine Or.inl ⟨_, rfl, ?_⟩
    split
    · exact keeps_pause playback false
    · exact ⟨fun hListening => hListening, rfl⟩
  · split
    · next hMissing => exact Or.inr ⟨hMissing.1, hMissing.2, rfl⟩
    · split
      · have hResumed := keeps_resume playback
        exact Or.inl ⟨_, rfl, ⟨hResumed.listening, hResumed.player⟩⟩
      · exact Or.inl ⟨playback, rfl, ⟨fun hListening => hListening, rfl⟩⟩

theorem configMediaPlayerState_of_isSome (hPlayer : playback.mMediaPlayer.isSome = true) :
    ∃ next, playback.configMediaPlayerState = .ok next ∧ Keeps playback next := by
  rcases configMediaPlayerState_cases playback with hOk | ⟨-, hNone, -⟩
  · exact hOk
  · rw [hNone] at hPlayer
    cases hPlayer

theorem keeps_noteFocusChange (playback : LocalPlayback) (focusChange : FocusChange) :
    Keeps playback (playback.noteFocusChange focusChange) := by
  cases focusChange <;> exact ⟨fun hListening => hListening, rfl⟩

variable (sourceOf) in
/-- A playback resumes with the media player that it has, or gets one for the track. -/
theorem resumes_or_prepares (requested : LocalPlayback) (mediaId : String) (opens : Bool)
    (resumes : Prop) [Decidable resumes] {result : Except JavaException LocalPlayback}
    (hResult : result = if resumes then requested.configMediaPlayerState
      else match sourceOf mediaId with
        | none => .error .nullPointer
        | some _ =>
            let mp := if opens then MediaPlayer.idle.prepareAsync else MediaPlayer.idle
            .ok { requested with mMediaPlayer := some mp, mState := .buffering })
    (hPlayer : resumes → requested.mMediaPlayer.isSome = true) :
    (∃ next, result = .ok next ∧ next.mMediaPlayer.isSome = true) ∨
      (sourceOf mediaId = none ∧ result = .error .nullPointer) := by
  rw [hResult]
  split
  · next hResumes =>
      obtain ⟨next, hConfig, hKeeps⟩ := configMediaPlayerState_of_isSome (hPlayer hResumes)
      exact Or.inl ⟨next, hConfig, hKeeps.player.trans (hPlayer hResumes)⟩
  · split
    · next hUnknown => exact Or.inr ⟨hUnknown, rfl⟩
    · exact Or.inl ⟨_, rfl, rfl⟩

variable (sourceOf) in
/-- After `play` there is a media player, or the track is not known. -/
theorem play_cases (playback : LocalPlayback) (mediaId : String) (granted opens : Bool) :
    (∃ next, playback.play sourceOf mediaId granted opens = .ok next ∧
      next.mMediaPlayer.isSome = true) ∨
    (sourceOf mediaId = none ∧
      playback.play sourceOf mediaId granted opens = .error .nullPointer) :=
  resumes_or_prepares sourceOf _ mediaId opens _ rfl fun hResumes => hResumes.2.2

theorem keeps_onPrepared (playback : LocalPlayback) :
    ∃ next, playback.onPrepared = .ok next ∧ Keeps playback next := by
  have hReady (mp : MediaPlayer) : ({ playback with
      mMediaPlayer := some { mp with phase := .ready } } : LocalPlayback).mMediaPlayer.isSome =
      true := rfl
  unfold onPrepared
  split
  · next mp hPlayer =>
      split
      · obtain ⟨next, hConfig, hKeeps⟩ := configMediaPlayerState_of_isSome
          (hReady mp)
        exact ⟨next, hConfig, hKeeps.listening, by rw [hKeeps.player, hPlayer]; rfl⟩
      · exact ⟨playback, rfl, ⟨fun hListening => hListening, rfl⟩⟩
  · exact ⟨playback, rfl, ⟨fun hListening => hListening, rfl⟩⟩

theorem keeps_onSeekComplete (playback : LocalPlayback) :
    Keeps playback playback.onSeekComplete := by
  unfold onSeekComplete
  split
  · next mp hPlayer =>
      split
      · exact ⟨fun hListening => hListening, rfl⟩
      · dsimp only
        split
        · exact ⟨fun hListening => hListening, by rw [hPlayer]; rfl⟩
        · exact ⟨fun hListening => hListening, by rw [hPlayer]; rfl⟩
  · exact ⟨fun hListening => hListening, rfl⟩

theorem keeps_seekTo (playback : LocalPlayback) (position : Int) :
    Keeps playback (playback.seekTo position) := by
  unfold seekTo
  split
  · exact ⟨fun hListening => hListening, rfl⟩
  · next mp hPlayer => exact ⟨fun hListening => hListening, by rw [hPlayer]; rfl⟩

theorem keeps_modifyMediaPlayer (playback : LocalPlayback) (change : MediaPlayer → MediaPlayer) :
    Keeps playback (playback.modifyMediaPlayer change) :=
  ⟨fun hListening => hListening, Option.isSome_map⟩

/-- The listener is called without harm exactly as long as there is a media player. -/
theorem unharmed_iff : playback.Unharmed sourceOf ↔ playback.Guarded := by
  constructor
  · intro hUnharmed hListening
    cases hPlayer : playback.mMediaPlayer with
    | some mp => rfl
    | none =>
        have hThrows : playback.perform sourceOf (.onAudioFocusChange .lossTransientCanDuck) =
            .error .nullPointer := by
          simp [perform, onAudioFocusChange, noteFocusChange, configMediaPlayerState, hPlayer]
        obtain ⟨mediaId, granted, opens, hPlay, -⟩ :=
          hUnharmed (.onAudioFocusChange .lossTransientCanDuck) hListening _ hThrows
        cases hPlay
  · intro hGuarded event hArrives exception hThrows
    cases event with
    | play mediaId granted opens =>
        rcases play_cases sourceOf playback mediaId granted opens with
          ⟨next, hOk, -⟩ | ⟨hUnknown, -⟩
        · cases hOk.symm.trans hThrows
        · exact ⟨mediaId, granted, opens, rfl, hUnknown⟩
    | onAudioFocusChange focusChange =>
        have hNoted := (keeps_noteFocusChange playback focusChange).player
        obtain ⟨next, hConfig, -⟩ :=
          configMediaPlayerState_of_isSome (hNoted.trans (hGuarded hArrives))
        cases hConfig.symm.trans hThrows
    | onPrepared =>
        obtain ⟨next, hOk, -⟩ := keeps_onPrepared playback
        cases hOk.symm.trans hThrows
    | pause abandoned => cases hThrows
    | stop abandoned => cases hThrows
    | seekTo position => cases hThrows
    | onSeekComplete => cases hThrows
    | moves position => cases hThrows
    | completes => cases hThrows
    | fails => cases hThrows

/-- To stop is safe exactly when the listener is taken back. -/
theorem guarded_stop_iff (playback : LocalPlayback) (abandoned : Bool) :
    (playback.stop abandoned).Guarded ↔ playback.GivesUpFocus (.stop abandoned) := by
  unfold Guarded GivesUpFocus stop giveUpAudioFocus
  dsimp only
  split
  · next hGivesUp => exact iff_of_true (fun hListening => nomatch hListening) fun _ => hGivesUp
  · next hKeeps =>
      constructor
      · intro hGuarded hListening
        cases hGuarded hListening
      · intro hGivesUp hListening
        exact absurd (hGivesUp hListening) hKeeps

theorem guarded_step_iff {event : Event} (hGuarded : playback.Guarded)
    (hStep : playback.stepArriving sourceOf event = some next) :
    next.Guarded ↔ playback.GivesUpFocus event := by
  unfold stepArriving at hStep
  split at hStep
  · next hArrives =>
      have hOk := perform_of_step sourceOf hStep
      cases event with
      | stop abandoned =>
          cases hOk
          exact guarded_stop_iff playback abandoned
      | play mediaId granted opens =>
          refine iff_of_true (fun _ => ?_) trivial
          rcases play_cases sourceOf playback mediaId granted opens with
            ⟨after, hPlay, hPlayer⟩ | ⟨-, hThrows⟩
          · cases hPlay.symm.trans hOk
            exact hPlayer
          · cases hThrows.symm.trans hOk
      | onAudioFocusChange focusChange =>
          refine iff_of_true ?_ trivial
          have hNoted := keeps_noteFocusChange playback focusChange
          obtain ⟨after, hConfig, hKeeps⟩ :=
            configMediaPlayerState_of_isSome (hNoted.player.trans (hGuarded hArrives))
          cases hConfig.symm.trans hOk
          exact (hNoted.trans hKeeps).guarded hGuarded
      | onPrepared =>
          obtain ⟨after, hPrepared, hKeeps⟩ := keeps_onPrepared playback
          cases hPrepared.symm.trans hOk
          exact iff_of_true (hKeeps.guarded hGuarded) trivial
      | pause abandoned =>
          cases hOk
          exact iff_of_true ((keeps_pause playback abandoned).guarded hGuarded) trivial
      | seekTo position =>
          cases hOk
          exact iff_of_true ((keeps_seekTo playback position).guarded hGuarded) trivial
      | onSeekComplete =>
          cases hOk
          exact iff_of_true ((keeps_onSeekComplete playback).guarded hGuarded) trivial
      | moves position =>
          cases hOk
          exact iff_of_true ((keeps_modifyMediaPlayer playback _).guarded hGuarded) trivial
      | completes =>
          cases hOk
          exact iff_of_true ((keeps_modifyMediaPlayer playback _).guarded hGuarded) trivial
      | fails =>
          cases hOk
          exact iff_of_true ((keeps_modifyMediaPlayer playback _).guarded hGuarded) trivial
  · cases hStep

end Handlers

/-- In every run no event hits a missing media player, if and only if every `stop` takes the focus
listener back. -/
theorem always_unharmed_iff (position : Int) (mediaId : Option String) (events : List Event) :
    Always (stepArriving sourceOf) (Unharmed sourceOf) (initial position mediaId) events ↔
      Meets (stepArriving sourceOf) GivesUpFocus (initial position mediaId) events := by
  apply always_iff_meets (fun _ => True)
  · exact fun _ _ _ _ _ => trivial
  · intro playback event next _ hUnharmed hStep
    rw [unharmed_iff, guarded_step_iff (unharmed_iff.mp hUnharmed) hStep]
  · trivial
  · exact unharmed_iff.mpr fun hListening => nomatch hListening

/-- The playback is stopped while it is ducked; then it is to duck again. -/
def ducksStopped : List Event :=
  [.play "a" true true, .onAudioFocusChange .lossTransientCanDuck, .stop true]

/-- The listener is still registered and calls the player that is gone. -/
theorem not_always_unharmed_ducksStopped :
    ¬ Always (stepArriving some) (Unharmed some) (initial 0 none) ducksStopped := by
  intro hAlways
  have hRuns : (run (stepArriving some) (initial 0 none) ducksStopped).isSome = true := by decide
  have hLeft : (run (stepArriving some) (initial 0 none) ducksStopped).all
      (fun playback => playback.listening && !playback.mMediaPlayer.isSome) = true := by decide
  obtain ⟨playback, hRun⟩ := Option.isSome_iff_exists.mp hRuns
  rw [hRun, Option.all_some, Bool.and_eq_true, Bool.not_eq_true'] at hLeft
  have hPlayer := unharmed_iff.mp (hAlways.of_run hRun) hLeft.1
  rw [hLeft.2] at hPlayer
  cases hPlayer

end LocalPlayback

end AudioSync.Local
