import AudioSync.Lib.Transition
import AudioSync.Local.Playback

namespace AudioSync.Local

open Transition

/-- What the user can ask for through `handlePauseRequest` and `handleStopRequest`. -/
inductive Request where
  | pause (abandoned : Bool)
  | stop (abandoned : Bool)
  deriving DecidableEq, Repr

def Request.event : Request → Event
  | pause abandoned => .pause abandoned
  | stop abandoned => .stop abandoned

/-- The media player has a data source, and no error. -/
def MediaPlayer.Usable (mp : MediaPlayer) : Prop := mp.phase ≠ .idle ∧ mp.phase ≠ .error

theorem MediaPlayer.not_prepared {mp : MediaPlayer} (h : ¬ mp.Usable) : mp.prepared = false := by
  unfold MediaPlayer.Usable at h
  cases hPhase : mp.phase <;> simp_all [MediaPlayer.prepared]

theorem MediaPlayer.not_isPlaying {mp : MediaPlayer} (h : ¬ mp.Usable) : mp.isPlaying = false := by
  unfold MediaPlayer.Usable at h
  cases hPhase : mp.phase <;> simp_all [MediaPlayer.isPlaying]

theorem MediaPlayer.not_usable_error {mp : MediaPlayer} (h : mp.phase = .error) : ¬ mp.Usable :=
  fun hUsable => hUsable.2 h

namespace LocalPlayback

variable (sourceOf : String → Option String)

/-- Once the request has been handled, no media player is started before the next `play`,
whatever happens. -/
def Respects (playback : LocalPlayback) (request : Request) : Prop :=
  ∀ after, playback.step sourceOf request.event = some after →
    ∀ later : List Event, (∀ event ∈ later, event.isPlay = false) →
      Always (step sourceOf) (fun reached => reached.starts = after.starts) after later

/-- Nothing is left to resume, and `pause` will pause a player that plays. -/
def Settled (playback : LocalPlayback) : Prop :=
  ∀ mp, playback.mMediaPlayer = some mp → mp.Usable →
    playback.mPlayOnFocusGain = false ∧ (mp.isPlaying → playback.mState = .playing)

/-- To stop releases the media player; to pause leaves it to resume what is left. -/
def Settles (playback : LocalPlayback) : Request → Prop
  | .pause _ => playback.Settled
  | .stop _ => True

/-- There is no player that could be started. -/
def Dead (playback : LocalPlayback) : Prop :=
  ∀ mp, playback.mMediaPlayer = some mp → ¬ mp.Usable

/-- There is no reason to start a player. -/
structure Calm (playback : LocalPlayback) : Prop where
  noResume : playback.mPlayOnFocusGain = false
  silent : ∀ mp, playback.mMediaPlayer = some mp → mp.isPlaying = false
  notPlaying : playback.mState ≠ .playing
  notBuffering : playback.mState ≠ .buffering

section Operations

variable (playback : LocalPlayback) (abandoned : Bool)

@[simp]
theorem giveUpAudioFocus_mMediaPlayer :
    (playback.giveUpAudioFocus abandoned).mMediaPlayer = playback.mMediaPlayer := by
  unfold giveUpAudioFocus
  split <;> rfl

@[simp]
theorem giveUpAudioFocus_mPlayOnFocusGain :
    (playback.giveUpAudioFocus abandoned).mPlayOnFocusGain = playback.mPlayOnFocusGain := by
  unfold giveUpAudioFocus
  split <;> rfl

@[simp]
theorem giveUpAudioFocus_starts :
    (playback.giveUpAudioFocus abandoned).starts = playback.starts := by
  unfold giveUpAudioFocus
  split <;> rfl

theorem pauseMediaPlayer_mMediaPlayer : playback.pauseMediaPlayer.mMediaPlayer =
    playback.mMediaPlayer.map fun mp => if mp.isPlaying then mp.pause else mp := by
  unfold pauseMediaPlayer
  split
  · next mp hPlayer =>
      rw [hPlayer]
      by_cases hPlays : mp.isPlaying <;> simp [hPlays, hPlayer]
  · next hNone => simp [hNone]

@[simp]
theorem pauseMediaPlayer_mPlayOnFocusGain :
    playback.pauseMediaPlayer.mPlayOnFocusGain = playback.mPlayOnFocusGain := by
  unfold pauseMediaPlayer
  split
  · split <;> rfl
  · rfl

@[simp]
theorem pauseMediaPlayer_starts : playback.pauseMediaPlayer.starts = playback.starts := by
  unfold pauseMediaPlayer
  split
  · split <;> rfl
  · rfl

@[simp]
theorem pause_mState : (playback.pause abandoned).mState = .paused := rfl

@[simp]
theorem pause_mPlayOnFocusGain :
    (playback.pause abandoned).mPlayOnFocusGain = playback.mPlayOnFocusGain := by
  unfold pause
  split_ifs <;> simp

@[simp]
theorem pause_starts : (playback.pause abandoned).starts = playback.starts := by
  unfold pause
  split_ifs <;> simp

/-- The player is paused in `STATE_PLAYING` only. -/
theorem pause_mMediaPlayer : (playback.pause abandoned).mMediaPlayer =
    playback.mMediaPlayer.map fun mp =>
      if playback.mState = .playing ∧ mp.isPlaying then mp.pause else mp := by
  unfold pause
  split_ifs with hPlaying
  · simp [pauseMediaPlayer_mMediaPlayer, hPlaying]
  · simp [hPlaying]

@[simp]
theorem stop_starts : (playback.stop abandoned).starts = playback.starts := by
  simp [stop]

@[simp]
theorem noteFocusChange_mMediaPlayer (focusChange : FocusChange) :
    (playback.noteFocusChange focusChange).mMediaPlayer = playback.mMediaPlayer := by
  cases focusChange <;> rfl

@[simp]
theorem noteFocusChange_starts (focusChange : FocusChange) :
    (playback.noteFocusChange focusChange).starts = playback.starts := by
  cases focusChange <;> rfl

end Operations

section Dead

variable {playback next : LocalPlayback}

theorem Dead.pause (hDead : playback.Dead) (abandoned : Bool) : (playback.pause abandoned).Dead := by
  intro mp hPlayer
  rw [pause_mMediaPlayer] at hPlayer
  obtain ⟨old, hOld, rfl⟩ := Option.map_eq_some_iff.mp hPlayer
  have hUnusable := hDead old hOld
  rwa [if_neg fun hPlays => by simp [MediaPlayer.not_isPlaying hUnusable] at hPlays]

theorem dead_of_player {mp : MediaPlayer} (hPlayer : playback.mMediaPlayer = some mp)
    (hUnusable : ¬ mp.Usable) : playback.Dead := by
  intro other hOther
  cases hPlayer.symm.trans hOther
  exact hUnusable

theorem dead_startMediaPlayer {mp : MediaPlayer} (hUnusable : ¬ mp.Usable) :
    (playback.startMediaPlayer mp).Dead ∧
      (playback.startMediaPlayer mp).starts = playback.starts := by
  have hPrepared := MediaPlayer.not_prepared hUnusable
  constructor
  · exact dead_of_player rfl (MediaPlayer.not_usable_error (by simp [MediaPlayer.start, hPrepared]))
  · simp [startMediaPlayer, hPrepared]

theorem MediaPlayer.not_usable_seekTo {mp : MediaPlayer} (hUnusable : ¬ mp.Usable) :
    ¬ mp.seekTo.Usable :=
  MediaPlayer.not_usable_error (by simp [MediaPlayer.seekTo, MediaPlayer.not_prepared hUnusable])

/-- To start or to seek is an error for a player that is not usable. -/
theorem Dead.resume (hDead : playback.Dead) :
    playback.resume.Dead ∧ playback.resume.starts = playback.starts := by
  unfold LocalPlayback.resume
  split
  · next mp hPlayer =>
      have hUnusable := hDead mp hPlayer
      split_ifs
      · exact ⟨hDead, rfl⟩
      · exact dead_startMediaPlayer hUnusable
      · exact ⟨dead_of_player rfl (MediaPlayer.not_usable_seekTo hUnusable), rfl⟩
  · exact ⟨hDead, rfl⟩

theorem Dead.config (hDead : playback.Dead)
    (hConfig : playback.configMediaPlayerState = .ok next) :
    next.Dead ∧ next.starts = playback.starts := by
  unfold configMediaPlayerState at hConfig
  split_ifs at hConfig with hFocus hPlaying hDuck hResume
  · cases hConfig
    exact ⟨hDead.pause false, pause_starts ..⟩
  · cases hConfig
    exact ⟨hDead, rfl⟩
  · cases hConfig
    exact hDead.resume
  · cases hConfig
    exact ⟨hDead, rfl⟩

theorem Dead.modify (hDead : playback.Dead) {change : MediaPlayer → MediaPlayer}
    (hChange : ∀ mp, ¬ mp.Usable → ¬ (change mp).Usable) :
    (playback.modifyMediaPlayer change).Dead := by
  intro mp hPlayer
  obtain ⟨old, hOld, rfl⟩ := Option.map_eq_some_iff.mp hPlayer
  exact hChange old (hDead old hOld)

theorem Dead.noteFocusChange (hDead : playback.Dead) (focusChange : FocusChange) :
    (playback.noteFocusChange focusChange).Dead := by
  unfold Dead
  rw [noteFocusChange_mMediaPlayer]
  exact hDead

theorem Dead.seekTo (hDead : playback.Dead) (position : Int) :
    (playback.seekTo position).Dead ∧ (playback.seekTo position).starts = playback.starts := by
  unfold LocalPlayback.seekTo
  split
  · exact ⟨hDead, rfl⟩
  · next mp hPlayer =>
      exact ⟨dead_of_player rfl (MediaPlayer.not_usable_seekTo (hDead mp hPlayer)), rfl⟩

/-- A player that is not usable has not been preparing. -/
theorem Dead.onPrepared (hDead : playback.Dead) (hPrepared : playback.onPrepared = .ok next) :
    next = playback := by
  unfold LocalPlayback.onPrepared at hPrepared
  split at hPrepared
  · next mp hPlayer =>
      have hIdle : mp.phase ≠ .preparing := fun hPhase =>
        hDead mp hPlayer ⟨by simp [hPhase], by simp [hPhase]⟩
      rw [if_neg hIdle] at hPrepared
      exact (Except.ok.inj hPrepared).symm
  · exact (Except.ok.inj hPrepared).symm

theorem Dead.onSeekComplete (hDead : playback.Dead) :
    playback.onSeekComplete.Dead ∧ playback.onSeekComplete.starts = playback.starts := by
  unfold LocalPlayback.onSeekComplete
  dsimp only
  split
  · next mp hPlayer =>
      have hUnusable := hDead mp hPlayer
      split_ifs
      · exact ⟨hDead, rfl⟩
      · exact dead_startMediaPlayer hUnusable
      · exact ⟨dead_of_player rfl hUnusable, rfl⟩
  · exact ⟨hDead, rfl⟩

theorem Dead.perform {event : Event} (hDead : playback.Dead) (hPlay : event.isPlay = false)
    (hPerform : playback.perform sourceOf event = .ok next) :
    next.Dead ∧ next.starts = playback.starts := by
  cases event with
  | play mediaId granted opens => cases hPlay
  | pause abandoned =>
      cases hPerform
      exact ⟨hDead.pause abandoned, pause_starts ..⟩
  | stop abandoned =>
      cases hPerform
      exact ⟨nofun, stop_starts ..⟩
  | seekTo position =>
      cases hPerform
      exact hDead.seekTo position
  | onAudioFocusChange focusChange =>
      obtain ⟨hNext, hStarts⟩ := (hDead.noteFocusChange focusChange).config hPerform
      exact ⟨hNext, hStarts.trans (noteFocusChange_starts ..)⟩
  | onPrepared =>
      rw [hDead.onPrepared hPerform]
      exact ⟨hDead, rfl⟩
  | onSeekComplete =>
      cases hPerform
      exact hDead.onSeekComplete
  | moves position =>
      cases hPerform
      exact ⟨hDead.modify fun mp hUnusable => hUnusable, rfl⟩
  | completes =>
      cases hPerform
      refine ⟨hDead.modify fun mp hUnusable => ?_, rfl⟩
      rwa [if_neg (by simp [MediaPlayer.not_isPlaying hUnusable])]
  | fails =>
      cases hPerform
      exact ⟨hDead.modify fun mp _ => MediaPlayer.not_usable_error rfl, rfl⟩

end Dead

section Calm

variable {playback next : LocalPlayback}

theorem Calm.config (hCalm : playback.Calm)
    (hConfig : playback.configMediaPlayerState = .ok next) : next = playback := by
  unfold configMediaPlayerState at hConfig
  rw [if_neg hCalm.notPlaying] at hConfig
  split_ifs at hConfig with hFocus hDuck hResume
  · exact (Except.ok.inj hConfig).symm
  · exact absurd hResume (by simp [hCalm.noResume])
  · exact (Except.ok.inj hConfig).symm

theorem Calm.modify (hCalm : playback.Calm) {change : MediaPlayer → MediaPlayer}
    (hChange : ∀ mp, mp.isPlaying = false → (change mp).isPlaying = false) :
    (playback.modifyMediaPlayer change).Calm where
  noResume := hCalm.noResume
  silent := by
    intro mp hPlayer
    obtain ⟨old, hOld, rfl⟩ := Option.map_eq_some_iff.mp hPlayer
    exact hChange old (hCalm.silent old hOld)
  notPlaying := hCalm.notPlaying
  notBuffering := hCalm.notBuffering

/-- Another player, or the same after a change, is as good if it is silent. -/
theorem Calm.replace (hCalm : playback.Calm) {mp : MediaPlayer}
    (hPlayer : next.mMediaPlayer = some mp) (hSilent : mp.isPlaying = false)
    (hResume : next.mPlayOnFocusGain = playback.mPlayOnFocusGain)
    (hState : next.mState = playback.mState) : next.Calm where
  noResume := hResume.trans hCalm.noResume
  silent := by
    intro other hOther
    cases hPlayer.symm.trans hOther
    exact hSilent
  notPlaying := by rw [hState]; exact hCalm.notPlaying
  notBuffering := by rw [hState]; exact hCalm.notBuffering

theorem Calm.pause (hCalm : playback.Calm) (abandoned : Bool) : (playback.pause abandoned).Calm where
  noResume := by rw [pause_mPlayOnFocusGain, hCalm.noResume]
  silent := by
    intro mp hPlayer
    rw [pause_mMediaPlayer] at hPlayer
    obtain ⟨old, hOld, rfl⟩ := Option.map_eq_some_iff.mp hPlayer
    rw [if_neg fun hPlays => hCalm.notPlaying hPlays.1]
    exact hCalm.silent old hOld
  notPlaying := by simp
  notBuffering := by simp

theorem MediaPlayer.isPlaying_seekTo {mp : MediaPlayer} (h : mp.isPlaying = false) :
    mp.seekTo.isPlaying = false := by
  unfold MediaPlayer.seekTo
  split_ifs
  · exact h
  · rfl

theorem Calm.noteFocusChange (hCalm : playback.Calm) (focusChange : FocusChange) :
    (playback.noteFocusChange focusChange).Calm := by
  have hLost : (playback.mPlayOnFocusGain || decide (playback.mState = .playing)) = false := by
    simp [hCalm.noResume, hCalm.notPlaying]
  cases focusChange with
  | gain => exact ⟨hCalm.noResume, hCalm.silent, hCalm.notPlaying, hCalm.notBuffering⟩
  | loss => exact ⟨hLost, hCalm.silent, hCalm.notPlaying, hCalm.notBuffering⟩
  | lossTransient => exact ⟨hLost, hCalm.silent, hCalm.notPlaying, hCalm.notBuffering⟩
  | lossTransientCanDuck =>
      exact ⟨hCalm.noResume, hCalm.silent, hCalm.notPlaying, hCalm.notBuffering⟩
  | unsupported => exact hCalm

/-- To seek is left to the player that is there, which stays silent. -/
theorem Calm.seekTo (hCalm : playback.Calm) (position : Int) :
    (playback.seekTo position).Calm ∧ (playback.seekTo position).starts = playback.starts := by
  unfold LocalPlayback.seekTo
  split
  · exact ⟨⟨hCalm.noResume, hCalm.silent, hCalm.notPlaying, hCalm.notBuffering⟩, rfl⟩
  · next mp hPlayer =>
      have hSilent := hCalm.silent mp hPlayer
      rw [if_neg (by simp [hSilent])]
      exact ⟨hCalm.replace rfl (MediaPlayer.isPlaying_seekTo hSilent) rfl rfl, rfl⟩

/-- A player that has been prepared is not started. -/
theorem Calm.onPrepared (hCalm : playback.Calm) (hPrepared : playback.onPrepared = .ok next) :
    next.Calm ∧ next.starts = playback.starts := by
  unfold LocalPlayback.onPrepared at hPrepared
  split at hPrepared
  · next mp hPlayer =>
      split_ifs at hPrepared
      · have hChanged : ({ playback with mMediaPlayer := some { mp with phase := .ready } } :
            LocalPlayback).Calm := hCalm.replace rfl rfl rfl rfl
        rw [hChanged.config hPrepared]
        exact ⟨hChanged, rfl⟩
      · cases hPrepared
        exact ⟨hCalm, rfl⟩
  · cases hPrepared
    exact ⟨hCalm, rfl⟩

/-- A seek that completes starts the player in `STATE_BUFFERING` only. -/
theorem Calm.onSeekComplete (hCalm : playback.Calm) :
    playback.onSeekComplete.Calm ∧ playback.onSeekComplete.starts = playback.starts := by
  unfold LocalPlayback.onSeekComplete
  dsimp only
  split
  · next mp hPlayer =>
      split_ifs with hSeeks hBuffering
      · exact ⟨hCalm, rfl⟩
      · exact absurd hBuffering hCalm.notBuffering
      · exact ⟨hCalm.replace rfl (hCalm.silent mp hPlayer) rfl rfl, rfl⟩
  · exact ⟨hCalm, rfl⟩

theorem Calm.perform {event : Event} (hCalm : playback.Calm) (hPlay : event.isPlay = false)
    (hPerform : playback.perform sourceOf event = .ok next) :
    (next.Dead ∨ next.Calm) ∧ next.starts = playback.starts := by
  cases event with
  | play mediaId granted opens => cases hPlay
  | pause abandoned =>
      cases hPerform
      exact ⟨Or.inr (hCalm.pause abandoned), pause_starts ..⟩
  | stop abandoned =>
      cases hPerform
      exact ⟨Or.inl nofun, stop_starts ..⟩
  | seekTo position =>
      cases hPerform
      exact (hCalm.seekTo position).imp_left Or.inr
  | onAudioFocusChange focusChange =>
      have hNoted := hCalm.noteFocusChange focusChange
      rw [hNoted.config hPerform]
      exact ⟨Or.inr hNoted, noteFocusChange_starts ..⟩
  | onPrepared =>
      exact (hCalm.onPrepared hPerform).imp_left Or.inr
  | onSeekComplete =>
      cases hPerform
      exact hCalm.onSeekComplete.imp_left Or.inr
  | moves position =>
      cases hPerform
      exact ⟨Or.inr (hCalm.modify fun mp hSilent => hSilent), rfl⟩
  | completes =>
      cases hPerform
      refine ⟨Or.inr (hCalm.modify fun mp hSilent => ?_), rfl⟩
      rwa [if_neg (by simp [hSilent])]
  | fails =>
      cases hPerform
      exact ⟨Or.inr (hCalm.modify fun mp _ => rfl), rfl⟩

end Calm

section Respected

variable {playback : LocalPlayback}

/-- Without a player, or without a reason to start it, it stays like that until `play`. -/
theorem quiet_step {next : LocalPlayback} {event : Event} (hQuiet : playback.Dead ∨ playback.Calm)
    (hPlay : event.isPlay = false) (hStep : playback.step sourceOf event = some next) :
    (next.Dead ∨ next.Calm) ∧ next.starts = playback.starts := by
  have hPerform := perform_of_step sourceOf hStep
  rcases hQuiet with hDead | hCalm
  · exact (hDead.perform sourceOf hPlay hPerform).imp_left Or.inl
  · exact hCalm.perform sourceOf hPlay hPerform

theorem always_quiet {later : List Event} (hQuiet : playback.Dead ∨ playback.Calm)
    (hLater : ∀ event ∈ later, event.isPlay = false) :
    Always (step sourceOf) (fun reached => reached.starts = playback.starts) playback later := by
  let quiet (reached : LocalPlayback) : Prop :=
    (reached.Dead ∨ reached.Calm) ∧ reached.starts = playback.starts
  have hMeets : Meets (step sourceOf) (fun _ event => event.isPlay = false) playback later :=
    meets_of_forall_mem fun event hEvent _ => hLater event hEvent
  have hAlways : Always (step sourceOf) quiet playback later := by
    refine always_of_meets (fun reached event next hReached hPlay hStep => ?_) ⟨hQuiet, rfl⟩ hMeets
    obtain ⟨hNext, hStarts⟩ := quiet_step sourceOf hReached.1 hPlay hStep
    exact ⟨hNext, hStarts.trans hReached.2⟩
  exact hAlways.imp fun _ hReached => hReached.2

theorem quiet_pause (hSettled : playback.Settled) (abandoned : Bool) :
    (playback.pause abandoned).Dead ∨ (playback.pause abandoned).Calm := by
  by_cases hDead : playback.Dead
  · exact Or.inl (hDead.pause abandoned)
  · have hUsable : ∃ mp, playback.mMediaPlayer = some mp ∧ mp.Usable := by
      unfold Dead at hDead
      push Not at hDead
      exact hDead
    obtain ⟨mp, hPlayer, hUsable⟩ := hUsable
    obtain ⟨hNoResume, hPlays⟩ := hSettled mp hPlayer hUsable
    refine Or.inr ⟨by rw [pause_mPlayOnFocusGain, hNoResume], fun other hOther => ?_, by simp, by simp⟩
    rw [pause_mMediaPlayer, hPlayer] at hOther
    cases hOther
    dsimp only
    split_ifs with hBoth
    · rfl
    · exact Bool.eq_false_iff.mpr fun hPlaying => hBoth ⟨hPlays hPlaying, hPlaying⟩

end Respected

section Restarted

/-- Some events without `play` start the media player. -/
def Restarts (playback : LocalPlayback) : Prop :=
  ∃ later : List Event, (∀ event ∈ later, event.isPlay = false) ∧
    ∃ reached, run (step sourceOf) playback later = some reached ∧
      reached.starts ≠ playback.starts

variable {sourceOf} {playback next : LocalPlayback} (event : Event)

theorem restarts_of_start (hPlay : event.isPlay = false)
    (hPerform : playback.perform sourceOf event = .ok next)
    (hStarts : next.starts ≠ playback.starts) : Restarts sourceOf playback := by
  refine ⟨[event], by simpa using hPlay, next, ?_, hStarts⟩
  simp [run, step, hPerform, Except.toOption]

theorem restarts_of_step (hPlay : event.isPlay = false)
    (hPerform : playback.perform sourceOf event = .ok next)
    (hStarts : next.starts = playback.starts) (hNext : Restarts sourceOf next) :
    Restarts sourceOf playback := by
  obtain ⟨later, hLater, reached, hRun, hMore⟩ := hNext
  refine ⟨event :: later, by simpa [hPlay] using hLater, reached, ?_, by rwa [← hStarts]⟩
  simp [run, step, hPerform, Except.toOption, hRun]

variable {mp : MediaPlayer}

/-- The end of a seek starts the player in `STATE_BUFFERING`. -/
theorem restarts_of_seeking (hPlayer : playback.mMediaPlayer = some mp)
    (hPrepared : mp.prepared = true) (hSeeks : mp.seeks ≠ 0) (hState : playback.mState = .buffering) :
    Restarts sourceOf playback := by
  refine restarts_of_start .onSeekComplete rfl rfl ?_
  have hComplete : ({ mp with seeks := mp.seeks - 1 } : MediaPlayer).prepared = true := hPrepared
  simp [onSeekComplete, hPlayer, hSeeks, hState, startMediaPlayer, hComplete]

/-- A user who seeks in a player that goes on playing restarts it. -/
theorem restarts_of_isPlaying (hPlayer : playback.mMediaPlayer = some mp)
    (hPlays : mp.isPlaying = true) : Restarts sourceOf playback := by
  have hPrepared : mp.prepared = true := by
    simp_all [MediaPlayer.isPlaying, MediaPlayer.prepared]
  have hSeek : playback.seekTo 0 =
      { playback with
        mState := .buffering
        mMediaPlayer := some { mp with seeks := mp.seeks + 1 } } := by
    simp [seekTo, hPlayer, hPlays, MediaPlayer.seekTo, hPrepared]
  refine restarts_of_step (.seekTo 0) rfl (congrArg Except.ok hSeek) rfl ?_
  exact restarts_of_seeking rfl hPrepared (Nat.succ_ne_zero _) rfl

/-- With the focus, `configMediaPlayerState` starts the player or lets it seek first. -/
theorem restarts_of_config (hPlay : event.isPlay = false)
    (hPerform : playback.perform sourceOf event = next.configMediaPlayerState)
    (hStarts : next.starts = playback.starts) (hFocus : next.mAudioFocus ≠ .noFocusNoDuck)
    (hResume : next.mPlayOnFocusGain = true) (hPlayer : next.mMediaPlayer = some mp)
    (hReady : mp.phase = .ready) : Restarts sourceOf playback := by
  have hPrepared : mp.prepared = true := by simp [MediaPlayer.prepared, hReady]
  have hSilent : mp.isPlaying = false := by simp [MediaPlayer.isPlaying, hReady]
  have hConfig : next.configMediaPlayerState = .ok { next.resume with mPlayOnFocusGain := false } := by
    unfold configMediaPlayerState
    rw [if_neg hFocus, if_neg (by simp [hPlayer]), if_pos hResume]
  rw [hConfig] at hPerform
  by_cases hPosition : next.mCurrentPosition = mp.position
  · refine restarts_of_start event hPlay hPerform ?_
    simp [resume, hPlayer, hSilent, hPosition, startMediaPlayer, hPrepared, hStarts]
  · have hResumed : next.resume =
        { next with
          mMediaPlayer := some { mp with seeks := mp.seeks + 1 }
          mState := .buffering } := by
      simp [resume, hPlayer, hSilent, hPosition, MediaPlayer.seekTo, hPrepared]
    rw [hResumed] at hPerform
    refine restarts_of_step event hPlay hPerform hStarts ?_
    exact restarts_of_seeking rfl hPrepared (Nat.succ_ne_zero _) rfl

theorem restarts_of_ready (hResume : playback.mPlayOnFocusGain = true)
    (hPlayer : playback.mMediaPlayer = some mp) (hReady : mp.phase = .ready) :
    Restarts sourceOf playback := by
  have hPerform : playback.perform sourceOf (.onAudioFocusChange .gain) =
      (playback.noteFocusChange .gain).configMediaPlayerState := rfl
  exact restarts_of_config (.onAudioFocusChange .gain) rfl hPerform rfl nofun hResume hPlayer hReady

/-- A player that is being prepared is started then, or when the focus is gained. -/
theorem restarts_of_preparing (hResume : playback.mPlayOnFocusGain = true)
    (hPlayer : playback.mMediaPlayer = some mp) (hPreparing : mp.phase = .preparing)
    (hState : playback.mState ≠ .playing) : Restarts sourceOf playback := by
  have hPrepared : playback.perform sourceOf .onPrepared =
      ({ playback with mMediaPlayer := some { mp with phase := .ready } } :
        LocalPlayback).configMediaPlayerState := by
    simp [perform, onPrepared, hPlayer, hPreparing]
  by_cases hFocus : playback.mAudioFocus = .noFocusNoDuck
  · have hConfig : ({ playback with mMediaPlayer := some { mp with phase := .ready } } :
        LocalPlayback).configMediaPlayerState =
        .ok { playback with mMediaPlayer := some { mp with phase := .ready } } := by
      simp [configMediaPlayerState, hFocus, hState]
    refine restarts_of_step .onPrepared rfl (hPrepared.trans hConfig) rfl ?_
    exact restarts_of_ready hResume rfl rfl
  · exact restarts_of_config .onPrepared rfl hPrepared rfl hFocus hResume rfl rfl

theorem restarts_pause (hSettled : ¬ playback.Settled) (abandoned : Bool) :
    Restarts sourceOf (playback.pause abandoned) := by
  unfold Settled at hSettled
  push Not at hSettled
  obtain ⟨mp, hPlayer, hUsable, hLeft⟩ := hSettled
  have hAfter := pause_mMediaPlayer playback abandoned
  rw [hPlayer, Option.map_some] at hAfter
  cases hResume : playback.mPlayOnFocusGain with
  | false =>
      obtain ⟨hPlays, hState⟩ := hLeft hResume
      rw [if_neg fun hBoth => hState hBoth.1] at hAfter
      exact restarts_of_isPlaying hAfter hPlays
  | true =>
      have hKeeps : (playback.pause abandoned).mPlayOnFocusGain = true := by
        rw [pause_mPlayOnFocusGain, hResume]
      split_ifs at hAfter with hBoth
      · exact restarts_of_ready hKeeps hAfter rfl
      · cases hPhase : mp.phase with
        | idle => exact absurd hPhase hUsable.1
        | error => exact absurd hPhase hUsable.2
        | preparing => exact restarts_of_preparing hKeeps hAfter hPhase (by simp)
        | ready => exact restarts_of_ready hKeeps hAfter hPhase
        | started =>
            exact restarts_of_isPlaying hAfter (by simp [MediaPlayer.isPlaying, hPhase])

end Restarted

section UserPause

theorem not_respects_of_restarts {playback after : LocalPlayback} {request : Request}
    (hStep : playback.step sourceOf request.event = some after)
    (hRestarts : Restarts sourceOf after) : ¬ playback.Respects sourceOf request := by
  intro hRespects
  obtain ⟨later, hLater, reached, hRun, hMore⟩ := hRestarts
  exact hMore ((hRespects after hStep later hLater).of_run hRun)

theorem respects_iff (playback : LocalPlayback) (request : Request) :
    playback.Respects sourceOf request ↔ playback.Settles request := by
  cases request with
  | pause abandoned =>
      constructor
      · intro hRespects
        by_contra hSettled
        exact not_respects_of_restarts sourceOf rfl (restarts_pause hSettled abandoned) hRespects
      · intro hSettled after hStep later hLater
        cases hStep
        exact always_quiet sourceOf (quiet_pause hSettled abandoned) hLater
  | stop abandoned =>
      refine iff_of_true (fun after hStep later hLater => ?_) trivial
      cases hStep
      exact always_quiet sourceOf (Or.inl nofun) hLater

/-- After any history, a request is respected exactly when it is for a stop, or when
nothing is left to resume and the player does not play outside of `STATE_PLAYING`. -/
theorem respected_iff_settles (position : Int) (mediaId : Option String) (history : List Event)
    (request : Request) :
    (∀ playback, run (step sourceOf) (initial position mediaId) history = some playback →
        playback.Respects sourceOf request) ↔
      ∀ playback, run (step sourceOf) (initial position mediaId) history = some playback →
        playback.Settles request := by
  constructor
  · intro hRespected playback hRun
    exact (respects_iff sourceOf playback request).mp (hRespected playback hRun)
  · intro hSettles playback hRun
    exact (respects_iff sourceOf playback request).mpr (hSettles playback hRun)

/-- A pause while the media player is being prepared: it is started when it is ready. -/
theorem not_respected_preparing :
    ¬ ∀ playback, run (step some) (initial 0 none) [.play "song" true true] = some playback →
      playback.Respects some (.pause true) := by
  intro hRespected
  refine not_respects_of_restarts some rfl ?_ (hRespected _ rfl)
  exact ⟨[.onPrepared], by decide, _, rfl, by decide⟩

end UserPause

end LocalPlayback

end AudioSync.Local
