import AudioSync.Cast.Playback

/-! `LocalPlayback`, and the `MediaPlayer` it drives. -/
namespace AudioSync.Local

open Cast (PlaybackState)

/-- The states of a `MediaPlayer`. One that is prepared, paused or at its end is `ready`. -/
inductive Phase where
  | idle
  | preparing
  | ready
  | started
  | error
  deriving DecidableEq, Repr

structure MediaPlayer where
  phase : Phase
  position : Int
  /-- Seeks whose completion has not been reported. -/
  seeks : Nat
  deriving DecidableEq, Repr

namespace MediaPlayer

/-- A new player, and one that has been reset. -/
def idle : MediaPlayer := ⟨.idle, 0, 0⟩

/-- `start` and `seekTo` are allowed. -/
def prepared (mp : MediaPlayer) : Bool := mp.phase = .ready || mp.phase = .started

def isPlaying (mp : MediaPlayer) : Bool := mp.phase = .started

/-- In a state that does not allow it, the call is an error. -/
def start (mp : MediaPlayer) : MediaPlayer :=
  if mp.prepared then { mp with phase := .started } else { mp with phase := .error }

def seekTo (mp : MediaPlayer) : MediaPlayer :=
  if mp.prepared then { mp with seeks := mp.seeks + 1 } else { mp with phase := .error }

def pause (mp : MediaPlayer) : MediaPlayer := { mp with phase := .ready }

def prepareAsync (mp : MediaPlayer) : MediaPlayer := { mp with phase := .preparing }

end MediaPlayer

inductive AudioFocus where
  | noFocusNoDuck
  | noFocusCanDuck
  | focused
  deriving DecidableEq, Repr

/-- `AUDIOFOCUS_…`, with one for all that `onAudioFocusChange` does not know. -/
inductive FocusChange where
  | gain
  | loss
  | lossTransient
  | lossTransientCanDuck
  | unsupported
  deriving DecidableEq, Repr

structure LocalPlayback where
  mState : PlaybackState
  mPlayOnFocusGain : Bool
  mCurrentPosition : Int
  mCurrentMediaId : Option String
  mAudioFocus : AudioFocus
  mMediaPlayer : Option MediaPlayer
  /-- The focus listener is registered with the audio manager. -/
  listening : Bool
  /-- How often a media player has been started. -/
  starts : Nat
  deriving DecidableEq, Repr

/-- A call, or a callback with what the system answers. A call of `play` carries whether
a request for the focus is granted and whether the data source can be opened, `pause`
and `stop` whether abandoning it is. The last three are the media player's own. -/
inductive Event where
  | play (mediaId : String) (granted opens : Bool)
  | pause (abandoned : Bool)
  | stop (abandoned : Bool)
  | seekTo (position : Int)
  | onAudioFocusChange (focusChange : FocusChange)
  | onPrepared
  | onSeekComplete
  | moves (position : Int)
  | completes
  | fails
  deriving DecidableEq, Repr

def Event.isPlay : Event → Bool
  | .play _ _ _ => true
  | _ => false

namespace LocalPlayback

/-- A new object, after `setCurrentStreamPosition` and `setCurrentMediaId`. -/
def initial (position : Int) (mediaId : Option String) : LocalPlayback where
  mState := .none
  mPlayOnFocusGain := false
  mCurrentPosition := position
  mCurrentMediaId := mediaId
  mAudioFocus := .noFocusNoDuck
  mMediaPlayer := none
  listening := false
  starts := 0

def isPlaying (playback : LocalPlayback) : Bool :=
  playback.mPlayOnFocusGain || playback.mMediaPlayer.any MediaPlayer.isPlaying

def getCurrentStreamPosition (playback : LocalPlayback) : Int :=
  playback.mMediaPlayer.elim playback.mCurrentPosition MediaPlayer.position

def tryToGetAudioFocus (playback : LocalPlayback) (granted : Bool) : LocalPlayback :=
  if playback.mAudioFocus ≠ .focused ∧ granted then
    { playback with mAudioFocus := .focused, listening := true }
  else playback

def giveUpAudioFocus (playback : LocalPlayback) (abandoned : Bool) : LocalPlayback :=
  if playback.mAudioFocus = .focused ∧ abandoned then
    { playback with mAudioFocus := .noFocusNoDuck, listening := false }
  else playback

/-- `mMediaPlayer.start()` and the new state. -/
def startMediaPlayer (playback : LocalPlayback) (mp : MediaPlayer) : LocalPlayback :=
  { playback with
    mMediaPlayer := some mp.start
    mState := .playing
    starts := if mp.prepared then playback.starts + 1 else playback.starts }

def stop (playback : LocalPlayback) (abandoned : Bool) : LocalPlayback :=
  let position := playback.getCurrentStreamPosition
  { ({ playback with mState := .stopped, mCurrentPosition := position }.giveUpAudioFocus
      abandoned) with mMediaPlayer := none }

/-- `mMediaPlayer.pause()`, if there is one that plays. -/
def pauseMediaPlayer (playback : LocalPlayback) : LocalPlayback :=
  match playback.mMediaPlayer with
  | some mp =>
      if mp.isPlaying then
        { playback with mMediaPlayer := some mp.pause, mCurrentPosition := mp.position }
      else playback
  | none => playback

def pause (playback : LocalPlayback) (abandoned : Bool) : LocalPlayback :=
  let playback :=
    if playback.mState = .playing then playback.pauseMediaPlayer.giveUpAudioFocus abandoned
    else playback
  { playback with mState := .paused }

/-- The part of `configMediaPlayerState` that resumes playback. -/
def resume (playback : LocalPlayback) : LocalPlayback :=
  match playback.mMediaPlayer with
  | some mp =>
      if mp.isPlaying then playback
      else if playback.mCurrentPosition = mp.position then playback.startMediaPlayer mp
      else { playback with mMediaPlayer := some mp.seekTo, mState := .buffering }
  | none => playback

def configMediaPlayerState (playback : LocalPlayback) : Except JavaException LocalPlayback :=
  if playback.mAudioFocus = .noFocusNoDuck then
    -- the focus is lost already, so it is not given up
    .ok (if playback.mState = .playing then playback.pause false else playback)
  -- only the branch for the normal volume looks whether there is a player
  else if playback.mAudioFocus = .noFocusCanDuck ∧ playback.mMediaPlayer = none then
    .error .nullPointer
  else if playback.mPlayOnFocusGain then
    .ok { playback.resume with mPlayOnFocusGain := false }
  else .ok playback

/-- What `onAudioFocusChange` notes down. -/
def noteFocusChange (playback : LocalPlayback) : FocusChange → LocalPlayback
  | .gain => { playback with mAudioFocus := .focused }
  | .loss | .lossTransient =>
      { playback with
        mAudioFocus := .noFocusNoDuck
        mPlayOnFocusGain := playback.mPlayOnFocusGain || playback.mState = PlaybackState.playing }
  | .lossTransientCanDuck => { playback with mAudioFocus := .noFocusCanDuck }
  | .unsupported => playback

def onAudioFocusChange (playback : LocalPlayback) (focusChange : FocusChange) :
    Except JavaException LocalPlayback :=
  (playback.noteFocusChange focusChange).configMediaPlayerState

/-- `sourceOf` is the source of the track that the provider has for a media id. -/
def play (sourceOf : String → Option String) (playback : LocalPlayback) (mediaId : String)
    (granted opens : Bool) : Except JavaException LocalPlayback :=
  let playback := { playback with mPlayOnFocusGain := true }.tryToGetAudioFocus granted
  let mediaHasChanged := playback.mCurrentMediaId ≠ some mediaId
  let playback :=
    if mediaHasChanged then { playback with mCurrentPosition := 0, mCurrentMediaId := some mediaId }
    else playback
  if playback.mState = .paused ∧ ¬ mediaHasChanged ∧ playback.mMediaPlayer.isSome then
    playback.configMediaPlayerState
  else
    match sourceOf mediaId with
    | none => .error .nullPointer
    | some _ =>
        -- a player that cannot open the source stays idle
        let mp := if opens then MediaPlayer.idle.prepareAsync else MediaPlayer.idle
        .ok { playback with mMediaPlayer := some mp, mState := .buffering }

def seekTo (playback : LocalPlayback) (position : Int) : LocalPlayback :=
  match playback.mMediaPlayer with
  | none => { playback with mCurrentPosition := position }
  | some mp =>
      { playback with
        mState := if mp.isPlaying then .buffering else playback.mState
        mMediaPlayer := some mp.seekTo }

/-- Only a player that is being prepared reports that it is. -/
def onPrepared (playback : LocalPlayback) : Except JavaException LocalPlayback :=
  match playback.mMediaPlayer with
  | some mp =>
      if mp.phase = .preparing then
        { playback with mMediaPlayer := some { mp with phase := .ready } }.configMediaPlayerState
      else .ok playback
  | none => .ok playback

def onSeekComplete (playback : LocalPlayback) : LocalPlayback :=
  match playback.mMediaPlayer with
  | some mp =>
      if mp.seeks = 0 then playback
      else
        let mp := { mp with seeks := mp.seeks - 1 }
        let playback := { playback with mMediaPlayer := some mp, mCurrentPosition := mp.position }
        if playback.mState = .buffering then playback.startMediaPlayer mp else playback
  | none => playback

/-- A change of the media player by itself; `onCompletion` and `onError` leave it to the
service what follows. -/
def modifyMediaPlayer (playback : LocalPlayback) (change : MediaPlayer → MediaPlayer) :
    LocalPlayback :=
  { playback with mMediaPlayer := playback.mMediaPlayer.map change }

def perform (sourceOf : String → Option String) (playback : LocalPlayback) :
    Event → Except JavaException LocalPlayback
  | .play mediaId granted opens => playback.play sourceOf mediaId granted opens
  | .pause abandoned => .ok (playback.pause abandoned)
  | .stop abandoned => .ok (playback.stop abandoned)
  | .seekTo position => .ok (playback.seekTo position)
  | .onAudioFocusChange focusChange => playback.onAudioFocusChange focusChange
  | .onPrepared => playback.onPrepared
  | .onSeekComplete => .ok playback.onSeekComplete
  | .moves position => .ok (playback.modifyMediaPlayer fun mp => { mp with position := position })
  | .completes => .ok (playback.modifyMediaPlayer fun mp =>
      if mp.isPlaying then { mp with phase := .ready } else mp)
  | .fails => .ok (playback.modifyMediaPlayer fun mp => { mp with phase := .error })

/-- As a system whose runs end with an exception. -/
def step (sourceOf : String → Option String) (playback : LocalPlayback) (event : Event) :
    Option LocalPlayback :=
  (playback.perform sourceOf event).toOption

theorem perform_of_step (sourceOf : String → Option String) {playback next : LocalPlayback}
    {event : Event} (hStep : playback.step sourceOf event = some next) :
    playback.perform sourceOf event = .ok next := by
  unfold step at hStep
  cases hResult : playback.perform sourceOf event with
  | error e => simp [hResult, Except.toOption] at hStep
  | ok other => simpa [hResult, Except.toOption] using hStep

end LocalPlayback

end AudioSync.Local
