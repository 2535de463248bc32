import AudioSync.Core.Session

/-! `CastPlayback` with what its calls set off: the tasks on `AudioCore`'s
single-thread executor, the downloads, and the NSD registration. -/
namespace AudioSync.Cast

/-- `PlaybackState.STATE_…`, as far as the playbacks use them. -/
inductive PlaybackState where
  | none
  | stopped
  | paused
  | playing
  | buffering
  | connecting
  deriving DecidableEq, Repr

/-- What `MusicProvider` has for a media id: a file of the app, or a place to
download it from. -/
inductive Track where
  | asset (file : String)
  | remote (source : String)
  deriving DecidableEq, Repr

/-- A provider with two files of the app and one piece to download. -/
def shelf (mediaId : String) : Option Track :=
  if mediaId = "first" then some (.asset "first.mp3")
  else if mediaId = "second" then some (.asset "second.mp3")
  else if mediaId = "third" then some (.remote "third.mp3")
  else none

/-- `NsdHelper`. The port belongs to `mSendingBroadcasts`. -/
structure NsdHelper where
  registered : Option Int
  deriving DecidableEq, Repr

namespace NsdHelper

def registerService (nsd : NsdHelper) (port : Int) : NsdHelper :=
  match nsd.registered with
  | .none => ⟨some port⟩
  | .some _ => nsd

def unregisterService (_ : NsdHelper) : NsdHelper := ⟨.none⟩

end NsdHelper

/-- A task of `AudioCore.mPool`. -/
inductive Task where
  | startStreamingUri (portbase : Int) (path : String)
  | stopServices
  deriving DecidableEq, Repr

def Task.event : Task → Core.Event
  | .startStreamingUri portbase path => .startStreamingUri portbase path
  | .stopServices => .stopServices

/-- A `DownloadTask` that has not come to `onPostExecute`. -/
structure Download where
  port : Int
  targetFile : String
  deriving DecidableEq, Repr

/-- A call of `play` that has registered its port and is about to load its item. -/
structure Loading where
  mediaId : String
  port : Int
  deriving DecidableEq, Repr

/-- The device. Of the pending downloads, `awaited` is that of the most recent call
of `play`. The last two fields record what that call asked for. -/
structure Device where
  core : Core.State
  executor : List Task
  nsd : NsdHelper
  mState : PlaybackState
  mCurrentMediaId : Option String
  loading : Option Loading
  awaited : Option Download
  earlier : List Download
  lastPort : Option Int
  lastSource : Option Core.Source

/-- The main thread's calls, the executor, the downloads and the network threads.
`play` is two events, for the executor may run in between; the events carry the
random number and the answers of the asset manager and the file system. -/
inductive Event where
  | play (mediaId : String) (draw : Fin 10000)
  | loadMedia (fd : Option Int) (tempFile : Option String)
  | pause
  | stop
  | runTask
  | awaitedPostExecute (success : Bool)
  | earlierPostExecute (i : Nat) (success : Bool)
  | networkThreadReturns (i : Nat)

/-- The port `play` chooses: an even number of at least 10000. -/
def choosePort (draw : Fin 10000) : Int :=
  let port : Int := 10000 + draw
  if port % 2 ≠ 0 then port + 1 else port

namespace Device

/-- A device on which nothing has been played. -/
def initial : Device :=
  ⟨Core.State.initial, [], ⟨.none⟩, .none, .none, .none, .none, [], .none, .none⟩

def isPlaying (device : Device) : Bool := device.mState = .playing

/-- `AudioCore.stopPlaying`. -/
def stopPlaying (device : Device) : Device :=
  { device with executor := device.executor ++ [.stopServices] }

/-- `AudioCore.startPlayingFile`. -/
def startPlayingFile (device : Device) (portbase : Int) (path : String) : Device :=
  { device with executor := device.executor ++ [.startStreamingUri portbase path] }

/-- `CastPlayback.stop`. -/
def stop (device : Device) : Device := { device with mState := .stopped }

/-- `CastPlayback.pause`. -/
def pause (device : Device) : Device :=
  { device.stopPlaying with nsd := device.nsd.unregisterService, mState := .paused }

/-- `CastPlayback.play` up to `loadMedia`. -/
def play (device : Device) (mediaId : String) (draw : Fin 10000) : Device :=
  let paused := if device.isPlaying then device.pause else device
  let port := choosePort draw
  { paused with nsd := paused.nsd.registerService port, loading := some ⟨mediaId, port⟩ }

/-- `loadMedia` and the rest of `play`. It throws for an unknown id, and goes on if
there is no file to download to. -/
def loadMedia (library : String → Option Track) (device : Device) (loading : Loading)
    (fd : Option Int) (tempFile : Option String) : Option Device :=
  match library loading.mediaId with
  | .none => some { device with loading := .none }
  | some track =>
      let loaded := { device with
        mState := .playing
        mCurrentMediaId := some loading.mediaId
        loading := .none
        awaited := .none
        earlier := device.awaited.toList ++ device.earlier
        lastPort := some loading.port }
      match track with
      | .asset file =>
          (Core.step device.core (.startStreamingAsset loading.port file fd)).map fun core =>
            { loaded with core := core, lastSource := some (.asset file) }
      | .remote _ => some { loaded with
          awaited := tempFile.map fun path => ⟨loading.port, path⟩
          lastSource := tempFile.map Core.Source.uri }

/-- `DownloadTask.onPostExecute`. -/
def onPostExecute (device : Device) (download : Download) (success : Bool) : Device :=
  if success then device.startPlayingFile download.port download.targetFile else device

/-- The main thread does one thing at a time: a `play` that is about to load its item
keeps it. -/
def onMainThread {α : Type} (device : Device) (next : α) : Option α :=
  if device.loading.isSome then .none else some next

def step (library : String → Option Track) (device : Device) : Event → Option Device
  | .play mediaId draw => device.onMainThread (device.play mediaId draw)
  | .loadMedia fd tempFile =>
      device.loading.bind fun loading => device.loadMedia library loading fd tempFile
  | .pause => device.onMainThread device.pause
  | .stop => device.onMainThread device.stop
  | .runTask =>
      match device.executor with
      | [] => .none
      | task :: rest => (Core.step device.core task.event).map fun core =>
          { device with core := core, executor := rest }
  | .awaitedPostExecute success => device.awaited.bind fun download =>
      device.onMainThread ({ device with awaited := .none }.onPostExecute download success)
  | .earlierPostExecute i success => (device.earlier[i]?).bind fun download =>
      device.onMainThread
        ({ device with earlier := device.earlier.eraseIdx i }.onPostExecute download success)
  | .networkThreadReturns i => (Core.step device.core (.networkThreadReturns i)).map fun core =>
      { device with core := core }

section Effect

variable {library : String → Option Track} {device next : Device} {event : Event}

theorem onMainThread_eq_some {α : Type} {next after : α}
    (h : device.onMainThread after = some next) : device.loading = .none ∧ next = after := by
  unfold onMainThread at h
  cases hLoading : device.loading with
  | none =>
      rw [hLoading] at h
      exact ⟨rfl, (Option.some.inj h).symm⟩
  | some loading =>
      rw [hLoading] at h
      cases h

/-- What an event does to the device, and what it finds there. -/
inductive Effect (library : String → Option Track) (device : Device) : Event → Device → Prop where
  | play {mediaId : String} {draw : Fin 10000} (hLoading : device.loading = .none) :
      Effect library device (.play mediaId draw) (device.play mediaId draw)
  | loadMedia {fd : Option Int} {tempFile : Option String} {loading : Loading} {next : Device}
      (hLoading : device.loading = some loading)
      (hLoad : device.loadMedia library loading fd tempFile = some next) :
      Effect library device (.loadMedia fd tempFile) next
  | pause (hLoading : device.loading = .none) : Effect library device .pause device.pause
  | stop (hLoading : device.loading = .none) : Effect library device .stop device.stop
  | runTask {task : Task} {rest : List Task} {core : Core.State}
      (hQueue : device.executor = task :: rest)
      (hCore : Core.step device.core task.event = some core) :
      Effect library device .runTask { device with core := core, executor := rest }
  | awaitedPostExecute {download : Download} {success : Bool}
      (hAwaited : device.awaited = some download) :
      Effect library device (.awaitedPostExecute success)
        ({ device with awaited := .none }.onPostExecute download success)
  | earlierPostExecute {i : Nat} {download : Download} {success : Bool}
      (hEarlier : device.earlier[i]? = some download) :
      Effect library device (.earlierPostExecute i success)
        ({ device with earlier := device.earlier.eraseIdx i }.onPostExecute download success)
  | networkThreadReturns {i : Nat} :
      Effect library device (.networkThreadReturns i) { device with
        core := device.core.modify i fun session => { session with networkThread := false } }

theorem effect_of_step (hStep : device.step library event = some next) :
    Effect library device event next := by
  cases event with
  | play mediaId draw =>
      obtain ⟨hLoading, rfl⟩ := onMainThread_eq_some hStep
      exact Effect.play hLoading
  | loadMedia fd tempFile =>
      obtain ⟨loading, hLoading, hLoad⟩ := Option.bind_eq_some_iff.mp hStep
      exact Effect.loadMedia hLoading hLoad
  | pause =>
      obtain ⟨hLoading, rfl⟩ := onMainThread_eq_some hStep
      exact Effect.pause hLoading
  | stop =>
      obtain ⟨hLoading, rfl⟩ := onMainThread_eq_some hStep
      exact Effect.stop hLoading
  | runTask =>
      simp only [step] at hStep
      split at hStep
      · cases hStep
      · next task rest hQueue =>
          obtain ⟨core, hCore, rfl⟩ := Option.map_eq_some_iff.mp hStep
          exact Effect.runTask hQueue hCore
  | awaitedPostExecute success =>
      obtain ⟨download, hAwaited, hPost⟩ := Option.bind_eq_some_iff.mp hStep
      obtain ⟨-, rfl⟩ := onMainThread_eq_some hPost
      exact Effect.awaitedPostExecute hAwaited
  | earlierPostExecute i success =>
      obtain ⟨download, hEarlier, hPost⟩ := Option.bind_eq_some_iff.mp hStep
      obtain ⟨-, rfl⟩ := onMainThread_eq_some hPost
      exact Effect.earlierPostExecute hEarlier
  | networkThreadReturns i =>
      cases hStep
      exact Effect.networkThreadReturns

end Effect

end Device

end AudioSync.Cast
