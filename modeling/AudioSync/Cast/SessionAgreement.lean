import AudioSync.Cast.Playback

/-! The native sessions against the state of `CastPlayback`. The executor's queue
is read as what it will leave running, which is compared with what the user
interface shows. -/
namespace AudioSync.Cast

open Transition

section Live

variable {core next : Core.State}

/-- The session with this address is running. -/
def Runs (core : Core.State) (i : Nat) (session : Core.Session) : Prop :=
  core.sessions[i]? = some session ∧ session.isRunning = true

/-- What the current native session streams, if it is running. -/
def live (core : Core.State) : Option Core.Source :=
  core.current.bind fun session => if session.isRunning then some session.source else none

theorem live_eq_none : live core = none ↔ ∀ session ∈ core.current, session.isRunning = false := by
  unfold live
  cases core.current with
  | none => simp
  | some session => cases hRunning : session.isRunning <;> simp [hRunning]

theorem live_eq_some {source : Core.Source} :
    live core = some source ↔ ∃ i session, core.audioSession = some i ∧
      Runs core i session ∧ session.source = source := by
  constructor
  · intro hLive
    obtain ⟨session, hCurrent, hSource⟩ := Option.bind_eq_some_iff.mp hLive
    obtain ⟨i, hPointer, hSession⟩ := Option.bind_eq_some_iff.mp hCurrent
    cases hRunning : session.isRunning with
    | false => simp [hRunning] at hSource
    | true =>
        rw [hRunning] at hSource
        exact ⟨i, session, hPointer, ⟨hSession, hRunning⟩, Option.some.inj hSource⟩
  · rintro ⟨i, session, hPointer, ⟨hSession, hRunning⟩, rfl⟩
    simp [live, Core.State.current, hPointer, hSession, hRunning]

/-- With at most one live session, nothing live means that nothing is running. -/
theorem not_runs_of_live_none (hOne : Core.AtMostOneLive core) (hLive : live core = none)
    (i : Nat) (session : Core.Session) : ¬ Runs core i session := by
  intro hRuns
  have hSome := live_eq_some.mpr ⟨i, session, hOne i session hRuns.1 hRuns.2, hRuns, rfl⟩
  rw [hLive] at hSome
  cases hSome

theorem live_start {session : Core.Session} (hRunning : session.isRunning = true) :
    live (core.start session) = some session.source := by
  rw [live_eq_some]
  exact ⟨core.sessions.length, session, rfl, ⟨by simp [Core.State.start], hRunning⟩, rfl⟩

theorem live_stop (hStop : core.stop = some next) : live next = none := by
  rw [live_eq_none]
  intro session hSession
  unfold Core.State.stop at hStop
  split at hStop
  · next hPointer =>
      cases hStop
      simp [Core.State.current, hPointer] at hSession
  · next i hPointer =>
      split at hStop
      · cases hStop
      · cases hStop
        rw [Core.State.current_modify, hPointer] at hSession
        obtain ⟨old, -, rfl⟩ := Option.map_eq_some_iff.mp hSession
        simp

theorem live_networkThreadReturns (i : Nat) :
    live (core.modify i fun session => { session with networkThread := false }) = live core := by
  unfold live
  rw [Core.State.current_modify]
  cases core.current with
  | none => rfl
  | some session => by_cases hSame : core.audioSession = some i <;> simp [hSame]

end Live

/-- What is live when the executor has worked off its tasks; `none` if a session
would be started over a running one. -/
def settled : Option Core.Source → List Task → Option (Option Core.Source)
  | source, [] => some source
  | _, .stopServices :: rest => settled none rest
  | none, .startStreamingUri _ path :: rest => settled (some (.uri path)) rest
  | some _, .startStreamingUri _ _ :: _ => none

theorem settled_append (source : Option Core.Source) (tasks more : List Task) :
    settled source (tasks ++ more) = (settled source tasks).bind (settled · more) := by
  induction tasks generalizing source with
  | nil => rfl
  | cons task rest ih =>
      cases task with
      | stopServices => exact ih none
      | startStreamingUri portbase path =>
          cases source with
          | none => exact ih (some (.uri path))
          | some _ => rfl

namespace Device

/-- The executor is idle and no download is pending. -/
def Quiet (device : Device) : Prop :=
  device.executor = [] ∧ device.awaited = none ∧ device.earlier = []

/-- In a quiet state a sender session runs exactly in `STATE_PLAYING`, and then it
is the only running session and streams the item of the most recent `play`. -/
def Agrees (device : Device) : Prop :=
  device.Quiet →
    ((∃ i session, Runs device.core i session ∧ session.isSender = true) ↔
      device.mState = .playing) ∧
    (device.mState = .playing → ∃ i session, Runs device.core i session ∧
      session.isSender = true ∧ device.lastSource = some session.source ∧
      ∀ j other, Runs device.core j other → j = i)

/-- What should run once the executor is idle: the item of the most recent `play`,
unless it has been paused or is still being downloaded. -/
def goal (device : Device) : Option Core.Source :=
  if device.mState = .playing ∧ device.awaited = none then device.lastSource else none

/-- The executor's tasks lead to the goal. -/
structure OnTrack (device : Device) : Prop where
  one : Core.AtMostOneLive device.core
  settles : settled (live device.core) device.executor = some device.goal
  loading : device.loading.isSome = true → device.mState ≠ .playing
  sender : device.mState = .playing → ∃ source, device.lastSource = some source ∧
    source.isSender = true
  awaited : ∀ download, device.awaited = some download →
    device.lastSource = some (.uri download.targetFile)

/-- The steps that keep the device on track. An asset is loaded when the executor is
idle, and the file exists; `stop` does not come while a session is streaming; a
download ends well if and only if its item is still to be played. -/
def Admits (library : String → Option Track) (device : Device) : Event → Prop
  | .play _ _ => True
  | .loadMedia fd tempFile => ∀ loading, device.loading = some loading →
      match library loading.mediaId with
      | none => True
      | some (.asset _) => device.executor = [] ∧ fd.isSome = true
      | some (.remote _) => tempFile.isSome = true
  | .pause => True
  | .stop => device.mState = .playing → device.awaited.isSome = true
  | .runTask => True
  | .awaitedPostExecute success => success = true ↔ device.mState = .playing
  | .earlierPostExecute _ success => success = false
  | .networkThreadReturns _ => True

section OnTrack

variable {library : String → Option Track} {device next : Device}

theorem onTrack_initial : OnTrack initial where
  one := Core.atMostOneLive_initial
  settles := rfl
  loading := by simp [initial]
  sender := by simp [initial]
  awaited := by simp [initial]

theorem goal_of_not_playing (hState : device.mState ≠ .playing) : device.goal = none := by
  simp [goal, hState]

theorem goal_of_awaited {download : Download} (hAwaited : device.awaited = some download) :
    device.goal = none := by
  simp [goal, hAwaited]

theorem onTrack_pause (hTrack : OnTrack device) : OnTrack device.pause where
  one := hTrack.one
  settles := by
    have hGoal : device.pause.goal = none := goal_of_not_playing (by simp [pause])
    rw [hGoal]
    change settled (live device.core) (device.executor ++ [.stopServices]) = some none
    rw [settled_append, hTrack.settles]
    rfl
  loading := by simp [pause]
  sender := by simp [pause]
  awaited := hTrack.awaited

theorem onTrack_stop (hTrack : OnTrack device)
    (hStop : device.mState = .playing → device.awaited.isSome = true) : OnTrack device.stop where
  one := hTrack.one
  settles := by
    have hGoal : device.goal = none := by
      by_cases hState : device.mState = .playing
      · obtain ⟨download, hAwaited⟩ := Option.isSome_iff_exists.mp (hStop hState)
        exact goal_of_awaited hAwaited
      · exact goal_of_not_playing hState
    rw [goal_of_not_playing (by simp [stop] : device.stop.mState ≠ .playing), ← hGoal]
    exact hTrack.settles
  loading := by simp [stop]
  sender := by simp [stop]
  awaited := hTrack.awaited

/-- `play` pauses what is playing before it does anything else. -/
theorem onTrack_play (mediaId : String) (draw : Fin 10000) (hTrack : OnTrack device) :
    OnTrack (device.play mediaId draw) := by
  have hPaused : ∃ paused : Device, paused.mState ≠ .playing ∧ OnTrack paused ∧
      device.play mediaId draw = { paused with
        nsd := paused.nsd.registerService (choosePort draw)
        loading := some ⟨mediaId, choosePort draw⟩ } := by
    by_cases hState : device.mState = .playing
    · exact ⟨device.pause, by simp [pause], onTrack_pause hTrack, by simp [play, isPlaying, hState]⟩
    · exact ⟨device, hState, hTrack, by simp [play, isPlaying, hState]⟩
  obtain ⟨paused, hState, hTrack, hPlay⟩ := hPaused
  rw [hPlay]
  exact ⟨hTrack.one, hTrack.settles, fun _ => hState, hTrack.sender, hTrack.awaited⟩

theorem onTrack_loadMedia {loading : Loading} {fd : Option Int} {tempFile : Option String}
    (hTrack : OnTrack device) (hLoading : device.loading = some loading)
    (hAdmits : Admits library device (.loadMedia fd tempFile))
    (hLoad : device.loadMedia library loading fd tempFile = some next) : OnTrack next := by
  have hState : device.mState ≠ .playing := hTrack.loading (by simp [hLoading])
  have hSettles : settled (live device.core) device.executor = some none := by
    rw [hTrack.settles, goal_of_not_playing hState]
  have hItem := hAdmits loading hLoading
  unfold loadMedia at hLoad
  cases hKnown : library loading.mediaId with
  | none =>
      rw [hKnown] at hLoad
      cases hLoad
      exact ⟨hTrack.one, hTrack.settles, by simp, hTrack.sender, hTrack.awaited⟩
  | some track =>
      rw [hKnown] at hLoad hItem
      cases track with
      | asset file =>
          -- the session of the asset is created at once, so nothing may be queued
          obtain ⟨hIdle, hFile⟩ := hItem
          obtain ⟨fd, rfl⟩ := Option.isSome_iff_exists.mp hFile
          rw [hIdle] at hSettles
          have hNone : live device.core = none := Option.some.inj hSettles
          obtain ⟨core, hStart, rfl⟩ := Option.map_eq_some_iff.mp hLoad
          simp only [Core.step] at hStart
          split_ifs at hStart with hAssert
          cases hStart
          exact {
            one := (Core.atMostOneLive_start hTrack.one).mpr (live_eq_none.mp hNone)
            settles := by simp [hIdle, live_start, settled, goal, Core.Session.startStreaming]
            loading := by simp
            sender := fun _ => ⟨_, rfl, rfl⟩
            awaited := by simp }
      | remote source =>
          obtain ⟨path, rfl⟩ := Option.isSome_iff_exists.mp hItem
          cases hLoad
          exact {
            one := hTrack.one
            settles := hSettles
            loading := by simp
            sender := fun _ => ⟨_, rfl, rfl⟩
            awaited := by
              intro download hDownload
              cases hDownload
              rfl }

theorem onTrack_runTask {task : Task} {rest : List Task} {core : Core.State}
    (hTrack : OnTrack device) (hQueue : device.executor = task :: rest)
    (hStep : Core.step device.core task.event = some core) :
    OnTrack { device with core := core, executor := rest } := by
  have hSettles := hTrack.settles
  rw [hQueue] at hSettles
  have hNext : Core.AtMostOneLive core ∧ settled (live core) rest = some device.goal := by
    cases task with
    | stopServices =>
        refine ⟨Core.atMostOneLive_stop hStep hTrack.one, ?_⟩
        rw [live_stop hStep]
        exact hSettles
    | startStreamingUri portbase path =>
        cases hLive : live device.core with
        | some source =>
            rw [hLive] at hSettles
            cases hSettles
        | none =>
            rw [hLive] at hSettles
            cases hStep
            refine ⟨(Core.atMostOneLive_start hTrack.one).mpr (live_eq_none.mp hLive), ?_⟩
            rw [live_start rfl]
            exact hSettles
  exact ⟨hNext.1, hNext.2, hTrack.loading, hTrack.sender, hTrack.awaited⟩

theorem onTrack_awaitedPostExecute {download : Download} {success : Bool}
    (hTrack : OnTrack device) (hAwaited : device.awaited = some download)
    (hSuccess : success = true ↔ device.mState = .playing) :
    OnTrack ({ device with awaited := none }.onPostExecute download success) := by
  have hSettles : settled (live device.core) device.executor = some none := by
    rw [hTrack.settles, goal_of_awaited hAwaited]
  cases success with
  | false =>
      have hState : device.mState ≠ .playing := by simpa using hSuccess
      refine ⟨hTrack.one, ?_, hTrack.loading, hTrack.sender, by simp [onPostExecute]⟩
      have hGoal : ({ device with awaited := none } : Device).goal = none :=
        goal_of_not_playing hState
      change settled (live device.core) device.executor = some _
      rw [hSettles]
      exact congrArg some hGoal.symm
  | true =>
      have hState : device.mState = .playing := hSuccess.mp rfl
      refine ⟨hTrack.one, ?_, hTrack.loading, hTrack.sender,
        by simp [onPostExecute, startPlayingFile]⟩
      change settled (live device.core) (device.executor ++
        [.startStreamingUri download.port download.targetFile]) = _
      rw [settled_append, hSettles]
      simp [onPostExecute, startPlayingFile, goal, hState, hTrack.awaited download hAwaited, settled]

theorem onTrack_step {event : Event} (hTrack : OnTrack device)
    (hAdmits : Admits library device event) (hStep : step library device event = some next) :
    OnTrack next := by
  cases effect_of_step hStep with
  | play hLoading => exact onTrack_play _ _ hTrack
  | loadMedia hLoading hLoad => exact onTrack_loadMedia hTrack hLoading hAdmits hLoad
  | pause hLoading => exact onTrack_pause hTrack
  | stop hLoading => exact onTrack_stop hTrack hAdmits
  | runTask hQueue hCore => exact onTrack_runTask hTrack hQueue hCore
  | awaitedPostExecute hAwaited => exact onTrack_awaitedPostExecute hTrack hAwaited hAdmits
  | earlierPostExecute hEarlier =>
      cases (show _ = false from hAdmits)
      exact ⟨hTrack.one, hTrack.settles, hTrack.loading, hTrack.sender, hTrack.awaited⟩
  | networkThreadReturns =>
      refine ⟨Core.atMostOneLive_modify (fun _ hRunning => hRunning) hTrack.one, ?_,
        hTrack.loading, hTrack.sender, hTrack.awaited⟩
      rw [live_networkThreadReturns]
      exact hTrack.settles

/-- With nothing queued and nothing to wait for, what is live is the goal. -/
theorem agrees_of_onTrack (hTrack : OnTrack device) : device.Agrees := by
  rintro ⟨hIdle, hAwaited, -⟩
  have hLive : live device.core = device.goal := by
    have hSettles := hTrack.settles
    rw [hIdle] at hSettles
    exact Option.some.inj hSettles
  by_cases hState : device.mState = .playing
  · obtain ⟨source, hSource, hSender⟩ := hTrack.sender hState
    have hGoal : live device.core = some source := by
      rw [hLive]
      simp [goal, hState, hAwaited, hSource]
    obtain ⟨i, session, hPointer, hRuns, rfl⟩ := live_eq_some.mp hGoal
    refine ⟨iff_of_true ⟨i, session, hRuns, hSender⟩ hState, fun _ => ?_⟩
    refine ⟨i, session, hRuns, hSender, hSource, ?_⟩
    intro j other hOther
    have hSame := hTrack.one j other hOther.1 hOther.2
    rw [hPointer] at hSame
    exact (Option.some.inj hSame).symm
  · rw [goal_of_not_playing hState] at hLive
    refine ⟨iff_of_false ?_ hState, fun hPlaying => absurd hPlaying hState⟩
    rintro ⟨i, session, hRuns, -⟩
    exact not_runs_of_live_none hTrack.one hLive i session hRuns

/-- In every run whose steps are all admitted, sessions and state agree throughout. -/
theorem always_agrees {events : List Event}
    (hMeets : Meets (step library) (Admits library) initial events) :
    Always (step library) Agrees initial events :=
  (always_of_meets (fun _ _ _ => onTrack_step) onTrack_initial hMeets).imp
    fun _ => agrees_of_onTrack

/-- An asset is paused, and a download is played in its place. -/
theorem always_agrees_pause_then_download :
    Always (step shelf) Agrees initial
      [.play "first" 0, .loadMedia (some 3) none, .pause, .runTask,
        .play "third" 1, .loadMedia none (some "tmp1mp3"), .awaitedPostExecute true, .runTask] := by
  apply always_agrees
  refine meets_cons_of_step rfl trivial ?_
  refine meets_cons_of_step rfl (by rintro loading ⟨⟩; exact ⟨rfl, rfl⟩) ?_
  refine meets_cons_of_step rfl trivial ?_
  refine meets_cons_of_step rfl trivial ?_
  refine meets_cons_of_step rfl trivial ?_
  refine meets_cons_of_step rfl (by rintro loading ⟨⟩; exact (rfl : true = true)) ?_
  refine meets_cons_of_step rfl ⟨fun _ => rfl, fun _ => rfl⟩ ?_
  exact meets_cons_of_step rfl trivial trivial

/-- On a skip from one asset to the next the new session is created before the queued
stop runs, which then stops the new session and leaves the old one running. -/
theorem not_always_agrees_skip :
    ¬ Always (step shelf) Agrees initial
      [.play "first" 0, .loadMedia (some 3) none, .play "second" 1, .loadMedia (some 4) none,
        .runTask] := by
  intro hAlways
  have hAgrees := hAlways.of_run rfl
  obtain ⟨i, session, ⟨hSession, hRunning⟩, -, hSource, -⟩ := (hAgrees ⟨rfl, rfl, rfl⟩).2 rfl
  match i with
  | 0 =>
      cases hSession
      exact absurd hSource (by decide)
  | 1 =>
      cases hSession
      cases hRunning
  | _ + 2 => cases hSession

end OnTrack

end Device

end AudioSync.Cast
