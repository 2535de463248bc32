import AudioSync.Core.Session

/-! All JNI entry points of `AudioCore`. The native code does not record that a
session has been deleted: `audioSession` keeps its address. -/
namespace AudioSync.Core

open MachineInt Transition

/-- What ends the process. -/
inductive Fault where
  | assertion
  | deletedSession
  deriving DecidableEq, Repr

/-- `RTPSourceData`, as the statistics read it. -/
structure SourceData where
  isOwnSSRC : Bool
  name : List Byte
  jitter : Nat
  clockOffsetUSeconds : Int
  packetsLost : Int
  deriving DecidableEq, Repr

/-- The Java object `AudioDestination`. -/
structure AudioDestination where
  name : List Byte
  jitter : Int
  timeOffset : Int
  packetsLost : Int
  deriving DecidableEq, Repr

/-- The casts to `jint`, and a name that ends at its first NUL. -/
def SourceData.destination (source : SourceData) : AudioDestination where
  name := source.name.takeWhile (· ≠ 0)
  jitter := toSigned 32 source.jitter
  timeOffset := toSigned 32 source.clockOffsetUSeconds
  packetsLost := toSigned 32 source.packetsLost

namespace State

/-- `audioSession->…`, unless it is null. -/
def deref (core : State) : Except Fault (Option Session) :=
  match core.current with
  | none => .ok none
  | some session => if session.deleted then .error .deletedSession else .ok (some session)

def isRunning (core : State) : Except Fault Bool :=
  core.deref.map fun session => session.any Session.isRunning

def isSending (core : State) : Except Fault Bool :=
  core.deref.map fun session => session.any fun session => session.isSender && session.isRunning

/-- The session's `CurrentPlaybackTimeUs` is given. -/
def getCurrentPresentationTime (core : State) (playbackTimeUs : Int) : Except Fault Int :=
  core.deref.map fun session =>
    if session.any Session.isRunning then playbackTimeUs.tdiv 1000 else -1

/-- The session's source table is given; without a remote source the result is null. -/
def getAudioDestinations (core : State) (sources : List SourceData) :
    Except Fault (Option (List AudioDestination)) :=
  core.deref.map fun session =>
    let remote := sources.filter fun source => !source.isOwnSSRC
    if session.isNone || remote.isEmpty then none else some (remote.map SourceData.destination)

end State

/-- A call from Java; `entry` is one that can change the sessions. -/
inductive Call where
  | initAudio (samplesPerSec framesPerBuffer : Int)
  | entry (event : Event)
  | getAudioDestinations (sources : List SourceData)
  | getCurrentPresentationTime (playbackTimeUs : Int)
  | isRunning
  | isSending

/-- Why an event cannot be carried out. -/
def Event.fault : Event → Fault
  | .startStreamingAsset _ _ _ => .assertion
  | _ => .deletedSession

/-- The session objects after a call. -/
def perform (core : State) : Call → Except Fault State
  | .initAudio _ _ => .ok core
  | .entry event => (step core event).elim (.error event.fault) .ok
  | .getAudioDestinations sources => (core.getAudioDestinations sources).map fun _ => core
  | .getCurrentPresentationTime playbackTimeUs =>
      (core.getCurrentPresentationTime playbackTimeUs).map fun _ => core
  | .isRunning => core.isRunning.map fun _ => core
  | .isSending => core.isSending.map fun _ => core

namespace Call

/-- The call looks at `audioSession` and, if it is not null, at what it points to. -/
def readsSession : Call → Bool
  | .initAudio _ _ => false
  | .entry .stopServices => true
  | .entry .deinitAudio => true
  | .entry _ => false
  | .getAudioDestinations _ => true
  | .getCurrentPresentationTime _ => true
  | .isRunning => true
  | .isSending => true

/-- The asset's descriptor fails the assertion of `startStreamingAsset`. -/
def aborts : Call → Bool
  | .entry (.startStreamingAsset _ _ (some fd)) => fd < 0
  | _ => false

def startsSession : Call → Bool
  | .entry event => event.startsSession
  | _ => false

end Call

/-- What the calls made so far have left in `audioSession`. -/
inductive Holds where
  | null
  | session
  | deleted
  deriving DecidableEq, Repr

def Holds.after (holds : Holds) : Call → Holds
  | .entry .deinitAudio => if holds = .session then .deleted else holds
  | call => if call.startsSession then .session else holds

/-- After a `deinitAudio` that has found a session, only `initAudio` is called until
the next start. -/
def Disciplined : Holds → List Call → Prop
  | _, [] => True
  | holds, call :: calls =>
      (holds = .deleted → call.readsSession = false) ∧
        (call.aborts = false → Disciplined (holds.after call) calls)

/-- No call dereferences or deletes a session that has been deleted. -/
def NeverUsesDeleted (calls : List Call) : Prop :=
  calls.foldlM perform State.initial ≠ .error .deletedSession

section Deletion

variable {core next : State} {call : Call}

/-- What `audioSession` holds. -/
def State.holds (core : State) : Holds :=
  match core.current with
  | none => .null
  | some session => if session.deleted then .deleted else .session

/-- `audioSession` is null or points to an undeleted session. -/
def State.Sound (core : State) : Prop := core.holds ≠ .deleted

theorem holds_of_current_eq {session : Session} (h : core.current = some session) :
    core.holds = if session.deleted then .deleted else .session := by
  rw [State.holds, h]

theorem holds_modify (i : Nat) {method : Session → Session}
    (hMethod : ∀ session, (method session).deleted = session.deleted) :
    (core.modify i method).holds = core.holds := by
  unfold State.holds
  rw [State.current_modify]
  cases core.current with
  | none => rfl
  | some session => by_cases hSame : core.audioSession = some i <;> simp [hSame, hMethod]

theorem holds_start (core : State) {session : Session} (hFresh : session.deleted = false) :
    (core.start session).holds = .session := by
  simp [State.holds, State.current, State.start, hFresh]

theorem stop_deleted (session : Session) : session.stop.deleted = session.deleted := by
  unfold Session.stop
  split <;> rfl

/-- `Stop` is a method call: it fails exactly on a deleted session. -/
theorem stop_eq_none : core.stop = none ↔ core.holds = .deleted := by
  unfold State.stop State.holds State.current
  cases hPointer : core.audioSession with
  | none => simp
  | some i =>
      have hBound := core.points i hPointer
      simp [List.getElem?_eq_getElem hBound]

theorem holds_stop (hStop : core.stop = some next) : next.holds = core.holds := by
  unfold State.stop at hStop
  split at hStop
  · cases hStop
    rfl
  · split_ifs at hStop
    cases hStop
    exact holds_modify _ stop_deleted

theorem current_of_audioSession {i : Nat} (hPointer : core.audioSession = some i) :
    ∃ session, core.current = some session := by
  have hBound := core.points i hPointer
  exact ⟨core.sessions[i], by simp [State.current, hPointer, List.getElem?_eq_getElem hBound]⟩

theorem holds_delete (core : State) :
    core.delete.holds = if core.holds = .null then .null else .deleted := by
  unfold State.delete
  cases hPointer : core.audioSession with
  | none => simp [State.holds, State.current, hPointer]
  | some i =>
      obtain ⟨session, hCurrent⟩ := current_of_audioSession hPointer
      have hDeleted : (core.modify i fun session => { session with deleted := true }).current =
          some { session with deleted := true } := by
        simp [State.current_modify, hCurrent, hPointer]
      rw [holds_of_current_eq hDeleted, holds_of_current_eq hCurrent]
      cases session.deleted <;> rfl

theorem deref_of_holds (hHolds : core.holds = .deleted) : core.deref = .error .deletedSession := by
  unfold State.holds at hHolds
  unfold State.deref
  split at hHolds
  · cases hHolds
  · next session hCurrent => simp_all

theorem deref_isOk (hHolds : core.holds ≠ .deleted) : ∃ session, core.deref = .ok session := by
  unfold State.holds at hHolds
  unfold State.deref
  split at hHolds
  · exact ⟨none, by simp_all⟩
  · next session hCurrent => exact ⟨some session, by simp_all⟩

theorem perform_of_deleted (hHolds : core.holds = .deleted) (hReads : call.readsSession = true) :
    perform core call = .error .deletedSession := by
  have hStop : core.stop = none := stop_eq_none.mpr hHolds
  have hDeref := deref_of_holds hHolds
  cases call with
  | initAudio samplesPerSec framesPerBuffer => cases hReads
  | entry event =>
      cases event with
      | stopServices => simp [perform, step, hStop, Event.fault]
      | deinitAudio => simp [perform, step, hStop, Event.fault]
      | startStreamingAsset portbase path fd => cases hReads
      | startStreamingUri portbase path => cases hReads
      | startReceiving host portbase => cases hReads
      | networkThreadReturns i => cases hReads
  | getAudioDestinations sources =>
      simp [perform, State.getAudioDestinations, hDeref, Except.map]
  | getCurrentPresentationTime playbackTimeUs =>
      simp [perform, State.getCurrentPresentationTime, hDeref, Except.map]
  | isRunning => simp [perform, State.isRunning, hDeref, Except.map]
  | isSending => simp [perform, State.isSending, hDeref, Except.map]

theorem perform_of_aborts (hAborts : call.aborts = true) : perform core call = .error .assertion := by
  unfold Call.aborts at hAborts
  split at hAborts
  · simp [perform, step, of_decide_eq_true hAborts, Event.fault]
  · cases hAborts

/-- An entry point that changes the sessions, as far as deletions go. -/
theorem holds_step {event : Event} (hStep : step core event = some next) :
    next.holds = core.holds.after (.entry event) := by
  cases event with
  | startStreamingAsset portbase path fd =>
      cases fd with
      | none =>
          cases hStep
          rfl
      | some fd =>
          simp only [step] at hStep
          split_ifs at hStep
          cases hStep
          exact holds_start core rfl
  | startStreamingUri portbase path =>
      cases hStep
      exact holds_start core rfl
  | startReceiving host portbase =>
      cases hStep
      exact holds_start core rfl
  | stopServices => exact holds_stop hStep
  | deinitAudio =>
      obtain ⟨stopped, hStop, rfl⟩ := Option.map_eq_some_iff.mp hStep
      have hSound : core.holds ≠ .deleted := by
        intro hDeleted
        simp [stop_eq_none.mpr hDeleted] at hStop
      rw [holds_delete, holds_stop hStop]
      cases hHolds : core.holds with
      | null => rfl
      | session => rfl
      | deleted => exact absurd hHolds hSound
  | networkThreadReturns i =>
      cases hStep
      exact holds_modify i fun _ => rfl

theorem step_isSome {event : Event} (hRuns : (Call.entry event).aborts = false)
    (hSafe : core.holds = .deleted → (Call.entry event).readsSession = false) :
    ∃ next, step core event = some next := by
  have hStop (hReads : (Call.entry event).readsSession = true) : ∃ next, core.stop = some next := by
    refine Option.ne_none_iff_exists'.mp fun hNone => ?_
    simp [hSafe (stop_eq_none.mp hNone)] at hReads
  cases event with
  | startStreamingAsset portbase path fd =>
      cases fd with
      | none => exact ⟨core, rfl⟩
      | some fd => exact ⟨_, if_neg (of_decide_eq_false hRuns)⟩
  | startStreamingUri portbase path => exact ⟨_, rfl⟩
  | startReceiving host portbase => exact ⟨_, rfl⟩
  | stopServices => exact hStop rfl
  | deinitAudio =>
      obtain ⟨stopped, hStopped⟩ := hStop rfl
      exact ⟨stopped.delete, by simp [step, hStopped]⟩
  | networkThreadReturns i => exact ⟨_, rfl⟩

/-- Every other call succeeds, and is simulated by `Holds.after`. -/
theorem perform_isOk (hRuns : call.aborts = false)
    (hSafe : core.holds = .deleted → call.readsSession = false) :
    ∃ next, perform core call = .ok next ∧ next.holds = core.holds.after call := by
  have hDeref (hReads : call.readsSession = true) : ∃ session, core.deref = .ok session := by
    refine deref_isOk fun hDeleted => ?_
    simp [hSafe hDeleted] at hReads
  cases call with
  | initAudio samplesPerSec framesPerBuffer => exact ⟨core, rfl, rfl⟩
  | entry event =>
      obtain ⟨next, hStep⟩ := step_isSome hRuns hSafe
      exact ⟨next, by simp [perform, hStep], holds_step hStep⟩
  | getAudioDestinations sources =>
      obtain ⟨session, hSession⟩ := hDeref rfl
      exact ⟨core, by simp [perform, State.getAudioDestinations, hSession, Except.map], rfl⟩
  | getCurrentPresentationTime playbackTimeUs =>
      obtain ⟨session, hSession⟩ := hDeref rfl
      exact ⟨core, by simp [perform, State.getCurrentPresentationTime, hSession, Except.map], rfl⟩
  | isRunning =>
      obtain ⟨session, hSession⟩ := hDeref rfl
      exact ⟨core, by simp [perform, State.isRunning, hSession, Except.map], rfl⟩
  | isSending =>
      obtain ⟨session, hSession⟩ := hDeref rfl
      exact ⟨core, by simp [perform, State.isSending, hSession, Except.map], rfl⟩

theorem foldlM_perform_iff (core : State) (calls : List Call) :
    calls.foldlM perform core ≠ .error .deletedSession ↔ Disciplined core.holds calls := by
  induction calls generalizing core with
  | nil => simp [Disciplined, pure, Except.pure]
  | cons call calls ih =>
      rw [List.foldlM_cons, Disciplined]
      by_cases hSafe : core.holds = .deleted → call.readsSession = false
      · rw [and_iff_right hSafe]
        cases hRuns : call.aborts with
        | true =>
            rw [perform_of_aborts hRuns]
            simp [bind, Except.bind]
        | false =>
            obtain ⟨next, hNext, hHolds⟩ := perform_isOk hRuns hSafe
            rw [hNext, ← hHolds, ← ih next]
            simp [bind, Except.bind]
      · obtain ⟨hDeleted, hReads⟩ := Classical.not_imp.mp hSafe
        rw [perform_of_deleted hDeleted (by simpa using hReads)]
        simp [hSafe, bind, Except.bind]

/-- As a system whose runs end with a fault. -/
def performs (core : State) (call : Call) : Option State := (perform core call).toOption

/-- `deinitAudio` finds no session. -/
def TearsDownNothing (core : State) (call : Call) : Prop :=
  call = .entry .deinitAudio → core.audioSession = none

theorem holds_performs (hStep : performs core call = some next) :
    next.holds = core.holds.after call := by
  unfold performs at hStep
  cases hRuns : call.aborts with
  | true =>
      rw [perform_of_aborts hRuns] at hStep
      cases hStep
  | false =>
      by_cases hSafe : core.holds = .deleted → call.readsSession = false
      · obtain ⟨other, hOther, hHolds⟩ := perform_isOk hRuns hSafe
        rw [hOther] at hStep
        cases hStep
        exact hHolds
      · obtain ⟨hDeleted, hReads⟩ := Classical.not_imp.mp hSafe
        rw [perform_of_deleted hDeleted (by simpa using hReads)] at hStep
        cases hStep

theorem holds_eq_null : core.holds = .null ↔ core.audioSession = none := by
  cases hPointer : core.audioSession with
  | none => simp [State.holds, State.current, hPointer]
  | some i =>
      obtain ⟨session, hCurrent⟩ := current_of_audioSession hPointer
      rw [holds_of_current_eq hCurrent]
      cases session.deleted <;> simp

/-- Only a `deinitAudio` that finds a session leaves a deleted one behind. -/
theorem after_eq_deleted {holds : Holds} (hSound : holds ≠ .deleted) :
    holds.after call = .deleted ↔ call = .entry .deinitAudio ∧ holds = .session := by
  unfold Holds.after
  split
  · simp [hSound]
  · next hCall =>
      constructor
      · intro hDeleted
        split_ifs at hDeleted
        exact absurd hDeleted hSound
      · rintro ⟨rfl, -⟩
        exact absurd rfl hCall

theorem sound_performs (hSound : core.Sound) (hStep : performs core call = some next) :
    next.Sound ↔ TearsDownNothing core call := by
  unfold State.Sound at hSound ⊢
  unfold TearsDownNothing
  rw [holds_performs hStep, ← holds_eq_null, ne_eq, after_eq_deleted hSound, not_and]
  refine imp_congr_right fun _ => ?_
  cases hHolds : core.holds <;> simp_all

/-- Calls never touch a deleted session exactly when nothing but `initAudio` follows
a teardown before the next start; the pointer itself stays sound exactly when no
session is ever torn down. -/
theorem neverUsesDeleted_iff (calls : List Call) :
    (NeverUsesDeleted calls ↔ Disciplined .null calls) ∧
      (Always performs State.Sound State.initial calls ↔
        Meets performs TearsDownNothing State.initial calls) :=
  ⟨foldlM_perform_iff State.initial calls,
    always_iff_meets (fun _ => True) (fun _ _ _ _ _ => trivial)
      (fun _ _ _ _ hSound hStep => sound_performs hSound hStep) trivial
      (by decide : State.initial.holds ≠ .deleted) calls⟩

/-- What `MusicService.onDestroy` and `AudioCore.finalize` lead to while a file is
being streamed. -/
theorem not_neverUsesDeleted_onDestroy :
    ¬ NeverUsesDeleted [.entry (.startStreamingUri 10000 "a.mp3"), .entry .deinitAudio,
      .getCurrentPresentationTime 0, .entry .deinitAudio] := by
  intro hNever
  exact hNever rfl

end Deletion

end AudioSync.Core
