import AudioSync.Basic
import AudioSync.Lib.Transition

/-! The native library's session objects and the JNI entry points that create,
stop and delete them. A session's index in the list of all sessions ever created
stands for its address. -/
namespace AudioSync.Core

open MachineInt Transition

/-- What a session streams, or whom it listens to. -/
inductive Source where
  | asset (path : String)
  | uri (path : String)
  | host (name : String)
  deriving DecidableEq, Repr

/-- Files are sent; a host is listened to. -/
def Source.isSender : Source → Bool
  | .asset _ => true
  | .uri _ => true
  | .host _ => false

/-- `AudioStreamSession`. `networkThread` says that the thread is still inside
`RunNetwork`; `isRunning` is the flag that `IsRunning` reports. -/
structure Session where
  source : Source
  portbase : Nat
  isRunning : Bool
  networkThread : Bool
  deleted : Bool
  deriving DecidableEq, Repr

namespace Session

def isSender (session : Session) : Bool := session.source.isSender

/-- `AudioStreamSession::Stop`, which waits for the session's threads. -/
def stop (session : Session) : Session :=
  if session.isRunning then { session with isRunning := false, networkThread := false }
  else session

/-- `SenderSession::StartStreaming`. A failed `Create` is only logged. -/
def startStreaming (portbase : Int) (source : Source) : Session :=
  ⟨source, toUnsigned 16 portbase, true, true, false⟩

/-- `ReceiverSession::StartReceiving`, with the same treatment of errors. -/
def startReceiving (host : String) (portbase : Int) : Session :=
  ⟨.host host, toUnsigned 16 portbase, true, true, false⟩

@[simp]
theorem stop_isRunning (session : Session) : session.stop.isRunning = false := by
  cases h : session.isRunning <;> simp [stop, h]

end Session

/-- All sessions created so far and the global `audioSession`, which is null or
the address of one of them. -/
structure State where
  sessions : List Session
  audioSession : Option Nat
  points : ∀ i ∈ audioSession, i < sessions.length

namespace State

def initial : State := ⟨[], none, by simp⟩

/-- The session `audioSession` points to. -/
def current (core : State) : Option Session := core.audioSession.bind (core.sessions[·]?)

/-- `audioSession = …` with a session object created for the purpose. The former
value of `audioSession` is lost. -/
def start (core : State) (session : Session) : State where
  sessions := core.sessions ++ [session]
  audioSession := some core.sessions.length
  points := by simp

/-- Apply a method to the session at an address. -/
def modify (core : State) (i : Nat) (method : Session → Session) : State where
  sessions := core.sessions.modify i method
  audioSession := core.audioSession
  points := by simpa using core.points

theorem current_modify (core : State) (i : Nat) (method : Session → Session) :
    (core.modify i method).current =
      core.current.map fun session =>
        if core.audioSession = some i then method session else session := by
  cases hPointer : core.audioSession with
  | none => simp [current, modify, hPointer]
  | some j =>
      simp only [current, modify, hPointer, Option.bind_some, List.getElem?_modify,
        Option.some.injEq, eq_comm]
      rfl

/-- `if (audioSession) audioSession->Stop()`; undefined on a deleted object. -/
def stop (core : State) : Option State :=
  match core.audioSession with
  | none => some core
  | some i =>
      if (core.sessions[i]?.any (·.deleted)) = true then none
      else some (core.modify i Session.stop)

/-- `if (audioSession) delete audioSession`, which leaves the pointer as it is. -/
def delete (core : State) : State :=
  match core.audioSession with
  | none => core
  | some i => core.modify i fun session => { session with deleted := true }

end State

/-- The JNI entry points with their arguments, and the end of a session's network
thread. `startStreamingAsset` also carries what the asset manager answers: no
such asset, or the descriptor of the opened file. -/
inductive Event where
  | startStreamingAsset (portbase : Int) (path : String) (fd : Option Int)
  | startStreamingUri (portbase : Int) (path : String)
  | startReceiving (host : String) (portbase : Int)
  | stopServices
  | deinitAudio
  | networkThreadReturns (i : Nat)
  deriving Repr

/-- `none` is a failed assertion, or a method called on a deleted session. -/
def step (core : State) : Event → Option State
  | .startStreamingAsset _ _ none => some core
  | .startStreamingAsset portbase path (some fd) =>
      if fd < 0 then none
      else some (core.start (Session.startStreaming portbase (.asset path)))
  | .startStreamingUri portbase path =>
      some (core.start (Session.startStreaming portbase (.uri path)))
  | .startReceiving host portbase => some (core.start (Session.startReceiving host portbase))
  | .stopServices => core.stop
  | .deinitAudio => core.stop.map State.delete
  | .networkThreadReturns i =>
      some (core.modify i fun session => { session with networkThread := false })

/-- A session that is still running is the one `audioSession` points to. So at
most one is running. -/
def AtMostOneLive (core : State) : Prop :=
  ∀ i session, core.sessions[i]? = some session → session.isRunning = true →
    core.audioSession = some i

/-- The entry point creates a session. -/
def Event.startsSession : Event → Bool
  | .startStreamingAsset _ _ fd => fd.isSome
  | .startStreamingUri _ _ => true
  | .startReceiving _ _ => true
  | .stopServices => false
  | .deinitAudio => false
  | .networkThreadReturns _ => false

/-- A session is started only when there is none yet, or when the current one has
been stopped. -/
def StartsAfterStop (core : State) (event : Event) : Prop :=
  event.startsSession = true → ∀ session ∈ core.current, session.isRunning = false

section Liveness

variable {core : State}

theorem atMostOneLive_initial : AtMostOneLive State.initial := by
  intro i session hSession
  simp [State.initial] at hSession

/-- A method that never sets `isRunning` makes no session live. -/
theorem atMostOneLive_modify {i : Nat} {method : Session → Session}
    (hMethod : ∀ session, (method session).isRunning = true → session.isRunning = true)
    (hLive : AtMostOneLive core) : AtMostOneLive (core.modify i method) := by
  intro j session hSession hRunning
  simp only [State.modify, List.getElem?_modify] at hSession
  obtain ⟨old, hOld, rfl⟩ := Option.map_eq_some_iff.mp hSession
  refine hLive j old hOld ?_
  split_ifs at hRunning with hSame
  · exact hMethod old hRunning
  · exact hRunning

theorem atMostOneLive_stop {next : State} (hStop : core.stop = some next)
    (hLive : AtMostOneLive core) : AtMostOneLive next := by
  unfold State.stop at hStop
  split at hStop
  · cases hStop
    exact hLive
  · split_ifs at hStop with hDeleted
    cases hStop
    exact atMostOneLive_modify (by simp) hLive

theorem atMostOneLive_delete (hLive : AtMostOneLive core) : AtMostOneLive core.delete := by
  unfold State.delete
  split
  · exact hLive
  · exact atMostOneLive_modify (fun _ hRunning => hRunning) hLive

/-- A start replaces the current session. The invariant survives exactly when
that session was not running any more. -/
theorem atMostOneLive_start {session : Session} (hLive : AtMostOneLive core) :
    AtMostOneLive (core.start session) ↔
      ∀ old ∈ core.current, old.isRunning = false := by
  constructor
  · intro hNext old hOld
    obtain ⟨i, hPointer, hSession⟩ := Option.bind_eq_some_iff.mp hOld
    have hBound := core.points i hPointer
    by_contra hStill
    have hKept : (core.start session).sessions[i]? = some old := by
      simpa [State.start, List.getElem?_append_left hBound] using hSession
    have hSame := hNext i old hKept (by simpa using hStill)
    simp only [State.start, Option.some.injEq] at hSame
    omega
  · intro hStopped i found hFound hStill
    rcases Nat.lt_or_ge i core.sessions.length with hOld | hNew
    · have hSession : core.sessions[i]? = some found := by
        simpa [State.start, List.getElem?_append_left hOld] using hFound
      have hPointer := hLive i found hSession hStill
      have hCurrent : core.current = some found := by
        simp [State.current, hPointer, hSession]
      simp [hStopped found hCurrent] at hStill
    · have hBound : i < (core.start session).sessions.length :=
        (List.getElem?_eq_some_iff.mp hFound).1
      simp only [State.start, List.length_append, List.length_singleton] at hBound
      exact congrArg some (by omega : core.sessions.length = i)

theorem atMostOneLive_step {event : Event} {next : State} (hLive : AtMostOneLive core)
    (hStep : step core event = some next) :
    AtMostOneLive next ↔ StartsAfterStop core event := by
  cases event with
  | startStreamingAsset portbase path fd =>
      cases fd with
      | none =>
          cases hStep
          simp [StartsAfterStop, Event.startsSession, hLive]
      | some fd =>
          simp only [step] at hStep
          split_ifs at hStep with hAssert
          cases hStep
          simpa [StartsAfterStop, Event.startsSession] using atMostOneLive_start hLive
  | startStreamingUri portbase path =>
      cases hStep
      simpa [StartsAfterStop, Event.startsSession] using atMostOneLive_start hLive
  | startReceiving host portbase =>
      cases hStep
      simpa [StartsAfterStop, Event.startsSession] using atMostOneLive_start hLive
  | stopServices =>
      simpa [StartsAfterStop, Event.startsSession] using atMostOneLive_stop hStep hLive
  | deinitAudio =>
      obtain ⟨stopped, hStop, rfl⟩ := Option.map_eq_some_iff.mp hStep
      simpa [StartsAfterStop, Event.startsSession] using
        atMostOneLive_delete (atMostOneLive_stop hStop hLive)
  | networkThreadReturns i =>
      cases hStep
      have hNext : AtMostOneLive (core.modify i fun session =>
          { session with networkThread := false }) :=
        atMostOneLive_modify (fun _ hStill => hStill) hLive
      simpa [StartsAfterStop, Event.startsSession] using hNext

/-- Over any sequence of entry points, at most one session is ever live exactly
when every start finds the previous session stopped. -/
theorem always_atMostOneLive_iff (events : List Event) :
    Always step AtMostOneLive State.initial events ↔
      Meets step StartsAfterStop State.initial events :=
  always_iff_meets (fun _ => True) (fun _ _ _ _ _ => trivial)
    (fun _ _ _ _ hLive hStep => atMostOneLive_step hLive hStep) trivial atMostOneLive_initial events

/-- Two starts in a row leave the first session running without a pointer to it. -/
theorem not_always_atMostOneLive_two_starts :
    ¬ Always step AtMostOneLive State.initial
      [.startStreamingUri 10000 "a.mp3", .startReceiving "10.0.0.2" 10000] := by
  intro hAlways
  have hLive := hAlways.of_run rfl
  have hFirst := hLive 0 (Session.startStreaming 10000 (.uri "a.mp3")) rfl rfl
  exact absurd hFirst (by decide)

end Liveness

end AudioSync.Core
