import AudioSync.Player.Leftovers

/-! A playback session as it is heard: the buffers it enqueues and the rates it sets,
from `audioplayer_initPlayback` on. Earlier sessions have left their globals behind. -/
namespace AudioSync.Player

open Transition

/-- What OpenSL is told to do. -/
inductive Output where
  | enqueue (data : List Byte)
  | setRate (permille : Int)
  deriving DecidableEq

/-- The rates a piece of `audioplayer_enqueuePCMFrames` sets. -/
def Call.rates (platform : Platform) (monotonicUs : Int) (call : Call) (player : State) :
    List Int :=
  match call.phase with
  | .write => []
  | .account _ => []
  | .check written =>
      if written = 0 ∧ 0 < call.chunk.length ∧ player.currentIsPlaying then
        (player.monitorPlayback platform monotonicUs).2
      else []
  | .returning _ => (player.monitorPlayback platform monotonicUs).2

/-- A run of the callback makes nothing of what is left behind. When it makes the start
decision, no other accuracy of the clock is remembered, and when it starts to play,
`audioplayer_monitorPlayback` has seen the player stopped since an earlier session. While
it plays it overwrites what it enqueues. -/
structure State.CallbackClean (abi : Abi) (clock : Clock) (player : State) : Prop where
  accuracy : player.Decides → player.accuracy = 0 ∨ player.accuracy = clock.coarseAccuracyUs
  monitor : player.Decides → (player.decided abi clock).currentIsPlaying = true →
    player.monitor.lastPrint = 0
  buffers : player.CallbackOverwrites abi clock

instance (abi : Abi) (clock : Clock) (player : State) :
    Decidable (player.CallbackClean abi clock) :=
  decidable_of_iff
    ((player.Decides → player.accuracy = 0 ∨ player.accuracy = clock.coarseAccuracyUs) ∧
      (player.Decides → (player.decided abi clock).currentIsPlaying = true →
        player.monitor.lastPrint = 0) ∧
      player.CallbackOverwrites abi clock)
    ⟨fun h => ⟨h.1, h.2.1, h.2.2⟩, fun h => ⟨h.accuracy, h.monitor, h.buffers⟩⟩

/-- The start of the stream, as the first sync fixes it. -/
def State.synced (systemTimeUs playbackTimeUs : Int) (player : State) : State :=
  if player.currentSyncSystemTimeUs = 0 then
    { player with currentSyncSystemTimeUs := systemTimeUs - playbackTimeUs }
  else player

/-- `audioplayer_syncPlayback` goes on with a call of `audioplayer_monitorPlayback`. The
callback may run in between. -/
theorem State.syncPlayback_eq (platform : Platform)
    (monotonicUs systemTimeUs playbackTimeUs : Int) (player : State) :
    player.syncPlayback platform monotonicUs systemTimeUs playbackTimeUs =
      (player.synced systemTimeUs playbackTimeUs).monitorPlayback platform monotonicUs := rfl

/-- The call that is in progress on the network thread. -/
inductive NetworkCall where
  | monitoring
  | enqueuing (call : Call)

/-- `queued` counts the buffers that OpenSL has still to play. -/
structure Session where
  player : State
  network : Option NetworkCall
  queued : Nat
  outputs : List Output
  halted : Bool

inductive SessionEvent where
  | bufferFinished (clock : Clock)
  | enqueuePCMFrames (chunk : List Byte) (playbackTimeUs : Int)
  | syncPlayback (systemTimeUs playbackTimeUs : Int)
  | monitorPlayback
  | advance (monotonicUs : Int)
  | setSystemTimeOffset (offsetUs : Int)
  | setDeviceLatency (latencyUs : Int)

namespace Session

/-- A run of the callback is over. After a division by zero there is no process left. -/
def finishCallback (run : Option Run) (session : Session) : Session :=
  match run with
  | none => { session with halted := true }
  | some run => { session with
      player := run.player
      queued := session.queued - 1 + run.enqueued.length
      outputs := session.outputs ++ run.enqueued.map fun buffer => .enqueue buffer.data }

/-- The network thread enters a call, unless it is in one. -/
def enter (call : NetworkCall) (player : State) (session : Session) : Option Session :=
  match session.network with
  | none => some { session with player := player, network := some call }
  | some _ => none

/-- The network thread goes on with its call. -/
def goOn (platform : Platform) (monotonicUs : Int) (session : Session) : NetworkCall → Session
  | .monitoring =>
      let monitored := session.player.monitorPlayback platform monotonicUs
      { session with
        player := monitored.1
        network := none
        outputs := session.outputs ++ monitored.2.map .setRate }
  | .enqueuing call =>
      let advanced := call.advance platform monotonicUs session.player
      { session with
        player := advanced.1
        network := advanced.2.map .enqueuing
        outputs :=
          session.outputs ++ (call.rates platform monotonicUs session.player).map .setRate }

def act (platform : Platform) (session : Session) : SessionEvent → Option Session
  | .bufferFinished clock =>
      if session.queued = 0 then none
      else some (session.finishCallback (bqPlayerCallback platform.abi clock session.player))
  | .enqueuePCMFrames chunk playbackTimeUs =>
      session.enter (.enqueuing (Call.enter chunk playbackTimeUs)) session.player
  | .syncPlayback systemTimeUs playbackTimeUs =>
      session.enter .monitoring (session.player.synced systemTimeUs playbackTimeUs)
  | .monitorPlayback => session.enter .monitoring session.player
  | .advance monotonicUs => session.network.map (session.goOn platform monotonicUs)
  | .setSystemTimeOffset offsetUs =>
      some { session with player := { session.player with currentSystemTimeOffsetUs := offsetUs } }
  | .setDeviceLatency latencyUs =>
      some { session with player := { session.player with currentDeviceLatency := latencyUs } }

def step (platform : Platform) (session : Session) (event : SessionEvent) : Option Session :=
  if session.halted then none else session.act platform event

/-- `audioplayer_initPlayback`. It sets the rate when the stream is not in the device's. -/
def start (abi : Abi) (clock : Clock) (samplesPerSec numChannels : BitVec 32) (player : State) :
    Option Session :=
  (initPlayback abi clock samplesPerSec numChannels player).map fun run =>
    { player := run.player
      network := none
      queued := run.enqueued.length
      outputs :=
        (if player.globalSamplesPerSec ≠ samplesPerSec.toNat then [.setRate 1000] else []) ++
          run.enqueued.map fun buffer => .enqueue buffer.data
      halted := false }

/-- A session with these events, when the globals were left like this. -/
def play (platform : Platform) (clock : Clock) (samplesPerSec numChannels : BitVec 32)
    (events : List SessionEvent) (player : State) : Option Session :=
  (start platform.abi clock samplesPerSec numChannels player).bind fun session =>
    run (step platform) session events

end Session

/-- The globals as any history of playback sessions can leave them. A session can be
stopped at any time; the settings can also change in between. -/
inductive Past (platform : Platform) : State → Prop where
  | initGlobal (samplesPerSec framesPerBuffer : BitVec 32) :
      Past platform (State.boot samplesPerSec framesPerBuffer)
  | setSystemTimeOffset {player : State} (hPast : Past platform player) (offsetUs : Int) :
      Past platform { player with currentSystemTimeOffsetUs := offsetUs }
  | setDeviceLatency {player : State} (hPast : Past platform player) (latencyUs : Int) :
      Past platform { player with currentDeviceLatency := latencyUs }
  | stopPlayback {player : State} (hPast : Past platform player) {clock : Clock}
      {samplesPerSec numChannels : BitVec 32} {events : List SessionEvent} {session : Session}
      (hPlay : Session.play platform clock samplesPerSec numChannels events player =
        some session) :
      Past platform session.player

/-- The same device, clock offset and latency. -/
structure SameSettings (player player' : State) : Prop where
  samplesPerSec : player'.globalSamplesPerSec = player.globalSamplesPerSec
  framesPerBuffers : player'.globalFramesPerBuffers = player.globalFramesPerBuffers
  systemTimeOffset : player'.currentSystemTimeOffsetUs = player.currentSystemTimeOffsetUs
  deviceLatency : player'.currentDeviceLatency = player.currentDeviceLatency

namespace Session

/-- What is heard of a session does not depend on the history before it. -/
def Isolated (platform : Platform) : Prop :=
  ∀ player player', Past platform player → Past platform player' → SameSettings player player' →
    ∀ clock samplesPerSec numChannels events,
      (play platform clock samplesPerSec numChannels events player).map outputs =
        (play platform clock samplesPerSec numChannels events player').map outputs

/-- The calls of the network thread always make nothing of it. -/
def Clean (platform : Platform) (session : Session) : SessionEvent → Prop
  | .bufferFinished clock => session.player.CallbackClean platform.abi clock
  | _ => True

instance (platform : Platform) (session : Session) (event : SessionEvent) :
    Decidable (session.Clean platform event) :=
  match event with
  | .bufferFinished clock =>
      inferInstanceAs (Decidable (session.player.CallbackClean platform.abi clock))
  | .enqueuePCMFrames _ _ => isTrue trivial
  | .syncPlayback _ _ => isTrue trivial
  | .monitorPlayback => isTrue trivial
  | .advance _ => isTrue trivial
  | .setSystemTimeOffset _ => isTrue trivial
  | .setDeviceLatency _ => isTrue trivial

/-- All steps of the session are clean. -/
def PlaysClean (platform : Platform) (clock : Clock) (samplesPerSec numChannels : BitVec 32)
    (events : List SessionEvent) (player : State) : Prop :=
  ∀ session, start platform.abi clock samplesPerSec numChannels player = some session →
    Meets (step platform) (Clean platform) session events

instance (platform : Platform) (clock : Clock) (samplesPerSec numChannels : BitVec 32)
    (events : List SessionEvent) (player : State) :
    Decidable (PlaysClean platform clock samplesPerSec numChannels events player) :=
  match hStart : start platform.abi clock samplesPerSec numChannels player with
  | none => isTrue fun _ hSome => nomatch hStart.symm.trans hSome
  | some session =>
      decidable_of_iff (Meets (step platform) (Clean platform) session events)
        ⟨fun hMeets _ hSome => Option.some.inj (hStart.symm.trans hSome) ▸ hMeets,
          fun hClean => hClean session hStart⟩

end Session

/-- The steps of a session that an event of `System` stands for: there a call of
`audioplayer_syncPlayback` or `audioplayer_monitorPlayback` is not interrupted. -/
def Event.steps : Event → List SessionEvent
  | .bufferFinished clock => [.bufferFinished clock]
  | .enqueuePCMFrames chunk playbackTimeUs => [.enqueuePCMFrames chunk playbackTimeUs]
  | .advanceCall monotonicUs => [.advance monotonicUs]
  | .syncPlayback monotonicUs systemTimeUs playbackTimeUs =>
      [.syncPlayback systemTimeUs playbackTimeUs, .advance monotonicUs]
  | .monitorPlayback monotonicUs => [.monitorPlayback, .advance monotonicUs]
  | .setSystemTimeOffset offsetUs => [.setSystemTimeOffset offsetUs]
  | .setDeviceLatency latencyUs => [.setDeviceLatency latencyUs]

/-- The bytes that OpenSL is given to play. -/
def Output.data : Output → Option (List Byte)
  | .enqueue data => some data
  | .setRate _ => none

/-- Rates that are set give nothing to play. -/
theorem filterMap_data_append_setRate (outputs : List Output) (rates : List Int) :
    (outputs ++ rates.map Output.setRate).filterMap Output.data =
      outputs.filterMap Output.data := by
  have hNone : (rates.map Output.setRate).filterMap Output.data = [] := by
    rw [List.filterMap_map, List.filterMap_eq_nil_iff]
    exact fun _ _ => rfl
  rw [List.filterMap_append, hNone, List.append_nil]

theorem filterMap_data_enqueue (buffers : List SLBuffer) :
    (buffers.map fun buffer => Output.enqueue buffer.data).filterMap Output.data =
      buffers.map SLBuffer.data := by
  rw [List.filterMap_map]
  exact congrFun List.filterMap_eq_map' buffers

namespace Session

/-- The session stands where the system does, and the same has been enqueued. -/
structure Matches (session : Session) (system : System) : Prop where
  player : session.player = system.player
  network : session.network = system.call.map .enqueuing
  queued : session.queued = system.slQueue.length
  halted : session.halted = system.halted
  enqueued : session.outputs.filterMap Output.data =
    system.callbacks.flatten.map SLBuffer.data

theorem step_of_running {platform : Platform} {session : Session} {event : SessionEvent}
    (hHalted : session.halted = false) :
    session.step platform event = session.act platform event := by
  simp [step, hHalted]

/-- A call that only steers the player is two steps of the session. -/
theorem run_monitoring {platform : Platform} {session entered : Session} {event : SessionEvent}
    (monotonicUs : Int) (hHalted : session.halted = false)
    (hEnter : session.act platform event = some entered) (hRunning : entered.halted = false)
    (hNetwork : entered.network = some .monitoring) :
    run (step platform) session [event, .advance monotonicUs] =
      some (entered.goOn platform monotonicUs .monitoring) := by
  have hSecond : entered.step platform (.advance monotonicUs) =
      some (entered.goOn platform monotonicUs .monitoring) := by
    rw [step_of_running hRunning, act, hNetwork, Option.map_some]
  rw [run, step_of_running hHalted, hEnter, Option.bind_some, run, hSecond, Option.bind_some, run]

theorem run_single {platform : Platform} {session : Session} (event : SessionEvent)
    (hHalted : session.halted = false) :
    run (step platform) session [event] = session.act platform event := by
  rw [run, step_of_running hHalted]
  exact Option.bind_fun_some _

/-- What the callback leaves is matched, also where it ends the process. -/
theorem Matches.finishCallback {session : Session} {system : System}
    (h : session.Matches system) {buffer : SLBuffer} {rest : List SLBuffer}
    (hQueue : system.slQueue = buffer :: rest) (result : Option Run) :
    (session.finishCallback result).Matches (system.finishCallback rest result) := by
  cases result with
  | none =>
      have hCallbacks : (system.callbacks ++ [[]]).flatten = system.callbacks.flatten := by simp
      refine ⟨h.player, h.network, h.queued, rfl, ?_⟩
      exact h.enqueued.trans (congrArg (List.map SLBuffer.data) hCallbacks.symm)
  | some run =>
      refine ⟨rfl, h.network, ?_, h.halted, ?_⟩
      · show session.queued - 1 + run.enqueued.length = (rest ++ run.enqueued).length
        rw [h.queued, hQueue, List.length_cons, Nat.add_sub_cancel, List.length_append]
      · show (session.outputs ++ run.enqueued.map fun buffer => Output.enqueue buffer.data).filterMap
          Output.data = (system.callbacks ++ [run.enqueued]).flatten.map SLBuffer.data
        rw [List.filterMap_append, filterMap_data_enqueue, h.enqueued, List.flatten_append,
          List.map_append, List.flatten_singleton]

theorem Matches.bufferFinished {platform : Platform} {session : Session} {system next : System}
    {clock : Clock} (h : session.Matches system) (hHalted : system.halted = false)
    (hAct : system.act platform (.bufferFinished clock) = some next) :
    ∃ session', run (Session.step platform) session [.bufferFinished clock] = some session' ∧
      session'.Matches next := by
  simp only [System.act] at hAct
  cases hQueue : system.slQueue with
  | nil => simp [hQueue] at hAct
  | cons buffer rest =>
      simp only [hQueue, Option.some.injEq] at hAct
      have hQueued : session.queued ≠ 0 := by
        rw [h.queued, hQueue, List.length_cons]
        exact Nat.succ_ne_zero _
      rw [run_single _ (h.halted.trans hHalted), act, if_neg hQueued, h.player]
      exact ⟨_, rfl, hAct ▸ h.finishCallback hQueue _⟩

/-- A call that steers the player waits for the network thread. -/
theorem idle_of_act {call : Option Call} {entered next : System}
    (h : (if call.isSome then none else some entered) = some next) :
    call = none ∧ next = entered := by
  cases call with
  | none => exact ⟨rfl, (Option.some.inj h).symm⟩
  | some call => cases h

/-- Every step of the system is matched. -/
theorem Matches.step {platform : Platform} {session : Session} {system next : System}
    {event : Event} (h : session.Matches system) (hStep : system.step platform event = some next) :
    ∃ session', run (Session.step platform) session event.steps = some session' ∧
      session'.Matches next := by
  obtain ⟨hHalted, hAct⟩ := System.act_of_step hStep
  have hMatches := h
  obtain ⟨player, network, queued, outputs, halted⟩ := session
  obtain ⟨rfl, rfl, rfl, rfl, hEnqueued⟩ := h
  simp only at hHalted hEnqueued
  cases event with
  | bufferFinished clock => exact hMatches.bufferFinished hHalted hAct
  | enqueuePCMFrames chunk playbackTimeUs =>
      obtain ⟨hIdle, rfl⟩ := idle_of_act hAct
      rw [hIdle]
      exact ⟨_, (run_single _ hHalted).trans rfl, rfl, rfl, rfl, rfl, hEnqueued⟩
  | advanceCall monotonicUs =>
      cases hCall : system.call with
      | none => simp [System.act, hCall] at hAct
      | some call =>
          simp only [System.act, hCall, Option.map_some] at hAct
          cases hAct
          exact ⟨_, (run_single _ hHalted).trans rfl, rfl, rfl, rfl, rfl,
            (filterMap_data_append_setRate _ _).trans hEnqueued⟩
  | syncPlayback monotonicUs systemTimeUs playbackTimeUs =>
      obtain ⟨hIdle, rfl⟩ := idle_of_act hAct
      rw [hIdle]
      exact ⟨_, run_monitoring monotonicUs hHalted rfl hHalted rfl, rfl, rfl, rfl, rfl,
        (filterMap_data_append_setRate _ _).trans hEnqueued⟩
  | monitorPlayback monotonicUs =>
      obtain ⟨hIdle, rfl⟩ := idle_of_act hAct
      rw [hIdle]
      exact ⟨_, run_monitoring monotonicUs hHalted rfl hHalted rfl, rfl, rfl, rfl, rfl,
        (filterMap_data_append_setRate _ _).trans hEnqueued⟩
  | setSystemTimeOffset offsetUs =>
      cases hAct
      exact ⟨_, (run_single _ hHalted).trans rfl, rfl, rfl, rfl, rfl, hEnqueued⟩
  | setDeviceLatency latencyUs =>
      cases hAct
      exact ⟨_, (run_single _ hHalted).trans rfl, rfl, rfl, rfl, rfl, hEnqueued⟩

/-- What `audioplayer_initPlayback` leaves is matched. -/
theorem matches_start {abi : Abi} {clock : Clock} {samplesPerSec numChannels : BitVec 32}
    {player : State} {run : Run}
    (hInit : initPlayback abi clock samplesPerSec numChannels player = some run) :
    ∃ session, start abi clock samplesPerSec numChannels player = some session ∧
      session.Matches (System.start run) := by
  refine ⟨_, by rw [start, hInit, Option.map_some], rfl, rfl, rfl, rfl, ?_⟩
  rw [List.filterMap_append, filterMap_data_enqueue]
  split_ifs <;> simp [System.start, Output.data]

/-- Every run of the system is the run of a session whose steering calls nothing interrupts. -/
theorem exists_play_of_run {platform : Platform} {clock : Clock}
    {samplesPerSec numChannels : BitVec 32} {player : State} {run : Run}
    (hInit : initPlayback platform.abi clock samplesPerSec numChannels player = some run)
    {events : List Event} {system : System}
    (hRun : Transition.run (System.step platform) (System.start run) events = some system) :
    ∃ session, play platform clock samplesPerSec numChannels (events.flatMap Event.steps) player =
        some session ∧ session.Matches system := by
  obtain ⟨session, hStart, hMatches⟩ := matches_start hInit
  have hStep : ∀ system event next (session : Session), session.Matches system →
      System.step platform system event = some next →
      ∃ session', Transition.run (Session.step platform) session event.steps = some session' ∧
        session'.Matches next := fun _ _ _ _ hMatches hStep => hMatches.step hStep
  obtain ⟨last, hLast, hSame⟩ :=
    run_flatMap Event.steps (fun system session => Matches session system) hStep hMatches hRun
  refine ⟨last, ?_, hSame⟩
  rw [play, hStart]
  exact hLast

end Session

end AudioSync.Player
