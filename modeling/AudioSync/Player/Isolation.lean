import AudioSync.Player.PlaybackSession

/-! Sessions that make nothing of what is left behind sound the same after any two
histories. -/
namespace AudioSync.Player

open Transition

namespace State

/-- The same player but for what earlier sessions can leave behind. Once it plays, the
accuracy is the same, and `audioplayer_monitorPlayback` has no use for its statics. -/
def Leftover (player player' : State) : Prop :=
  ∃ tempBuffers tempBuffersIx accuracy monitor,
    player' = (player.withAccuracy accuracy).withRest tempBuffers tempBuffersIx monitor ∧
    (player.currentIsPlaying = true → accuracy = player.accuracy ∧
      (monitor = player.monitor ∨ (monitor.lastPrint = 0 ∧ player.monitor.lastPrint = 0)))

variable {player player' : State}

/-- Two players that do not play may differ in all of it. -/
theorem leftover_of_stopped (hStopped : player.currentIsPlaying = false) {tempBuffers : Pointer}
    {tempBuffersIx : Nat} {accuracy : Int} {monitor : Monitor}
    (hSame : player' = (player.withAccuracy accuracy).withRest tempBuffers tempBuffersIx monitor) :
    Leftover player player' := by
  refine ⟨tempBuffers, tempBuffersIx, accuracy, monitor, hSame, ?_⟩
  intro hPlaying
  rw [hStopped] at hPlaying
  cases hPlaying

/-- A player that plays as well needs the same accuracy and, unless both start over, the same
monitor. -/
theorem leftover_of_same {tempBuffers : Pointer} {tempBuffersIx : Nat} {monitor : Monitor}
    (hMonitor : monitor = player.monitor ∨ (monitor.lastPrint = 0 ∧ player.monitor.lastPrint = 0))
    (hSame : player' = player.withRest tempBuffers tempBuffersIx monitor) :
    Leftover player player' :=
  ⟨tempBuffers, tempBuffersIx, player.accuracy, monitor, hSame, fun _ => ⟨rfl, hMonitor⟩⟩

section Monitor

variable (platform : Platform) (monotonicUs : Int)

theorem monitorPlayback_stopped (hStopped : player.currentIsPlaying = false) :
    player.monitorPlayback platform monotonicUs =
      ({ player with monitor := { player.monitor with lastPrint := 0 } }, []) := by
  unfold monitorPlayback
  rw [hStopped]
  rfl

theorem monitorPlayback_first (hPlaying : player.currentIsPlaying = true)
    (hFirst : player.monitor.lastPrint = 0) :
    player.monitorPlayback platform monotonicUs =
      ({ player with
          monitor := ⟨monotonicUs, player.currentDiff, monotonicUs, 2 * SECOND_MICRO⟩ }, []) := by
  unfold monitorPlayback
  rw [hPlaying]
  exact if_pos hFirst

/-- With the same monitor, the sample buffers are not looked at. -/
theorem monitorPlayback_withRest (tempBuffers : Pointer) (tempBuffersIx : Nat) :
    (player.withRest tempBuffers tempBuffersIx player.monitor).monitorPlayback platform
        monotonicUs =
      ((player.monitorPlayback platform monotonicUs).1.withRest tempBuffers tempBuffersIx
          (player.monitorPlayback platform monotonicUs).1.monitor,
        (player.monitorPlayback platform monotonicUs).2) := by
  let rest (result : State × List Int) : State × List Int :=
    (result.1.withRest tempBuffers tempBuffersIx result.1.monitor, result.2)
  show _ = rest (player.monitorPlayback platform monotonicUs)
  unfold monitorPlayback
  dsimp only
  rw [apply_ite rest, apply_ite rest, apply_ite rest, apply_ite rest]
  rfl

theorem Leftover.monitorPlayback (hLeft : Leftover player player') :
    (player'.monitorPlayback platform monotonicUs).2 =
        (player.monitorPlayback platform monotonicUs).2 ∧
      Leftover (player.monitorPlayback platform monotonicUs).1
        (player'.monitorPlayback platform monotonicUs).1 := by
  obtain ⟨tempBuffers, tempBuffersIx, accuracy, monitor, rfl, hWhenPlaying⟩ := hLeft
  cases hPlaying : player.currentIsPlaying with
  | false =>
      rw [monitorPlayback_stopped platform monotonicUs hPlaying, monitorPlayback_stopped]
      · exact ⟨rfl, leftover_of_stopped hPlaying rfl⟩
      · exact hPlaying
  | true =>
      obtain ⟨rfl, rfl | ⟨hFirst', hFirst⟩⟩ := hWhenPlaying hPlaying
      · let rest := player.withRest tempBuffers tempBuffersIx player.monitor
        show (rest.monitorPlayback platform monotonicUs).2 = _ ∧
          Leftover _ (rest.monitorPlayback platform monotonicUs).1
        rw [monitorPlayback_withRest]
        exact ⟨rfl, leftover_of_same (Or.inl rfl) rfl⟩
      · rw [monitorPlayback_first platform monotonicUs hPlaying hFirst, monitorPlayback_first]
        · exact ⟨rfl, leftover_of_same (Or.inl rfl) rfl⟩
        · exact hPlaying
        · exact hFirst'

end Monitor

section Callback

variable {abi : Abi} {clock : Clock} {bufPtr : Nat} {run : Run}

theorem isPlaying_playFrames {requestFrames : Nat} {drop : Option Int}
    (hRun : player.playFrames abi bufPtr requestFrames drop = some run) :
    run.player.currentIsPlaying = player.currentIsPlaying := by
  cases played_of_playFrames hRun with
  | starved hNone => rfl
  | plain hSome hPlain => rfl
  | squeezed hSome hDrop hFull hSqueeze =>
      obtain ⟨-, memory, -, rfl⟩ := squeeze_eq_some hSqueeze
      rfl

theorem isPlaying_playSilence (drop : Int) :
    (player.playSilence abi bufPtr drop).player.currentIsPlaying = player.currentIsPlaying := by
  unfold playSilence
  dsimp only
  split_ifs <;> rfl

theorem isPlaying_measure :
    (player.measure abi clock).currentIsPlaying = player.currentIsPlaying := by
  unfold measure advanceMarks
  split <;> rfl

theorem isPlaying_play (hRun : player.play abi bufPtr = some run) :
    run.player.currentIsPlaying = player.currentIsPlaying := by
  unfold play at hRun
  cases hJump : player.jumpFor player.currentDiff with
  | silence =>
      rw [hJump] at hRun
      cases hRun
      exact isPlaying_playSilence _
  | speedUp =>
      rw [hJump] at hRun
      exact isPlaying_playFrames hRun
  | none =>
      rw [hJump] at hRun
      exact isPlaying_playFrames hRun

/-- Whether the player plays is settled by the start decision. -/
theorem isPlaying_bqPlayerCallback (hRun : bqPlayerCallback abi clock player = some run) :
    run.player.currentIsPlaying = (player.decided abi clock).currentIsPlaying := by
  rw [bqPlayerCallback_eq] at hRun
  dsimp only at hRun
  split_ifs at hRun with hPlaying
  · obtain ⟨played, hPlay, rfl⟩ := Option.map_eq_some_iff.mp hRun
    exact (isPlaying_play hPlay).trans isPlaying_measure
  · cases hRun
    rfl

/-- The callback leaves the monitor alone. -/
theorem monitor_bqPlayerCallback (hWell : player.WellFormed abi)
    (hOverwrites : player.CallbackOverwrites abi clock)
    (hRun : bqPlayerCallback abi clock player = some run) :
    run.player.monitor = player.monitor := by
  have hSelf : SameRun player.monitor (bqPlayerCallback abi clock player)
      (bqPlayerCallback abi clock player) := bqPlayerCallback_same clock hWell hOverwrites
  rw [hRun] at hSelf
  rcases hSelf with ⟨hNone, -⟩ | ⟨left, right, hLeft, hRight, ⟨tempBuffers, tempBuffersIx, hSame⟩, -⟩
  · cases hNone
  · obtain rfl := Option.some.inj hLeft
    obtain rfl := Option.some.inj hRight
    have hMonitor := congrArg (fun next : State => next.monitor) hSame
    exact hMonitor

/-- What two runs of the callback have in common when the players differ in what is left
behind. -/
def LeftoverRun (run run' : Run) : Prop :=
  Leftover run.player run'.player ∧
    run.enqueued.map SLBuffer.data = run'.enqueued.map SLBuffer.data

theorem LeftoverRun.heard {run run' : Run} (hRuns : LeftoverRun run run') :
    run'.enqueued.length = run.enqueued.length ∧
      run'.enqueued.map (fun buffer => Output.enqueue buffer.data) =
        run.enqueued.map fun buffer => Output.enqueue buffer.data := by
  have hLength := congrArg List.length hRuns.2
  have hHeard := congrArg (List.map Output.enqueue) hRuns.2
  rw [List.length_map, List.length_map] at hLength
  rw [List.map_map, List.map_map] at hHeard
  exact ⟨hLength.symm, hHeard.symm⟩

/-- A run of the callback with other sample buffers and another monitor. -/
theorem leftoverRun_of_same {tempBuffers : Pointer} {tempBuffersIx : Nat} {monitor : Monitor}
    (hWell : player.WellFormed abi) (hOverwrites : player.CallbackOverwrites abi clock)
    (hMonitor : (player.decided abi clock).currentIsPlaying = true → monitor = player.monitor ∨
      (monitor.lastPrint = 0 ∧ player.monitor.lastPrint = 0)) :
    Option.Rel LeftoverRun (bqPlayerCallback abi clock player)
      (bqPlayerCallback abi clock (player.withRest tempBuffers tempBuffersIx monitor)) := by
  rcases bqPlayerCallback_same clock hWell hOverwrites with
    ⟨hLeft, hRight⟩ | ⟨left, right, hLeft, hRight, ⟨memory, ix, hSame⟩, hData⟩
  · rw [hLeft, hRight]
    exact Option.Rel.none
  · rw [hLeft, hRight]
    refine Option.Rel.some ⟨?_, hData⟩
    cases hPlaying : left.player.currentIsPlaying with
    | false => exact leftover_of_stopped hPlaying hSame
    | true =>
        rw [isPlaying_bqPlayerCallback hLeft] at hPlaying
        apply leftover_of_same _ hSame
        rw [monitor_bqPlayerCallback hWell hOverwrites hLeft]
        exact hMonitor hPlaying

/-- Both keep the device busy with filler. -/
theorem leftoverRun_of_waiting (clock : Clock) (hStopped : player.currentIsPlaying = false)
    (hWaiting : player.currentSyncSystemTimeUs = 0) (tempBuffers : Pointer) (tempBuffersIx : Nat)
    (accuracy : Int) (monitor : Monitor) :
    Option.Rel LeftoverRun (bqPlayerCallback abi clock player)
      (bqPlayerCallback abi clock
        ((player.withAccuracy accuracy).withRest tempBuffers tempBuffersIx monitor)) := by
  rw [bqPlayerCallback_waiting clock hStopped hWaiting, bqPlayerCallback_waiting clock]
  · apply Option.Rel.some
    constructor
    · exact leftover_of_stopped hStopped rfl
    · have hFilled := sameBytes_store player.tempBuffers tempBuffers
        (2 * player.nextBuffer.bufPtr abi)
        (2 * ((player.withAccuracy accuracy).withRest tempBuffers tempBuffersIx
          monitor).nextBuffer.bufPtr abi) (List.replicate (player.maxBufferSize abi) 1)
      have hRoom : player.nextBuffer.maxBufferSize abi ≤
          (List.replicate (player.maxBufferSize abi) (1 : Byte)).length := by
        rw [List.length_replicate]
        exact Nat.le_refl _
      exact congrArg (fun data => [data]) (slBuffer_data hFilled hRoom)
  · exact hStopped
  · exact hWaiting

theorem Leftover.bqPlayerCallback (hWell : player.WellFormed abi) (hLeft : Leftover player player')
    (hClean : player.CallbackClean abi clock) (hClean' : player'.CallbackClean abi clock) :
    Option.Rel LeftoverRun (bqPlayerCallback abi clock player)
      (bqPlayerCallback abi clock player') := by
  obtain ⟨tempBuffers, tempBuffersIx, accuracy, monitor, rfl, hWhenPlaying⟩ := hLeft
  cases hPlaying : player.currentIsPlaying with
  | true =>
      obtain ⟨rfl, hMonitor⟩ := hWhenPlaying hPlaying
      exact leftoverRun_of_same hWell hClean.buffers fun _ => hMonitor
  | false =>
      by_cases hWaiting : player.currentSyncSystemTimeUs = 0
      · exact leftoverRun_of_waiting clock hPlaying hWaiting ..
      · -- Both make the start decision with the clock's accuracy.
        have hDecides : player.Decides := ⟨hPlaying, hWaiting⟩
        let other := (player.withAccuracy accuracy).withRest tempBuffers tempBuffersIx monitor
        have hDecides' : other.Decides := hDecides
        let settled := player.withAccuracy clock.coarseAccuracyUs
        have hDecided : player.decided abi clock = settled.decided abi clock :=
          decided_accuracy hDecides (hClean.accuracy hDecides)
        have hDecided' : other.decided abi clock =
            (settled.withRest tempBuffers tempBuffersIx monitor).decided abi clock :=
          decided_accuracy hDecides' (hClean'.accuracy hDecides')
        obtain ⟨memory, ix, hStarts, -⟩ :=
          decided_withRest abi clock settled tempBuffers tempBuffersIx monitor
        have hLeft : bqPlayerCallback abi clock player = bqPlayerCallback abi clock settled :=
          bqPlayerCallback_accuracy hDecides (hClean.accuracy hDecides)
        have hRight : bqPlayerCallback abi clock other =
            bqPlayerCallback abi clock (settled.withRest tempBuffers tempBuffersIx monitor) :=
          bqPlayerCallback_accuracy hDecides' (hClean'.accuracy hDecides')
        rw [hLeft, hRight]
        apply leftoverRun_of_same
        · exact ⟨hWell.frames, hWell.framesPerBuffers⟩
        · unfold CallbackOverwrites
          rw [← hDecided]
          exact hClean.buffers
        · intro hPlays
          have hFirst : player.monitor.lastPrint = 0 := by
            apply hClean.monitor hDecides
            rw [hDecided]
            exact hPlays
          have hFirst' : monitor.lastPrint = 0 := by
            apply hClean'.monitor hDecides'
            rw [hDecided', hStarts]
            exact hPlays
          exact Or.inr ⟨hFirst', hFirst⟩

end Callback

section Network

variable (platform : Platform) (monotonicUs : Int)

theorem Leftover.synced (hLeft : Leftover player player') (systemTimeUs playbackTimeUs : Int) :
    Leftover (player.synced systemTimeUs playbackTimeUs)
      (player'.synced systemTimeUs playbackTimeUs) := by
  obtain ⟨tempBuffers, tempBuffersIx, accuracy, monitor, rfl, hWhenPlaying⟩ := hLeft
  by_cases hFirst : player.currentSyncSystemTimeUs = 0
  · have hLeft : player.synced systemTimeUs playbackTimeUs = _ := if_pos hFirst
    have hRight : ((player.withAccuracy accuracy).withRest tempBuffers tempBuffersIx
      monitor).synced systemTimeUs playbackTimeUs = _ := if_pos hFirst
    rw [hLeft, hRight]
    exact ⟨tempBuffers, tempBuffersIx, accuracy, monitor, rfl, hWhenPlaying⟩
  · have hLeft : player.synced systemTimeUs playbackTimeUs = _ := if_neg hFirst
    have hRight : ((player.withAccuracy accuracy).withRest tempBuffers tempBuffersIx
      monitor).synced systemTimeUs playbackTimeUs = _ := if_neg hFirst
    rw [hLeft, hRight]
    exact ⟨tempBuffers, tempBuffersIx, accuracy, monitor, rfl, hWhenPlaying⟩

theorem Leftover.setSystemTimeOffset (hLeft : Leftover player player') (offsetUs : Int) :
    Leftover { player with currentSystemTimeOffsetUs := offsetUs }
      { player' with currentSystemTimeOffsetUs := offsetUs } := by
  obtain ⟨tempBuffers, tempBuffersIx, accuracy, monitor, rfl, hWhenPlaying⟩ := hLeft
  exact ⟨tempBuffers, tempBuffersIx, accuracy, monitor, rfl, hWhenPlaying⟩

theorem Leftover.setDeviceLatency (hLeft : Leftover player player') (latencyUs : Int) :
    Leftover { player with currentDeviceLatency := latencyUs }
      { player' with currentDeviceLatency := latencyUs } := by
  obtain ⟨tempBuffers, tempBuffersIx, accuracy, monitor, rfl, hWhenPlaying⟩ := hLeft
  exact ⟨tempBuffers, tempBuffersIx, accuracy, monitor, rfl, hWhenPlaying⟩

/-- A piece of `audioplayer_enqueuePCMFrames` makes nothing of what is left behind. -/
theorem Leftover.advance (call : Call) (hLeft : Leftover player player') :
    call.rates platform monotonicUs player' = call.rates platform monotonicUs player ∧
      (call.advance platform monotonicUs player').2 =
        (call.advance platform monotonicUs player).2 ∧
      Leftover (call.advance platform monotonicUs player).1
        (call.advance platform monotonicUs player').1 := by
  obtain ⟨hRates, hMonitored⟩ := hLeft.monitorPlayback platform monotonicUs
  obtain ⟨tempBuffers, tempBuffersIx, accuracy, monitor, rfl, hWhenPlaying⟩ := hLeft
  unfold Call.rates Call.advance
  cases call.phase with
  | write => exact ⟨rfl, rfl, tempBuffers, tempBuffersIx, accuracy, monitor, rfl, hWhenPlaying⟩
  | account written =>
      exact ⟨rfl, rfl, tempBuffers, tempBuffersIx, accuracy, monitor, rfl, hWhenPlaying⟩
  | check written =>
      let other := (player.withAccuracy accuracy).withRest tempBuffers tempBuffersIx monitor
      by_cases hFull : written = 0 ∧ 0 < call.chunk.length ∧ player.currentIsPlaying = true
      · have hFull' : written = 0 ∧ 0 < call.chunk.length ∧ other.currentIsPlaying = true := hFull
        dsimp only
        rw [if_pos hFull, if_pos hFull, if_pos hFull', if_pos hFull']
        exact ⟨hRates, rfl, hMonitored⟩
      · have hFull' : ¬ (written = 0 ∧ 0 < call.chunk.length ∧ other.currentIsPlaying = true) :=
          hFull
        dsimp only
        rw [if_neg hFull, if_neg hFull, if_neg hFull', if_neg hFull']
        exact ⟨rfl, rfl, tempBuffers, tempBuffersIx, accuracy, monitor, rfl, hWhenPlaying⟩
  | returning monitors => exact ⟨hRates, rfl, hMonitored⟩

end Network

section WellFormed

variable {abi : Abi}

theorem length_of_mem_framesOf {frameSize : Nat} {pcm : List Byte} {frame : Frame}
    (hFrame : frame ∈ framesOf frameSize pcm) : frame.length = frameSize := by
  obtain ⟨i, hi, rfl⟩ := List.mem_map.mp hFrame
  have hWhole : (i + 1) * frameSize ≤ pcm.length / frameSize * frameSize :=
    Nat.mul_le_mul_right frameSize (List.mem_range.mp hi)
  have hFits := Nat.div_mul_le_self pcm.length frameSize
  rw [Nat.succ_mul] at hWhole
  rw [List.length_take, List.length_drop]
  omega

theorem WellFormed.advance (hWell : player.WellFormed abi) (platform : Platform)
    (hAbi : platform.abi = abi) (monotonicUs : Int) (call : Call) :
    (call.advance platform monotonicUs player).1.WellFormed abi := by
  have hMonitored : (player.monitorPlayback platform monotonicUs).1.WellFormed abi :=
    hWell.of_accounts (accounts_monitorPlayback platform monotonicUs player :
      Accounts True player [] _)
  unfold Call.advance
  cases call.phase with
  | write =>
      refine ⟨?_, hWell.framesPerBuffers⟩
      intro frame hFrame
      rcases List.mem_append.mp hFrame with hOld | hNew
      · exact hWell.frames frame hOld
      · rw [← hAbi] at *
        exact length_of_mem_framesOf (List.mem_of_mem_take hNew)
  | account written => exact ⟨hWell.frames, hWell.framesPerBuffers⟩
  | check written =>
      dsimp only
      split_ifs
      · exact hMonitored
      · exact hWell
  | returning monitors => exact hMonitored

theorem WellFormed.synced (hWell : player.WellFormed abi) (systemTimeUs playbackTimeUs : Int) :
    (player.synced systemTimeUs playbackTimeUs).WellFormed abi := by
  unfold State.synced
  split_ifs
  · exact ⟨hWell.frames, hWell.framesPerBuffers⟩
  · exact hWell

end WellFormed

end State

namespace Session

/-- The same session but for what earlier ones can leave behind. -/
structure SameSession (abi : Abi) (session session' : Session) : Prop where
  player : State.Leftover session.player session'.player
  wellFormed : session.player.WellFormed abi
  network : session'.network = session.network
  queued : session'.queued = session.queued
  outputs : session'.outputs = session.outputs
  halted : session'.halted = session.halted

variable {platform : Platform} {session session' : Session}

theorem sameSession_finishCallback (hSame : SameSession platform.abi session session')
    {clock : Clock} (hClean : session.player.CallbackClean platform.abi clock)
    (hClean' : session'.player.CallbackClean platform.abi clock) :
    SameSession platform.abi
      (session.finishCallback (bqPlayerCallback platform.abi clock session.player))
      (session'.finishCallback (bqPlayerCallback platform.abi clock session'.player)) := by
  have hRuns := hSame.player.bqPlayerCallback hSame.wellFormed hClean hClean'
  generalize hRun : bqPlayerCallback platform.abi clock session.player = run at hRuns
  generalize bqPlayerCallback platform.abi clock session'.player = run' at hRuns
  cases hRuns with
  | none => exact { hSame with halted := rfl }
  | @some run run' hBoth =>
      obtain ⟨hLength, hHeard⟩ := hBoth.heard
      unfold finishCallback
      dsimp only
      rw [hSame.queued, hSame.outputs, hLength, hHeard]
      exact { hSame with
        player := hBoth.1
        wellFormed := hSame.wellFormed.of_accounts (accounts_bqPlayerCallback hRun)
        queued := rfl
        outputs := rfl }

theorem sameSession_enter (hSame : SameSession platform.abi session session') (call : NetworkCall)
    {player player' : State} (hPlayer : State.Leftover player player')
    (hWell : player.WellFormed platform.abi) :
    Option.Rel (SameSession platform.abi) (session.enter call player)
      (session'.enter call player') := by
  unfold enter
  rw [hSame.network]
  cases session.network with
  | none =>
      apply Option.Rel.some
      exact { hSame with player := hPlayer, wellFormed := hWell, network := rfl }
  | some other => exact Option.Rel.none

theorem sameSession_goOn (hSame : SameSession platform.abi session session') (monotonicUs : Int)
    (call : NetworkCall) :
    SameSession platform.abi (session.goOn platform monotonicUs call)
      (session'.goOn platform monotonicUs call) := by
  cases call with
  | monitoring =>
      obtain ⟨hRates, hPlayer⟩ := hSame.player.monitorPlayback platform monotonicUs
      have hWell : (session.player.monitorPlayback platform monotonicUs).1.WellFormed
          platform.abi :=
        hSame.wellFormed.of_accounts
          (State.accounts_monitorPlayback platform monotonicUs _ : Accounts True _ [] _)
      unfold goOn
      dsimp only
      rw [hRates, hSame.outputs]
      exact { hSame with player := hPlayer, wellFormed := hWell, network := rfl, outputs := rfl }
  | enqueuing call =>
      obtain ⟨hRates, hCall, hPlayer⟩ := hSame.player.advance platform monotonicUs call
      have hWell := hSame.wellFormed.advance platform rfl monotonicUs call
      unfold goOn
      dsimp only
      rw [hRates, hCall, hSame.outputs]
      exact { hSame with player := hPlayer, wellFormed := hWell, network := rfl, outputs := rfl }

/-- What is clean in both sessions keeps them the same. -/
theorem sameSession_act (event : SessionEvent)
    (hSame : SameSession platform.abi session session')
    (hClean : (session.act platform event).isSome → session.Clean platform event)
    (hClean' : (session'.act platform event).isSome → session'.Clean platform event) :
    Option.Rel (SameSession platform.abi) (session.act platform event)
      (session'.act platform event) := by
  cases event with
  | bufferFinished clock =>
      by_cases hQueued : session.queued = 0
      · have hLeft : session.act platform (.bufferFinished clock) = none := if_pos hQueued
        have hRight : session'.act platform (.bufferFinished clock) = none :=
          if_pos (hSame.queued.trans hQueued)
        rw [hLeft, hRight]
        exact Option.Rel.none
      · have hQueued' : ¬ session'.queued = 0 := by
          rw [hSame.queued]
          exact hQueued
        have hLeft : session.act platform (.bufferFinished clock) = some _ := if_neg hQueued
        have hRight : session'.act platform (.bufferFinished clock) = some _ := if_neg hQueued'
        have hCleanLeft := hClean (congrArg Option.isSome hLeft)
        have hCleanRight := hClean' (congrArg Option.isSome hRight)
        rw [hLeft, hRight]
        exact Option.Rel.some (sameSession_finishCallback hSame hCleanLeft hCleanRight)
  | enqueuePCMFrames chunk playbackTimeUs =>
      exact sameSession_enter hSame _ hSame.player hSame.wellFormed
  | syncPlayback systemTimeUs playbackTimeUs =>
      exact sameSession_enter hSame _ (hSame.player.synced systemTimeUs playbackTimeUs)
        (hSame.wellFormed.synced systemTimeUs playbackTimeUs)
  | monitorPlayback => exact sameSession_enter hSame _ hSame.player hSame.wellFormed
  | advance monotonicUs =>
      unfold act
      rw [hSame.network]
      cases session.network with
      | none => exact Option.Rel.none
      | some call => exact Option.Rel.some (sameSession_goOn hSame monotonicUs call)
  | setSystemTimeOffset offsetUs =>
      have hWell : { session.player with currentSystemTimeOffsetUs := offsetUs }.WellFormed
        platform.abi := ⟨hSame.wellFormed.frames, hSame.wellFormed.framesPerBuffers⟩
      exact Option.Rel.some
        { hSame with player := hSame.player.setSystemTimeOffset offsetUs, wellFormed := hWell }
  | setDeviceLatency latencyUs =>
      have hWell : { session.player with currentDeviceLatency := latencyUs }.WellFormed
        platform.abi := ⟨hSame.wellFormed.frames, hSame.wellFormed.framesPerBuffers⟩
      exact Option.Rel.some
        { hSame with player := hSame.player.setDeviceLatency latencyUs, wellFormed := hWell }

theorem sameSession_step (event : SessionEvent)
    (hSame : SameSession platform.abi session session')
    (hClean : (session.step platform event).isSome → session.Clean platform event)
    (hClean' : (session'.step platform event).isSome → session'.Clean platform event) :
    Option.Rel (SameSession platform.abi) (session.step platform event)
      (session'.step platform event) := by
  unfold step at *
  by_cases hHalted : session.halted = true
  · have hHalted' := hSame.halted.trans hHalted
    rw [if_pos hHalted, if_pos hHalted']
    exact Option.Rel.none
  · have hHalted' : ¬ session'.halted = true := by
      rw [hSame.halted]
      exact hHalted
    rw [if_neg hHalted] at hClean ⊢
    rw [if_neg hHalted'] at hClean' ⊢
    exact sameSession_act event hSame hClean hClean'

/-- Reset, two players differ in no more than what is left behind. -/
theorem leftover_reset {player player' : State} (hSettings : SameSettings player player')
    {samplesPerSec : BitVec 32} (numChannels : BitVec 32) (hPos : 0 < samplesPerSec.toNat) :
    State.Leftover (player.reset samplesPerSec numChannels hPos)
      (player'.reset samplesPerSec numChannels hPos) := by
  apply State.leftover_of_stopped rfl
  · unfold State.reset State.withRest State.withAccuracy
    dsimp only
    rw [hSettings.samplesPerSec, hSettings.framesPerBuffers, hSettings.systemTimeOffset,
      hSettings.deviceLatency]

/-- A reset player waits for the first sync. -/
theorem callbackClean_reset (abi : Abi) (clock : Clock) (player : State)
    {samplesPerSec : BitVec 32} (numChannels : BitVec 32) (hPos : 0 < samplesPerSec.toNat) :
    (player.reset samplesPerSec numChannels hPos).CallbackClean abi clock := by
  have hWaits : ¬ (player.reset samplesPerSec numChannels hPos).Decides :=
    fun hDecides => hDecides.2 rfl
  refine ⟨fun hDecides => absurd hDecides hWaits, fun hDecides => absurd hDecides hWaits, ?_⟩
  intro hPlaying
  cases hPlaying

/-- A session starts the same whatever the globals were. -/
theorem sameSession_start {player player' : State} (hSettings : SameSettings player player')
    (hFrames : player.globalFramesPerBuffers < 2 ^ 32) (abi : Abi) (clock : Clock)
    (samplesPerSec numChannels : BitVec 32) :
    Option.Rel (SameSession abi) (start abi clock samplesPerSec numChannels player)
      (start abi clock samplesPerSec numChannels player') := by
  unfold start initPlayback
  by_cases hSize : 0 < State.fifoFrames samplesPerSec ∧ 0 < abi.size (numChannels.toNat * 2)
  · rw [dif_pos hSize, dif_pos hSize]
    have hPos := samplesPerSec_pos_of_fifoFrames hSize.1
    have hWell : (player.reset samplesPerSec numChannels hPos).WellFormed abi :=
      ⟨fun frame hFrame => absurd hFrame (List.not_mem_nil), hFrames⟩
    have hRuns := (leftover_reset hSettings numChannels hPos).bqPlayerCallback hWell
      (callbackClean_reset abi clock player numChannels hPos)
      (callbackClean_reset abi clock player' numChannels hPos)
    rw [hSettings.samplesPerSec]
    generalize hRun : bqPlayerCallback abi clock (player.reset ..) = run at hRuns ⊢
    generalize bqPlayerCallback abi clock (player'.reset ..) = run' at hRuns ⊢
    cases hRuns with
    | none => exact Option.Rel.none
    | @some run run' hBoth =>
        obtain ⟨hLength, hHeard⟩ := hBoth.heard
        apply Option.Rel.some
        dsimp only
        rw [hLength, hHeard]
        exact ⟨hBoth.1, hWell.of_accounts (accounts_bqPlayerCallback hRun), rfl, rfl, rfl, rfl⟩
  · rw [dif_neg hSize, dif_neg hSize]
    exact Option.Rel.none

theorem framesPerBuffers_step {next : Session} {event : SessionEvent}
    (hStep : session.step platform event = some next) :
    next.player.globalFramesPerBuffers = session.player.globalFramesPerBuffers := by
  unfold step at hStep
  split_ifs at hStep with hHalted
  have hEnter {call : NetworkCall} {player : State}
      (hFrames : player.globalFramesPerBuffers = session.player.globalFramesPerBuffers)
      (hEntered : session.enter call player = some next) :
      next.player.globalFramesPerBuffers = session.player.globalFramesPerBuffers := by
    unfold enter at hEntered
    split at hEntered
    · cases hEntered
      exact hFrames
    · cases hEntered
  cases event with
  | bufferFinished clock =>
      unfold act at hStep
      dsimp only at hStep
      split_ifs at hStep with hQueued
      cases hStep
      cases hRun : bqPlayerCallback platform.abi clock session.player with
      | none => rfl
      | some run => exact (accounts_bqPlayerCallback hRun).framesPerBuffers
  | enqueuePCMFrames chunk playbackTimeUs => exact hEnter rfl hStep
  | syncPlayback systemTimeUs playbackTimeUs =>
      apply hEnter _ hStep
      unfold State.synced
      split_ifs <;> rfl
  | monitorPlayback => exact hEnter rfl hStep
  | advance monotonicUs =>
      obtain ⟨call, hCall, rfl⟩ := Option.map_eq_some_iff.mp hStep
      cases call with
      | monitoring =>
          exact (State.accounts_monitorPlayback platform monotonicUs session.player :
            Accounts True _ [] _).framesPerBuffers
      | enqueuing call =>
          exact (call.sameStream_advance platform monotonicUs session.player).framesPerBuffers
  | setSystemTimeOffset offsetUs =>
      cases hStep
      rfl
  | setDeviceLatency latencyUs =>
      cases hStep
      rfl

theorem framesPerBuffers_play {clock : Clock} {samplesPerSec numChannels : BitVec 32}
    {events : List SessionEvent} {player : State}
    (hPlay : play platform clock samplesPerSec numChannels events player = some session) :
    session.player.globalFramesPerBuffers = player.globalFramesPerBuffers := by
  obtain ⟨first, hStart, hRun⟩ := Option.bind_eq_some_iff.mp hPlay
  obtain ⟨run, hInit, rfl⟩ := Option.map_eq_some_iff.mp hStart
  have hFirst : run.player.globalFramesPerBuffers = player.globalFramesPerBuffers := by
    unfold initPlayback at hInit
    split_ifs at hInit with hSize
    exact (accounts_bqPlayerCallback hInit).framesPerBuffers
  exact run_keeps (p := fun reached : Session =>
      reached.player.globalFramesPerBuffers = player.globalFramesPerBuffers)
    (fun _ _ _ hSame hStep => (framesPerBuffers_step hStep).trans hSame) hFirst hRun

/-- The device's buffer size is what `audioplayer_initGlobal` was called with. -/
theorem framesPerBuffers_lt {player : State} (hPast : Past platform player) :
    player.globalFramesPerBuffers < 2 ^ 32 := by
  induction hPast with
  | initGlobal samplesPerSec framesPerBuffer => exact framesPerBuffer.isLt
  | setSystemTimeOffset hPast offsetUs ih => exact ih
  | setDeviceLatency hPast latencyUs ih => exact ih
  | stopPlayback hPast hPlay ih =>
      rw [framesPerBuffers_play hPlay]
      exact ih

/-- Isolation: two histories that leave the same settings make no difference to a session,
when every run of its callback makes nothing of what is left behind. -/
theorem outputs_eq_of_clean {player player' : State} (hPast : Past platform player)
    (hSettings : SameSettings player player') (clock : Clock)
    (samplesPerSec numChannels : BitVec 32) (events : List SessionEvent)
    (hClean : PlaysClean platform clock samplesPerSec numChannels events player)
    (hClean' : PlaysClean platform clock samplesPerSec numChannels events player') :
    (play platform clock samplesPerSec numChannels events player).map outputs =
      (play platform clock samplesPerSec numChannels events player').map outputs := by
  have hStarts := sameSession_start hSettings (framesPerBuffers_lt hPast) platform.abi clock
    samplesPerSec numChannels
  unfold play
  unfold PlaysClean at hClean hClean'
  generalize start platform.abi clock samplesPerSec numChannels player = first at *
  generalize start platform.abi clock samplesPerSec numChannels player' = first' at *
  cases hStarts with
  | none => rfl
  | @some session session' hSame =>
      have hRuns := run_rel (SameSession platform.abi)
        (fun _ _ event hBoth hOk hOk' => sameSession_step event hBoth hOk hOk') hSame
        (hClean session rfl) (hClean' session' rfl)
      show (Transition.run _ session events).map outputs =
        (Transition.run _ session' events).map outputs
      generalize Transition.run (step platform) session events = ended at hRuns ⊢
      generalize Transition.run (step platform) session' events = ended' at hRuns ⊢
      cases hRuns with
      | none => rfl
      | some hEnd => exact congrArg some hEnd.outputs.symm

theorem outputs_eq_of_clean_second :
    ∃ earlier,
      play ⟨.lp64, fun _ _ => 0⟩ ⟨0, 1000⟩ 8000#32 1#32
        [.syncPlayback 1000 0, .advance 0, .bufferFinished ⟨1000, 1000⟩, .monitorPlayback,
          .advance 10] (State.boot 48000#32 8#32) = some earlier ∧
      (play ⟨.lp64, fun _ _ => 0⟩ ⟨0, 1000⟩ 8000#32 1#32
        [.syncPlayback 1000 0, .advance 20, .bufferFinished ⟨1000, 1000⟩]
        (State.boot 48000#32 8#32)).map outputs =
      (play ⟨.lp64, fun _ _ => 0⟩ ⟨0, 1000⟩ 8000#32 1#32
        [.syncPlayback 1000 0, .advance 20, .bufferFinished ⟨1000, 1000⟩]
        earlier.player).map outputs := by
  have hEarlier : (play ⟨.lp64, fun _ _ => 0⟩ ⟨0, 1000⟩ 8000#32 1#32
      [.syncPlayback 1000 0, .advance 0, .bufferFinished ⟨1000, 1000⟩, .monitorPlayback,
        .advance 10] (State.boot 48000#32 8#32)).isSome := by decide +kernel
  refine ⟨_, (Option.some_get hEarlier).symm, ?_⟩
  apply outputs_eq_of_clean (Past.initGlobal 48000#32 8#32)
  · constructor <;> decide +kernel +revert
  · decide +kernel
  · decide +kernel +revert

/-- One earlier session, that has not played anything, is enough. The callback of the next
one leaves half of the silence as it finds it: once it was never written, once it is
filler. -/
theorem not_isolated : ¬ Isolated ⟨.lp64, fun _ _ => 0⟩ := by
  intro hIsolated
  have hEarlier : (play ⟨.lp64, fun _ _ => 0⟩ ⟨0, 1000⟩ 8000#32 1#32 []
      (State.boot 48000#32 8#32)).isSome := by decide +kernel
  have hSettings : SameSettings (State.boot 48000#32 8#32) (Option.get _ hEarlier).player := by
    constructor <;> decide +kernel +revert
  have hBoot : Past ⟨.lp64, fun _ _ => 0⟩ (State.boot 48000#32 8#32) := Past.initGlobal ..
  have hPast : Past ⟨.lp64, fun _ _ => 0⟩ (Option.get _ hEarlier).player :=
    hBoot.stopPlayback (Option.some_get hEarlier).symm
  have hSame := hIsolated _ _ hBoot hPast hSettings ⟨0, 1000⟩ 8000#32 1#32
    [.syncPlayback 1000 0, .advance 0,
      .enqueuePCMFrames [2, 2, 2, 2, 2, 2, 2, 2] 500, .advance 0, .advance 0, .advance 0,
      .advance 0, .bufferFinished ⟨1000, 1000⟩,
      .monitorPlayback, .advance 10, .monitorPlayback, .advance 3000000,
      .enqueuePCMFrames [3, 3, 3, 3, 3, 3, 3, 3] 1000, .advance 3000000, .advance 3000000,
      .advance 3000000, .advance 3000000,
      .setSystemTimeOffset (-3000000), .bufferFinished ⟨3001000, 1000⟩]
  clear hPast hSettings
  revert hSame hEarlier
  decide +kernel

end Session

end AudioSync.Player
