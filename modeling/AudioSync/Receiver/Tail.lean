import AudioSync.Decoder.DequeueBuffer
import AudioSync.Receiver.EndOfInput

/-! The tail of the stream: what the codec still puts out once it knows that the input has
ended. `RunNetwork` takes it with the last call in the loop and in the loop behind it. -/
namespace AudioSync.Receiver

open Rtp State Decoder

/-- The loop before `AMediaCodec_stop`, with the codec's next answers: the PCM data it hands to
`audioplayer_enqueuePCMFrames`. `none` stands for a loop that goes on behind them. -/
def drain (isRunning : Nat → Bool) (status : MediaStatus) :
    Nat → Bool → List OutputAnswer → Option (List PcmBuffer)
  | turn, hasOutput, [] =>
      if hasOutput && status = AMEDIA_OK && isRunning turn then none else some []
  | turn, hasOutput, answer :: rest =>
      if hasOutput && status = AMEDIA_OK && isRunning turn then
        let dequeued := Decoder.dequeueBuffer answer
        (drain isRunning status (turn + 1) dequeued.2 rest).map (dequeued.1.toList ++ ·)
      else some []

/-- The environment in which the codec gives this answer. -/
def Environment.answering (env : Environment) (answer : OutputAnswer) : Environment :=
  { env with dequeueBuffer := fun handled player =>
      ((env.dequeueBuffer handled player).1, (Decoder.dequeueBuffer answer).2) }

/-- The last packet of the receive loop, handled in this turn, and then the drain: the PCM data
that is handed on before the codec is stopped. -/
def State.finish (env : Environment) (turn : Nat) (packet : RTPPacket) (state : State) :
    List OutputAnswer → Option (List PcmBuffer)
  | [] => none
  | answer :: rest =>
      let ended := state.handlePacket (env.answering answer) packet
      (drain env.isRunning ended.status (turn + 1) ended.hasOutput rest).map
        ((Decoder.dequeueBuffer answer).1.toList ++ ·)

/-- As long as the session runs, the packet that ends the stream is followed by all that the codec
still puts out, in order. -/
def TailPlayed (state : State) (output : EndedOutput) : Prop :=
  ∀ env turn packet, (∀ later, env.isRunning later = true) → packet.hasMarker = true →
    state.finish env turn packet output.answers = some output.pcm

/-- Nothing is decoded behind the first answer that has the flag, set by the codec or not. -/
def FlagsHold : List OutputAnswer → OutputAnswer → Prop
  | [], _ => True
  | answer :: rest, last =>
      if answer.info.endOfStream then (rest ++ [last]).filterMap OutputAnswer.pcm = []
      else FlagsHold rest last

/-- The tail reaches the player: the payload before was accepted, and no unset structure looks
like the end; or there is nothing left to decode. -/
def TailReachable (state : State) (output : EndedOutput) : Prop :=
  if state.status = AMEDIA_OK then FlagsHold output.before output.last
  else output.answers.tail.filterMap OutputAnswer.pcm = []

section Drain

variable {isRunning : Nat → Bool} {status : MediaStatus} {turn : Nat} {answer : OutputAnswer}
variable {env : Environment} {packet : RTPPacket} {state : State}

/-- The loop is left behind the packet that ends the stream, with what the codec said then. -/
theorem receive_last {front : List RTPPacket}
    (hContinues : (state.hasInput && env.isRunning turn) = true) (hMarker : packet.hasMarker = true)
    (batches : List (List RTPPacket)) :
    let ended := (front.foldl (handlePacket env) state).handlePacket env packet
    let final := state.receive env turn ((front ++ [packet]) :: batches)
    final.hasOutput = ended.hasOutput ∧ final.status = ended.status ∧ final.hasInput = false := by
  have hDrained : (front ++ [packet]).foldl (handlePacket env) state =
      (front.foldl (handlePacket env) state).handlePacket env packet := List.foldl_concat ..
  have hInput : (state.pass env (front ++ [packet])).hasInput = false := by
    show ((front ++ [packet]).foldl (handlePacket env) state).hasInput = false
    rw [hDrained, hasInput_handlePacket]
    exact Or.inl hMarker
  rw [receive_cons hContinues, receive_of_noInput hInput]
  refine ⟨?_, ?_, hInput⟩
  · show ((front ++ [packet]).foldl (handlePacket env) state).hasOutput = _
    rw [hDrained]
  · show ((front ++ [packet]).foldl (handlePacket env) state).status = _
    rw [hDrained]

/-- The drain is skipped when the last payload could not be enqueued. -/
theorem drain_of_error (hStatus : status ≠ AMEDIA_OK) (turn : Nat) (hasOutput : Bool)
    (answers : List OutputAnswer) : drain isRunning status turn hasOutput answers = some [] := by
  cases answers <;> simp [drain, hStatus]

theorem drain_of_noOutput (turn : Nat) (answers : List OutputAnswer) :
    drain isRunning status turn false answers = some [] := by
  cases answers <;> simp [drain]

/-- One pass of a drain that runs. -/
theorem drain_cons (hRunning : isRunning turn = true)
    (hReleased : answer.releaseOutputBuffer = AMEDIA_OK) (rest : List OutputAnswer) :
    drain isRunning AMEDIA_OK turn true (answer :: rest) =
      (drain isRunning AMEDIA_OK (turn + 1) (!answer.info.endOfStream) rest).map
        (answer.pcm.toList ++ ·) := by
  simp [drain, hRunning, dequeueBuffer_fst, dequeueBuffer_snd hReleased]

/-- The last call in the loop is one more pass of the drain, if there was no error. -/
theorem finish_of_ok (hRunning : env.isRunning turn = true) (hMarker : packet.hasMarker = true)
    (hStatus : state.status = AMEDIA_OK) (hReleased : answer.releaseOutputBuffer = AMEDIA_OK)
    (rest : List OutputAnswer) :
    state.finish env turn packet (answer :: rest) =
      drain env.isRunning AMEDIA_OK turn true (answer :: rest) := by
  have hEnded : (state.handlePacket (env.answering answer) packet).status = AMEDIA_OK := by
    simp [handlePacket, hMarker, hStatus]
  rw [drain_cons hRunning hReleased, State.finish, hEnded, dequeueBuffer_fst,
    ← dequeueBuffer_snd hReleased]
  rfl

theorem finish_of_error (hMarker : packet.hasMarker = true) (hStatus : state.status ≠ AMEDIA_OK)
    (rest : List OutputAnswer) :
    state.finish env turn packet (answer :: rest) = some answer.pcm.toList := by
  have hEnded : (state.handlePacket (env.answering answer) packet).status ≠ AMEDIA_OK := by
    simpa [handlePacket, hMarker] using hStatus
  rw [State.finish, drain_of_error hEnded, dequeueBuffer_fst]
  exact congrArg some (List.append_nil _)

theorem pcm_cons (rest : List OutputAnswer) : (answer :: rest).filterMap OutputAnswer.pcm =
    answer.pcm.toList ++ rest.filterMap OutputAnswer.pcm := by
  cases hPcm : answer.pcm <;> simp [hPcm]

/-- A drain that runs hands on everything if and only if the flags hold. -/
theorem drain_eq_pcm_iff (hRunning : ∀ turn, isRunning turn = true) {last : OutputAnswer}
    (hEnded : last.info.endOfStream = true) (before : List OutputAnswer) (turn : Nat)
    (hReleased : ∀ answer ∈ before ++ [last], answer.releaseOutputBuffer = AMEDIA_OK) :
    drain isRunning AMEDIA_OK turn true (before ++ [last]) =
        some ((before ++ [last]).filterMap OutputAnswer.pcm) ↔ FlagsHold before last := by
  induction before generalizing turn with
  | nil =>
      rw [List.nil_append, drain_cons (hRunning turn) (hReleased last (by simp)), hEnded,
        Bool.not_true, drain_of_noOutput, pcm_cons]
      exact iff_of_true rfl trivial
  | cons answer rest ih =>
      have hLater := ih (turn + 1) fun later hMem =>
        hReleased later (List.mem_cons_of_mem answer hMem)
      rw [List.cons_append, drain_cons (hRunning turn) (hReleased answer (by simp)), pcm_cons,
        FlagsHold]
      cases hFlag : answer.info.endOfStream with
      | true => simp [drain_of_noOutput, eq_comm]
      | false =>
          rw [if_neg (by simp), ← hLater, Bool.not_false]
          cases drain isRunning AMEDIA_OK (turn + 1) true (rest ++ [last]) <;> simp

end Drain

section Tail

/-- The tail of the stream is played if and only if it is reachable. -/
theorem tailPlayed_iff (state : State) (output : EndedOutput) :
    TailPlayed state output ↔ TailReachable state output := by
  obtain ⟨answer, rest, hAnswers⟩ : ∃ answer rest, output.answers = answer :: rest :=
    List.exists_cons_of_ne_nil (List.append_ne_nil_of_right_ne_nil _ (List.cons_ne_nil _ _))
  have hReleased : ∀ answer ∈ output.answers, answer.releaseOutputBuffer = AMEDIA_OK :=
    output.released
  -- What the run hands on depends on the codec and the state alone.
  have hFinish : ∀ env turn packet, (∀ later, env.isRunning later = true) →
      packet.hasMarker = true → (state.finish env turn packet output.answers = some output.pcm ↔
        TailReachable state output) := by
    intro env turn packet hRunning hMarker
    rw [TailReachable]
    split
    · next hStatus =>
        rw [hAnswers, finish_of_ok (hRunning turn) hMarker hStatus
          (hReleased answer (hAnswers ▸ List.mem_cons_self)), ← hAnswers]
        exact drain_eq_pcm_iff hRunning output.ended.2 output.before turn hReleased
    · next hStatus =>
        rw [EndedOutput.pcm, hAnswers, finish_of_error hMarker hStatus, pcm_cons]
        simp [eq_comm]
  constructor
  · intro hPlayed
    exact (hFinish (steadyEnvironment .lp64) 0 endOfOneSource.1 (fun _ => rfl) rfl).mp
      (hPlayed (steadyEnvironment .lp64) 0 endOfOneSource.1 (fun _ => rfl) rfl)
  · intro hReachable env turn packet hRunning hMarker
    exact (hFinish env turn packet hRunning hMarker).mpr hReachable

/-- A codec that is not ready at first, with a flag left over on the stack, and then puts out
one sample. -/
def slowCodec : EndedOutput where
  before := [⟨INFO_TRY_AGAIN_LATER, ⟨0, 0, 0, 4⟩, fun _ => 0, AMEDIA_OK⟩,
    ⟨0, ⟨0, 2, 20000, 0⟩, fun _ => 1, AMEDIA_OK⟩]
  last := ⟨1, ⟨0, 0, 40000, BUFFER_FLAG_END_OF_STREAM⟩, fun _ => 0, AMEDIA_OK⟩
  unended := by decide
  ended := by decide
  released := by decide

/-- The sample is lost. -/
theorem not_tailPlayed_slowCodec :
    ¬ TailPlayed ((State.start (Player.State.boot 44100 1024)).handlePacket
      (steadyEnvironment .lp64) endOfOneSource.2) slowCodec := by
  intro hPlayed
  have hLost := hPlayed (steadyEnvironment .lp64) 0 endOfOneSource.1 (fun _ => rfl) rfl
  revert hLost
  decide

end Tail

end AudioSync.Receiver
