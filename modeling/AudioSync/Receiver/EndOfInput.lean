import AudioSync.Receiver.Schedule

/-! The end of the input. `hasInput` is set anew for every packet, and looked at only
between two drains of the packet queues. -/
namespace AudioSync.Receiver

open Rtp State

/-- The packet ends the input when it is handled as the one with this number: it has the
marker bit, or the decoder reports an error. -/
def Environment.Ends (env : Environment) (handled : Nat) (packet : RTPPacket) : Prop :=
  packet.hasMarker = true ∨ env.enqueueStatus handled ≠ Decoder.AMEDIA_OK

instance (env : Environment) (handled : Nat) (packet : RTPPacket) :
    Decidable (env.Ends handled packet) := inferInstanceAs (Decidable (_ ∨ _))

/-- The payloads the decoder is called with. -/
def payloads (calls : List CodecCall) : List (List Byte) :=
  calls.filterMap fun
    | .flush => none
    | .enqueueBuffer payload _ => payload

/-- From `receive` at one turn, the loop comes to a drain of `packets`, which begins in
`state`; `rest` is what later drains would find. -/
inductive Enters (env : Environment) : Nat → State → List (List RTPPacket) →
    State → List RTPPacket → Prop where
  | here {turn : Nat} {state : State} {packets : List RTPPacket} {rest : List (List RTPPacket)}
      (continues : (state.hasInput && env.isRunning turn) = true) :
      Enters env turn state (packets :: rest) state packets
  | later {turn : Nat} {start state : State} {first packets : List RTPPacket}
      {rest : List (List RTPPacket)}
      (continues : (start.hasInput && env.isRunning turn) = true)
      (enters : Enters env (turn + 1) (start.pass env first) rest state packets) :
      Enters env turn start (first :: rest) state packets

/-- End of input is final: once a packet has ended it, no payload is enqueued any more, and
the loop is left after the current drain. -/
def EndIsFinal (env : Environment) (turn : Nat) (start : State)
    (batches : List (List RTPPacket)) : Prop :=
  ∀ state front packet back, Enters env turn start batches state (front ++ packet :: back) →
    let before := front.foldl (handlePacket env) state
    env.Ends before.handled packet →
      payloads (start.receive env turn batches).codecCalls =
          payloads (before.handlePacket env packet).codecCalls ∧
        (state.pass env (front ++ packet :: back)).hasInput = false

/-- In the first drain with a packet that ends the input, all packets behind it have the
marker bit. -/
def MarkedBehindEnd (env : Environment) : Nat → Nat → List (List RTPPacket) → Prop
  | _, _, [] => True
  | turn, handled, packets :: rest =>
      env.isRunning turn = true →
        (∀ front packet back, packets = front ++ packet :: back →
          env.Ends (handled + front.length) packet → ∀ last ∈ back, last.hasMarker = true) ∧
        ((∀ front packet back, packets = front ++ packet :: back →
            ¬ env.Ends (handled + front.length) packet) →
          MarkedBehindEnd env (turn + 1) (handled + packets.length) rest)

section Drain

variable {env : Environment} {turn : Nat} {state : State} {packet : RTPPacket}
variable {packets : List RTPPacket} {batches : List (List RTPPacket)}

theorem payloads_append (front back : List CodecCall) :
    payloads (front ++ back) = payloads front ++ payloads back :=
  List.filterMap_append

theorem hasInput_handlePacket (env : Environment) (state : State) (packet : RTPPacket) :
    (state.handlePacket env packet).hasInput = false ↔ env.Ends state.handled packet := by
  rw [Environment.Ends]
  show (!packet.hasMarker && decide ((if packet.hasMarker then state.status
    else env.enqueueStatus state.handled) = Decoder.AMEDIA_OK)) = false ↔ _
  cases packet.hasMarker <;> simp

/-- A packet adds its payload, unless it has the marker bit. -/
theorem payloads_handlePacket (env : Environment) (state : State) (packet : RTPPacket) :
    payloads (state.handlePacket env packet).codecCalls =
      payloads state.codecCalls ++ if packet.hasMarker then [] else [packet.payload] := by
  simp only [handlePacket, payloads_append, List.append_assoc]
  cases state.jumps packet (packet.timestamp - beginWith state.beginTimestamp packet.timestamp) <;>
    cases packet.hasMarker <;> rfl

theorem handled_foldl (env : Environment) (state : State) (packets : List RTPPacket) :
    (packets.foldl (handlePacket env) state).handled = state.handled + packets.length := by
  induction packets generalizing state with
  | nil => rfl
  | cons packet rest ih =>
      rw [List.foldl_cons, ih, List.length_cons]
      show state.handled + 1 + rest.length = _
      omega

theorem handled_pass (env : Environment) (state : State) (packets : List RTPPacket) :
    (state.pass env packets).handled = state.handled + packets.length :=
  handled_foldl env state packets

/-- The payloads of a drain are those of the packets without the marker bit. -/
theorem payloads_foldl (env : Environment) (state : State) (packets : List RTPPacket) :
    payloads (packets.foldl (handlePacket env) state).codecCalls = payloads state.codecCalls ++
      (packets.filter fun packet => !packet.hasMarker).map RTPPacket.payload := by
  induction packets generalizing state with
  | nil => simp
  | cons packet rest ih =>
      rw [List.foldl_cons, ih, payloads_handlePacket, List.append_assoc, List.filter_cons]
      cases packet.hasMarker <;> rfl

/-- The last packet of a drain decides. -/
theorem hasInput_foldl_of_marked (hMarked : ∀ last ∈ packets, last.hasMarker = true)
    (hInput : state.hasInput = false) :
    (packets.foldl (handlePacket env) state).hasInput = false := by
  induction packets generalizing state with
  | nil => exact hInput
  | cons packet rest ih =>
      apply ih (fun last hLast => hMarked last (List.mem_cons_of_mem packet hLast))
      exact (hasInput_handlePacket env state packet).mpr
        (Or.inl (hMarked packet List.mem_cons_self))

/-- Without a packet that ends the input, there is input after the drain. -/
theorem hasInput_foldl_of_not_ends (hInput : state.hasInput = true)
    (hNone : ∀ front packet back, packets = front ++ packet :: back →
      ¬ env.Ends (state.handled + front.length) packet) :
    (packets.foldl (handlePacket env) state).hasInput = true := by
  induction packets generalizing state with
  | nil => exact hInput
  | cons packet rest ih =>
      have hFirst : ¬ env.Ends state.handled packet := hNone [] packet rest rfl
      rw [List.foldl_cons]
      apply ih
      · rwa [← hasInput_handlePacket, Bool.not_eq_false] at hFirst
      · intro front later back hSplit
        have hLater := hNone (packet :: front) later back (by rw [hSplit]; rfl)
        rw [List.length_cons, ← Nat.add_assoc, Nat.add_right_comm] at hLater
        exact hLater

/-- Without input the loop is left. -/
theorem receive_of_noInput (hInput : state.hasInput = false) :
    state.receive env turn batches = state := by
  cases batches with
  | nil => rfl
  | cons packets rest => simp [receive, hInput]

theorem receive_cons (hContinues : (state.hasInput && env.isRunning turn) = true) :
    state.receive env turn (packets :: batches) =
      (state.pass env packets).receive env (turn + 1) batches := by
  rw [receive, if_pos hContinues]

/-- A drain is entered with input only. -/
theorem Enters.hasInput {entry : State} (hEnters : Enters env turn entry batches state packets) :
    entry.hasInput = true := by
  cases hEnters with
  | here hContinues => exact (Bool.and_eq_true_iff.mp hContinues).1
  | later hContinues _ => exact (Bool.and_eq_true_iff.mp hContinues).1

/-- The drain in which the input ends keeps its end when all later packets in it have the marker
bit. -/
theorem pass_of_marked {front back : List RTPPacket}
    (hEnds : env.Ends (front.foldl (handlePacket env) state).handled packet)
    (hMarked : ∀ last ∈ back, last.hasMarker = true) :
    (state.pass env (front ++ packet :: back)).hasInput = false ∧
      payloads (state.pass env (front ++ packet :: back)).codecCalls =
        payloads ((front.foldl (handlePacket env) state).handlePacket env packet).codecCalls := by
  have hFilter : (back.filter fun last => !last.hasMarker) = [] := by
    rw [List.filter_eq_nil_iff]
    intro last hLast
    simp [hMarked last hLast]
  show ((front ++ packet :: back).foldl (handlePacket env) state).hasInput = false ∧
    payloads ((front ++ packet :: back).foldl (handlePacket env) state).codecCalls = _
  rw [List.foldl_append, List.foldl_cons]
  constructor
  · exact hasInput_foldl_of_marked hMarked ((hasInput_handlePacket env _ packet).mpr hEnds)
  · rw [payloads_foldl, hFilter]
    exact List.append_nil _

/-- Conversely, a packet without the marker bit enqueues a payload after the end. -/
theorem marked_of_payloads {front back : List RTPPacket}
    (hSame : payloads (state.pass env (front ++ packet :: back)).codecCalls =
      payloads ((front.foldl (handlePacket env) state).handlePacket env packet).codecCalls) :
    ∀ last ∈ back, last.hasMarker = true := by
  have hDrained : payloads ((front ++ packet :: back).foldl (handlePacket env) state).codecCalls =
      payloads ((front.foldl (handlePacket env) state).handlePacket env packet).codecCalls := hSame
  rw [List.foldl_append, List.foldl_cons, payloads_foldl] at hDrained
  have hFilter := List.map_eq_nil_iff.mp (List.append_right_eq_self.mp hDrained)
  intro last hLast
  have hMarked := List.filter_eq_nil_iff.mp hFilter last hLast
  simpa using hMarked

end Drain

section EndOfInput

variable {env : Environment} {turn : Nat} {state : State} {packet : RTPPacket}
variable {packets : List RTPPacket} {batches : List (List RTPPacket)}

/-- A drain after one without an end is a drain of the run that begins there. -/
theorem endIsFinal_later (hContinues : (state.hasInput && env.isRunning turn) = true)
    (hFinal : EndIsFinal env turn state (packets :: batches)) :
    EndIsFinal env (turn + 1) (state.pass env packets) batches := by
  intro entry front packet back hEnters before hEnds
  rw [← receive_cons hContinues]
  exact hFinal entry front packet back (.later hContinues hEnters) hEnds

/-- What the packets of the first drain have to satisfy. -/
theorem marked_of_endIsFinal {front back : List RTPPacket}
    (hContinues : (state.hasInput && env.isRunning turn) = true)
    (hFinal : EndIsFinal env turn state ((front ++ packet :: back) :: batches))
    (hEnds : env.Ends (state.handled + front.length) packet) :
    ∀ last ∈ back, last.hasMarker = true := by
  rw [← handled_foldl env] at hEnds
  obtain ⟨hSame, hInput⟩ := hFinal state front packet back (.here hContinues) hEnds
  rw [receive_cons hContinues, receive_of_noInput hInput] at hSame
  exact marked_of_payloads hSame

theorem endIsFinal_of_marked (hMarked : MarkedBehindEnd env turn state.handled batches) :
    EndIsFinal env turn state batches := by
  induction batches generalizing turn state with
  | nil =>
      intro entry front packet back hEnters
      cases hEnters
  | cons packets rest ih =>
      intro entry front packet back hEnters
      cases hEnters with
      | here hContinues =>
          intro before hEnds
          obtain ⟨hHere, -⟩ := hMarked (Bool.and_eq_true_iff.mp hContinues).2
          have hCounted := hEnds
          rw [handled_foldl env] at hCounted
          obtain ⟨hInput, hSame⟩ := pass_of_marked hEnds (hHere front packet back rfl hCounted)
          rw [receive_cons hContinues, receive_of_noInput hInput]
          exact ⟨hSame, hInput⟩
      | later hContinues hEnters =>
          obtain ⟨hHere, hLater⟩ := hMarked (Bool.and_eq_true_iff.mp hContinues).2
          -- The drain before had no end, as there was input after it.
          have hNone : ∀ front packet back, packets = front ++ packet :: back →
              ¬ env.Ends (state.handled + front.length) packet := by
            intro front packet back hSplit hEnds
            have hMarks := hHere front packet back hSplit hEnds
            rw [← handled_foldl env] at hEnds
            have hNoInput := (pass_of_marked hEnds hMarks).1
            rw [← hSplit, hEnters.hasInput] at hNoInput
            cases hNoInput
          have hRest := hLater hNone
          rw [← handled_pass env] at hRest
          rw [receive_cons hContinues]
          exact ih hRest entry front packet back hEnters

theorem marked_of_final (hInput : state.hasInput = true)
    (hFinal : EndIsFinal env turn state batches) :
    MarkedBehindEnd env turn state.handled batches := by
  induction batches generalizing turn state with
  | nil => exact True.intro
  | cons packets rest ih =>
      intro hRunning
      have hContinues : (state.hasInput && env.isRunning turn) = true := by
        rw [hInput, hRunning]
        rfl
      constructor
      · rintro front packet back rfl hEnds
        exact marked_of_endIsFinal hContinues hFinal hEnds
      · intro hNone
        rw [← handled_pass env state packets]
        exact ih (hasInput_foldl_of_not_ends hInput hNone) (endIsFinal_later hContinues hFinal)

/-- The end of the input is final in exactly these runs, whatever the sources and the decoder
do. -/
theorem endIsFinal_start_iff (env : Environment) (player : Player.State)
    (batches : List (List RTPPacket)) :
    EndIsFinal env 0 (State.start player) batches ↔ MarkedBehindEnd env 0 0 batches := by
  have hHandled : (State.start player).handled = 0 := rfl
  rw [← hHandled]
  exact ⟨marked_of_final rfl, endIsFinal_of_marked⟩

/-- The last packet of one source, and a packet of another one. -/
def endOfOneSource : RTPPacket × RTPPacket :=
  (⟨0, true, 1, 20, 1, [], none, []⟩, ⟨0, false, 7, 20, 2, [], none, [5]⟩)

/-- Both are there in one drain: the payload is enqueued after the end, and the loop goes
on. -/
theorem not_endIsFinal_two_sources :
    ¬ EndIsFinal (steadyEnvironment .lp64) 0 (State.start (Player.State.boot 44100 1024))
      [[endOfOneSource.1, endOfOneSource.2]] := by
  intro hFinal
  have hMarked := marked_of_final rfl hFinal
  have hLast := (hMarked rfl).1 [] endOfOneSource.1 [endOfOneSource.2] rfl (Or.inl rfl)
    endOfOneSource.2 List.mem_cons_self
  cases hLast

end EndOfInput

end AudioSync.Receiver
