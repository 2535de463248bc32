import AudioSync.Decoder.EnqueueBuffer
import AudioSync.Player.Control
import AudioSync.Rtp.ClockExtension

/-! `ReceiverSession::RunNetwork`: every packet's timestamp is made relative to
the first one and goes to the decoder with the payload. -/
namespace AudioSync.Receiver

open Rtp Player

/-- What `RunNetwork` asks of the codec; without a payload the data ends. -/
inductive CodecCall where
  | flush
  | enqueueBuffer (payload : Option (List Byte)) (timeUs : Int)
  deriving DecidableEq

/-- The local variables of `RunNetwork`, with the player it feeds, its calls of the
codec and the number of packets it has handled. -/
structure State where
  hasInput : Bool
  hasOutput : Bool
  status : Decoder.MediaStatus
  beginTimestamp : BitVec 32
  lastTimestamp : BitVec 32
  lastSeqNum : BitVec 16
  player : Player.State
  codecCalls : List CodecCall
  handled : Nat

/-- What the loop does not decide itself: the clock, the flag at each pass, and for
each packet the answer of the decoder and what its output does to the player. -/
structure Environment where
  platform : Platform
  monotonicUs : Nat → Int
  isRunning : Nat → Bool
  enqueueStatus : Nat → Decoder.MediaStatus
  dequeueBuffer : Nat → Player.State → Player.State × Bool

/-- The jump of the timestamps from which the codec is flushed: `SECOND_MICRO/20`. -/
def FLUSH_GAP : Nat := 50000

namespace State

def start (player : Player.State) : State :=
  ⟨true, true, Decoder.AMEDIA_OK, -1, 0, 0, player, [], 0⟩

/-- `beginTimestamp` once a packet with this timestamp is handled; -1 stands for a
value that has not been recorded yet. -/
def beginWith (beginTimestamp timestamp : BitVec 32) : BitVec 32 :=
  if beginTimestamp = -1 then timestamp else beginTimestamp

/-- The player after `audioplayer_syncPlayback`, if the packet calls for it. -/
def syncPacket (env : Environment) (state : State) (packet : RTPPacket) : Player.State :=
  match packet.extension.bind HeaderExtension.clockTime with
  | none => state.player
  | some usec =>
      (state.player.syncPlayback env.platform (env.monotonicUs state.handled) usec
        (packet.timestamp - beginWith state.beginTimestamp packet.timestamp).toNat).1

/-- A gap in the sequence numbers with a jump of the relative timestamp. The sum
is an `int`, so a sequence number of 0 is never the next one. -/
def jumps (state : State) (packet : RTPPacket) (timestamp : BitVec 32) : Bool :=
  let lastSeqNum :=
    if state.beginTimestamp = -1 then packet.sequenceNumber - 1 else state.lastSeqNum
  packet.sequenceNumber.toNat ≠ lastSeqNum.toNat + 1 &&
    FLUSH_GAP < (timestamp - state.lastTimestamp).toNat

/-- The body of the loop over `GetNextPacket`. -/
def handlePacket (env : Environment) (state : State) (packet : RTPPacket) : State :=
  let timestamp := packet.timestamp - beginWith state.beginTimestamp packet.timestamp
  let payload := if packet.hasMarker then none else some packet.payload
  let status := if packet.hasMarker then state.status else env.enqueueStatus state.handled
  let dequeued := env.dequeueBuffer state.handled (state.syncPacket env packet)
  { hasInput := !packet.hasMarker && status = Decoder.AMEDIA_OK
    hasOutput := dequeued.2
    status := status
    beginTimestamp := beginWith state.beginTimestamp packet.timestamp
    lastTimestamp := timestamp
    lastSeqNum := packet.sequenceNumber
    player := dequeued.1
    codecCalls := state.codecCalls ++ (if state.jumps packet timestamp then [.flush] else []) ++
      [.enqueueBuffer payload timestamp.toNat]
    handled := state.handled + 1 }

/-- One pass of the outer loop: all packets that are there, then the player's
control with a pause in between. -/
def pass (env : Environment) (state : State) (packets : List RTPPacket) : State :=
  let drained := packets.foldl (handlePacket env) state
  let monitor (player : Player.State) :=
    (player.monitorPlayback env.platform (env.monotonicUs drained.handled)).1
  { drained with player := monitor (monitor drained.player) }

/-- The outer loop, with the packets that each pass finds. -/
def receive (env : Environment) (turn : Nat) (state : State) : List (List RTPPacket) → State
  | [] => state
  | packets :: rest =>
      if state.hasInput && env.isRunning turn then
        receive env (turn + 1) (state.pass env packets) rest
      else state

end State

/-- `RunNetwork` from the call of `audioplayer_initPlayback` on, which may abort. -/
def runNetwork (env : Environment) (clock : Clock) (samples channels : BitVec 32)
    (player : Player.State) (batches : List (List RTPPacket)) : Option State :=
  (initPlayback env.platform.abi clock samples channels player).map fun run =>
    (State.start run.player).receive env 0 batches

/-- The times the decoder is given, one for each packet. -/
def enqueueTimes (calls : List CodecCall) : List Int :=
  calls.filterMap fun
    | .flush => none
    | .enqueueBuffer _ timeUs => some timeUs

section Timestamps

open State

/-- The relative timestamps of a sequence of packets. -/
def relativeTimes : BitVec 32 → List (BitVec 32) → List Int
  | _, [] => []
  | beginTimestamp, timestamp :: rest =>
      let begun := beginWith beginTimestamp timestamp
      (timestamp - begun).toNat :: relativeTimes begun rest

theorem enqueueTimes_handlePacket (env : Environment) (state : State) (packet : RTPPacket) :
    enqueueTimes (state.handlePacket env packet).codecCalls = enqueueTimes state.codecCalls ++
      [((packet.timestamp - beginWith state.beginTimestamp packet.timestamp).toNat : Int)] := by
  simp only [handlePacket, enqueueTimes, List.filterMap_append, List.append_assoc]
  cases state.jumps packet (packet.timestamp - beginWith state.beginTimestamp packet.timestamp) <;>
    rfl

/-- Whatever the decoder answers, each packet adds its time. -/
theorem enqueueTimes_foldl (env : Environment) (state : State) (packets : List RTPPacket) :
    enqueueTimes (packets.foldl (handlePacket env) state).codecCalls =
        enqueueTimes state.codecCalls ++
          relativeTimes state.beginTimestamp (packets.map RTPPacket.timestamp) ∧
      (packets.foldl (handlePacket env) state).beginTimestamp =
        (packets.map RTPPacket.timestamp).foldl beginWith state.beginTimestamp := by
  induction packets generalizing state with
  | nil => simp [relativeTimes]
  | cons packet rest ih =>
      obtain ⟨hTimes, hBegin⟩ := ih (state.handlePacket env packet)
      rw [List.foldl_cons, hTimes, hBegin, enqueueTimes_handlePacket, List.append_assoc]
      exact ⟨rfl, rfl⟩

theorem enqueueTimes_pass (env : Environment) (state : State) (packets : List RTPPacket) :
    enqueueTimes (state.pass env packets).codecCalls =
        enqueueTimes state.codecCalls ++
          relativeTimes state.beginTimestamp (packets.map RTPPacket.timestamp) ∧
      (state.pass env packets).beginTimestamp =
        (packets.map RTPPacket.timestamp).foldl beginWith state.beginTimestamp :=
  enqueueTimes_foldl env state packets

theorem relativeTimes_append (beginTimestamp : BitVec 32) (first second : List (BitVec 32)) :
    relativeTimes beginTimestamp (first ++ second) =
      relativeTimes beginTimestamp first ++
        relativeTimes (first.foldl beginWith beginTimestamp) second := by
  induction first generalizing beginTimestamp with
  | nil => rfl
  | cons timestamp rest ih => simp [relativeTimes, ih]

/-- The loop may end early, but what it has handled got its relative timestamps. -/
theorem enqueueTimes_receive (env : Environment) (turn : Nat) (state : State)
    (batches : List (List RTPPacket)) :
    enqueueTimes (state.receive env turn batches).codecCalls <+:
      enqueueTimes state.codecCalls ++
        relativeTimes state.beginTimestamp (batches.flatten.map RTPPacket.timestamp) := by
  induction batches generalizing turn state with
  | nil => simp [receive, relativeTimes]
  | cons packets rest ih =>
      rw [receive]
      split
      · obtain ⟨hTimes, hBegin⟩ := enqueueTimes_pass env state packets
        have hRest := ih (turn + 1) (state.pass env packets)
        rw [hTimes, hBegin] at hRest
        rw [List.flatten_cons, List.map_append, relativeTimes_append, ← List.append_assoc]
        exact hRest
      · exact List.prefix_append _ _

/-- A time is relative to the first timestamp so far that is not -1. -/
theorem relativeTimes_getElem? (beginTimestamp : BitVec 32) (timestamps : List (BitVec 32))
    (k : Nat) :
    (relativeTimes beginTimestamp timestamps)[k]? = timestamps[k]?.map fun timestamp =>
      ((timestamp - (timestamps.take (k + 1)).foldl beginWith beginTimestamp).toNat : Int) := by
  induction timestamps generalizing beginTimestamp k with
  | nil => rfl
  | cons timestamp rest ih =>
      cases k with
      | zero => rfl
      | succ k => exact ih (beginWith beginTimestamp timestamp) k

theorem foldl_beginWith (beginTimestamp : BitVec 32) (timestamps : List (BitVec 32)) :
    timestamps.foldl beginWith beginTimestamp =
      ((beginTimestamp :: timestamps).find? (· ≠ -1)).getD (-1) := by
  induction timestamps generalizing beginTimestamp with
  | nil =>
      by_cases hBegin : beginTimestamp = -1
      · rw [hBegin]
        rfl
      · rw [List.find?_cons_of_pos (by simpa using hBegin)]
        rfl
  | cons timestamp rest ih =>
      rw [List.foldl_cons, ih, beginWith]
      by_cases hBegin : beginTimestamp = -1
      · rw [if_pos hBegin, hBegin]
        rfl
      · rw [if_neg hBegin, List.find?_cons_of_pos (by simpa using hBegin),
          List.find?_cons_of_pos (by simpa using hBegin)]

end Timestamps

end AudioSync.Receiver
