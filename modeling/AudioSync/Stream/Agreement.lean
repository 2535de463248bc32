import AudioSync.Receiver.Schedule
import AudioSync.Sender.Timestamps

/-! Two receivers of one stream, each of which may miss packets. -/
namespace AudioSync.Stream

open Rtp Sender

/-- A run of a receiver that gets the packets with the given indices; each pass of
its loop finds some of them. -/
structure Reception (packets : List RTPPacket) (received : List Nat) where
  env : Receiver.Environment
  clock : Player.Clock
  samples : BitVec 32
  channels : BitVec 32
  player : Player.State
  batches : List (List RTPPacket)
  delivered : batches.flatten = received.filterMap (packets[·]?)

def Reception.schedule {packets : List RTPPacket} {received : List Nat}
    (reception : Reception packets received) : List Int :=
  Receiver.schedule reception.env reception.clock reception.samples reception.channels
    reception.player reception.batches

/-- Whatever else happens to two receivers, they schedule every packet that both
handle at the same time. -/
def Agree (packets : List RTPPacket) (received received' : List Nat) : Prop :=
  ∀ (reception : Reception packets received) (reception' : Reception packets received') (k l : Nat),
    received[k]? = received'[l]? → ∀ time ∈ reception.schedule[k]?,
      ∀ time' ∈ reception'.schedule[l]?, time = time'

section Lead

variable (timestamp : BitVec 32) (times : List Nat) (received : List Nat)

/-- The media time in a packet's timestamp: that of the sample before. -/
def mediaTime (i : Nat) : Nat := builderTime (times.headD 0) times i

def timestampAt (i : Nat) : BitVec 32 :=
  timestamp + BitVec.ofInt 32 (mediaTime times i - times.headD 0)

/-- The packet whose timestamp is subtracted from that of packet `m`, which is
number `k` of those received: the first one with a timestamp other than -1. -/
def origin (k m : Nat) : Nat :=
  ((received.take (k + 1)).find? fun i => timestampAt timestamp times i ≠ -1).getD m

/-- The media time of the first sample received. -/
def startTime : Option Nat := received.head?.bind (times[·]?)

/-- How far the schedule of packet `m` is ahead of the media time in its timestamp:
by the gap between the first sample and the timestamp that the relative ones
count from, less what was lost when the timestamps wrapped around. -/
def clockLead (k m startUs : Nat) : Int :=
  let originUs : Int := mediaTime times (origin timestamp times received k m)
  startUs - originUs - 2 ^ 32 * ((mediaTime times m - originUs) / 2 ^ 32)

end Lead

/-- Both receivers have the same lead at every packet that both got. -/
def SameLead (timestamp : BitVec 32) (times : List Nat) (received received' : List Nat) : Prop :=
  ∀ k l m, received[k]? = some m → received'[l]? = some m →
    ∀ startUs ∈ startTime times received, ∀ startUs' ∈ startTime times received',
      clockLead timestamp times received k m startUs =
        clockLead timestamp times received' l m startUs'

/-- A first packet with a proper timestamp stays the origin. -/
theorem clockLead_of_first {timestamp : BitVec 32} {times : List Nat} {first : Nat}
    (hFirst : timestampAt timestamp times first ≠ -1) (rest : List Nat) (k m startUs : Nat) :
    clockLead timestamp times (first :: rest) k m startUs =
      startUs - mediaTime times first -
        2 ^ 32 * (((mediaTime times m : Int) - mediaTime times first) / 2 ^ 32) := by
  have hOrigin : origin timestamp times (first :: rest) k m = first := by
    rw [origin, List.take_succ_cons, List.find?_cons_of_pos (by simpa using hFirst)]
    rfl
  rw [clockLead, hOrigin]

/-- Receivers that start with the same packet have the same lead. -/
theorem sameLead_of_same_first {timestamp : BitVec 32} {times : List Nat} {first : Nat}
    (hFirst : timestampAt timestamp times first ≠ -1) (rest rest' : List Nat) :
    SameLead timestamp times (first :: rest) (first :: rest') := by
  intro k l m _ _ startUs hStart startUs' hStart'
  obtain rfl : startUs = startUs' := Option.some.inj (hStart.symm.trans hStart')
  rw [clockLead_of_first hFirst, clockLead_of_first hFirst]

section Schedule

variable {packets : List RTPPacket} {builder : RTPPacketBuilder} {playbackStartUs : Int}
  {times received : List Nat}

theorem map_timestamp_delivered
    (hPackets : ∀ i packet, packets[i]? = some packet →
      IsPacket builder playbackStartUs (times.headD 0) times i packet)
    (hReceived : ∀ i ∈ received, i < packets.length) :
    (received.filterMap (packets[·]?)).map RTPPacket.timestamp =
      received.map (timestampAt builder.timestamp times) := by
  induction received with
  | nil => rfl
  | cons i rest ih =>
      have hLt := hReceived i List.mem_cons_self
      have hPacket : packets[i]? = some packets[i] := List.getElem?_eq_getElem hLt
      rw [List.filterMap_cons_some hPacket, List.map_cons, List.map_cons,
        ih fun j hj => hReceived j (List.mem_cons_of_mem _ hj), (hPackets i _ hPacket).timestamp]
      rfl

theorem foldl_beginWith_timestampAt (timestamp : BitVec 32) {k m : Nat}
    (hIndex : received[k]? = some m) :
    ((received.map (timestampAt timestamp times)).take (k + 1)).foldl Receiver.State.beginWith
        (-1) = timestampAt timestamp times (origin timestamp times received k m) := by
  have hTaken : m ∈ received.take (k + 1) := by
    rw [List.take_add_one, hIndex]
    simp
  rw [Receiver.foldl_beginWith, List.find?_cons_of_neg (by decide), ← List.map_take,
    List.find?_map, origin]
  cases hFind : (received.take (k + 1)).find? fun i => timestampAt timestamp times i ≠ -1 with
  | none =>
      have hUnset := List.find?_eq_none.mp hFind m hTaken
      simp only [Function.comp_def, hFind, Option.map_none, Option.getD_none]
      rw [decide_eq_true_eq, not_not] at hUnset
      exact hUnset.symm
  | some i => simp only [Function.comp_def, hFind, Option.map_some, Option.getD_some]

/-- Relative timestamps are differences of media times modulo 2^32. -/
theorem toNat_timestampAt_sub (timestamp : BitVec 32) (m o : Nat) :
    ((timestampAt timestamp times m - timestampAt timestamp times o).toNat : Int) =
      ((mediaTime times m : Int) - mediaTime times o) % 2 ^ 32 := by
  have hSplit : (mediaTime times m : Int) - times.headD 0 =
      (mediaTime times m - mediaTime times o) + (mediaTime times o - times.headD 0) := by ring
  have hSub : timestampAt timestamp times m - timestampAt timestamp times o =
      BitVec.ofInt 32 (mediaTime times m - mediaTime times o) := by
    rw [timestampAt, timestampAt, hSplit, BitVec.ofInt_add]
    grind
  rw [hSub, BitVec.toNat_ofInt]
  omega

/-- The time scheduled for packet `m` is ahead of its timestamp by the lead. -/
theorem fullSchedule_getElem?
    (hPackets : ∀ i packet, packets[i]? = some packet →
      IsPacket builder playbackStartUs (times.headD 0) times i packet)
    (hReceived : ∀ i ∈ received, i < packets.length) (k startUs : Nat) :
    (Receiver.fullSchedule (int64 (playbackStartUs + startUs))
        (received.filterMap (packets[·]?)))[k]? =
      received[k]?.map fun m => int64 (playbackStartUs + mediaTime times m +
        clockLead builder.timestamp times received k m startUs) := by
  rw [Receiver.fullSchedule, map_timestamp_delivered hPackets hReceived, List.getElem?_map,
    Receiver.relativeTimes_getElem?, List.getElem?_map]
  cases hIndex : received[k]? with
  | none => rfl
  | some m =>
      simp only [Option.map_some, foldl_beginWith_timestampAt _ hIndex, toNat_timestampAt_sub,
        Option.some.injEq]
      have hSum : playbackStartUs + startUs +
          ((mediaTime times m : Int) -
            mediaTime times (origin builder.timestamp times received k m)) % 2 ^ 32 =
          playbackStartUs + mediaTime times m +
            clockLead builder.timestamp times received k m startUs := by
        rw [Int.emod_def, clockLead]
        ring
      rw [← hSum]
      exact Int.bmod_add_bmod

/-- A lead is a start time and a 32 bit number, less the media time. -/
theorem clockLead_bounds (timestamp : BitVec 32) (times received : List Nat) (k m startUs : Nat) :
    startUs - mediaTime times m ≤ clockLead timestamp times received k m startUs ∧
      clockLead timestamp times received k m startUs < startUs - mediaTime times m + 2 ^ 32 := by
  simp only [clockLead]
  omega

/-- The first sample received brings its clock time. -/
theorem delivered_of_startTime
    (hPackets : ∀ i packet, packets[i]? = some packet →
      IsPacket builder playbackStartUs (times.headD 0) times i packet)
    (hReceived : ∀ i ∈ received, i < packets.length) {startUs : Nat}
    (hStart : startTime times received = some startUs) :
    ∃ first rest, received.filterMap (packets[·]?) = first :: rest ∧
      first.extension.bind HeaderExtension.clockTime =
        some (int64 (playbackStartUs + startUs)) := by
  cases received with
  | nil => cases hStart
  | cons i rest =>
      have hLt := hReceived i List.mem_cons_self
      have hPacket : packets[i]? = some packets[i] := List.getElem?_eq_getElem hLt
      have hTime : times[i]? = some startUs := hStart
      refine ⟨packets[i], rest.filterMap (packets[·]?), List.filterMap_cons_some hPacket, ?_⟩
      rw [(hPackets i _ hPacket).extension, hTime]
      exact clockTime_clockExtension _

/-- A receiver whose first packet is the marker does not schedule anything. -/
theorem schedule_of_startTime_none
    (hPackets : ∀ i packet, packets[i]? = some packet →
      IsPacket builder playbackStartUs (times.headD 0) times i packet)
    (hReceived : ∀ i ∈ received, i < packets.length) (hStart : startTime times received = none)
    (reception : Reception packets received) : reception.schedule = [] := by
  apply Receiver.schedule_eq_nil
  rw [reception.delivered]
  cases received with
  | nil => rfl
  | cons i rest =>
      have hLt := hReceived i List.mem_cons_self
      have hPacket : packets[i]? = some packets[i] := List.getElem?_eq_getElem hLt
      have hTime : times[i]? = none := hStart
      rw [List.filterMap_cons_some hPacket, List.head?_cons, Option.bind_some,
        (hPackets i _ hPacket).extension, hTime]
      rfl

/-- What any run schedules for a packet, if it handles it. -/
theorem Reception.schedule_getElem?
    (hPackets : ∀ i packet, packets[i]? = some packet →
      IsPacket builder playbackStartUs (times.headD 0) times i packet)
    (hReceived : ∀ i ∈ received, i < packets.length) (reception : Reception packets received)
    {k : Nat} {time : Int} (hTime : reception.schedule[k]? = some time) :
    ∃ m startUs, received[k]? = some m ∧ startTime times received = some startUs ∧
      int64 (playbackStartUs + mediaTime times m +
        clockLead builder.timestamp times received k m startUs) = time := by
  cases hStart : startTime times received with
  | none =>
      rw [schedule_of_startTime_none hPackets hReceived hStart reception] at hTime
      cases hTime
  | some startUs =>
      obtain ⟨first, rest, hFirst, hClock⟩ := delivered_of_startTime hPackets hReceived hStart
      have hPrefix := Receiver.schedule_isPrefix reception.env reception.clock reception.samples
        reception.channels reception.player (reception.delivered.trans hFirst) hClock
      obtain ⟨hLt, hGet⟩ := List.getElem?_eq_some_iff.mp hTime
      have hFull := (List.prefix_iff_getElem?.mp hPrefix k hLt).trans (congrArg some hGet)
      rw [← hFirst, fullSchedule_getElem? hPackets hReceived, Option.map_eq_some_iff] at hFull
      obtain ⟨m, hIndex, hEq⟩ := hFull
      exact ⟨m, startUs, hIndex, rfl, hEq⟩

/-- Some receiver does handle and schedule every packet. -/
theorem exists_reception
    (hPackets : ∀ i packet, packets[i]? = some packet →
      IsPacket builder playbackStartUs (times.headD 0) times i packet)
    (hReceived : ∀ i ∈ received, i < packets.length) {k m startUs : Nat}
    (hIndex : received[k]? = some m) (hStart : startTime times received = some startUs) :
    ∃ reception : Reception packets received, reception.schedule[k]? =
      some (int64 (playbackStartUs + mediaTime times m +
        clockLead builder.timestamp times received k m startUs)) := by
  obtain ⟨first, rest, hFirst, hClock⟩ := delivered_of_startTime hPackets hReceived hStart
  refine ⟨⟨Receiver.steadyEnvironment .lp64, ⟨0, 0⟩, 44100, 1, Player.State.boot 44100 1024,
    [first :: rest], by simp [hFirst]⟩, ?_⟩
  rw [Reception.schedule, Receiver.schedule_steady hClock, ← hFirst,
    fullSchedule_getElem? hPackets hReceived, hIndex, Option.map_some]

theorem startTime_lt (hTimes : ∀ timeUs ∈ times, timeUs < 2 ^ 63) {startUs : Nat}
    (hStart : startTime times received = some startUs) : startUs < 2 ^ 63 := by
  obtain ⟨i, -, hTime⟩ := Option.bind_eq_some_iff.mp hStart
  exact hTimes startUs (List.mem_of_getElem? hTime)

variable {received' : List Nat}

theorem agree_of_sameLead
    (hPackets : ∀ i packet, packets[i]? = some packet →
      IsPacket builder playbackStartUs (times.headD 0) times i packet)
    (hReceived : ∀ i ∈ received, i < packets.length)
    (hReceived' : ∀ i ∈ received', i < packets.length)
    (hLead : SameLead builder.timestamp times received received') :
    Agree packets received received' := by
  intro reception reception' k l hSameIndex time hTime time' hTime'
  obtain ⟨m, startUs, hIndex, hStart, rfl⟩ :=
    reception.schedule_getElem? hPackets hReceived hTime
  obtain ⟨m', startUs', hIndex', hStart', rfl⟩ :=
    reception'.schedule_getElem? hPackets hReceived' hTime'
  obtain rfl : m = m' := Option.some.inj (hIndex.symm.trans (hSameIndex.trans hIndex'))
  have hEq := hLead k l m hIndex hIndex' startUs hStart startUs' hStart'
  exact congrArg (fun lead => int64 (_ + lead)) hEq

theorem sameLead_of_agree
    (hPackets : ∀ i packet, packets[i]? = some packet →
      IsPacket builder playbackStartUs (times.headD 0) times i packet)
    (hTimes : ∀ timeUs ∈ times, timeUs < 2 ^ 63)
    (hReceived : ∀ i ∈ received, i < packets.length)
    (hReceived' : ∀ i ∈ received', i < packets.length) (hAgree : Agree packets received received') :
    SameLead builder.timestamp times received received' := by
  intro k l m hIndex hIndex' startUs hStart startUs' hStart'
  obtain ⟨reception, hTime⟩ := exists_reception hPackets hReceived hIndex hStart
  obtain ⟨reception', hTime'⟩ := exists_reception hPackets hReceived' hIndex' hStart'
  have hSame := hAgree reception reception' k l (hIndex.trans hIndex'.symm) _ hTime _ hTime'
  -- The leads differ by less than 2^64, so the 64 bit sums tell them apart.
  have hBounds := clockLead_bounds builder.timestamp times received k m startUs
  have hBounds' := clockLead_bounds builder.timestamp times received' l m startUs'
  have hLt := startTime_lt hTimes hStart
  have hLt' := startTime_lt hTimes hStart'
  have hSum := (MachineInt.toSigned_inj (by rw [abs_lt]; constructor <;> omega)).mp hSame
  exact Int.add_left_cancel hSum

end Schedule

/-- The packets of one stream. -/
def stream (env : Environment) (session : RTPSession) (samples : List Sample) : List RTPPacket :=
  transmitted (runNetwork env session (some samples))

theorem isPacket_stream {env : Environment} {session : RTPSession} {samples : List Sample}
    (hReady : session.Ready RTP_DEFAULTPACKETSIZE)
    (hBuffer : ∀ sample ∈ samples, sample.data.length ≤ BUFFER_SIZE)
    (hSent : EverySent (runNetwork env session (some samples))) (i : Nat) (packet : RTPPacket)
    (hPacket : (stream env session samples)[i]? = some packet) :
    IsPacket session.packetbuilder (env.systemTimeUs + transmissionLatency)
      ((samples.map Sample.timeUs).headD 0) (samples.map Sample.timeUs) i packet :=
  isPacket_runNetwork hReady hBuffer hSent hPacket

theorem timeUs_lt (samples : List Sample) :
    ∀ timeUs ∈ samples.map Sample.timeUs, timeUs < 2 ^ 63 := by
  intro timeUs hTime
  obtain ⟨sample, -, rfl⟩ := List.mem_map.mp hTime
  exact sample.inRange

/-- Two receivers of a stream agree exactly when they have the same lead. -/
theorem agree_iff_sameLead (env : Environment) (ssrc timestamp : BitVec 32) (seqnr : BitVec 16)
    (samples : List Sample) (received received' : List Nat)
    (hBuffer : ∀ sample ∈ samples, sample.data.length ≤ BUFFER_SIZE)
    (hSent : EverySent (runNetwork env (streamingSession ssrc timestamp seqnr) (some samples)))
    (hReceived : ∀ i ∈ received,
      i < (stream env (streamingSession ssrc timestamp seqnr) samples).length)
    (hReceived' : ∀ i ∈ received',
      i < (stream env (streamingSession ssrc timestamp seqnr) samples).length) :
    Agree (stream env (streamingSession ssrc timestamp seqnr) samples) received received' ↔
      SameLead timestamp (samples.map Sample.timeUs) received received' := by
  have hPackets := isPacket_stream (ready_streamingSession ssrc timestamp seqnr) hBuffer hSent
  change _ ↔ SameLead (streamingSession ssrc timestamp seqnr).packetbuilder.timestamp _ _ _
  constructor
  · exact sameLead_of_agree hPackets (timeUs_lt samples) hReceived hReceived'
  · exact agree_of_sameLead hPackets hReceived hReceived'

theorem stream_length_of_fits (env : Environment) {session : RTPSession} {samples : List Sample}
    (hRunning : ∀ reading, env.isRunning reading = true)
    (hReady : session.Ready RTP_DEFAULTPACKETSIZE)
    (hFits : ∀ sample ∈ samples, sample.data.length ≤ LARGEST_SAMPLE) :
    (stream env session samples).length = samples.length + 1 := by
  have hLength := congrArg List.length (transmitsAll_of_fits hRunning hReady hFits)
  rw [List.length_map, List.length_append, List.length_map] at hLength
  exact hLength

/-- Three samples that are 10 ms and 20 ms apart. -/
def threeSamples : List Sample :=
  [⟨[1], 0, by decide⟩, ⟨[2], 10000, by decide⟩, ⟨[3], 30000, by decide⟩]

theorem threeSamples_fit : ∀ sample ∈ threeSamples, sample.data.length ≤ LARGEST_SAMPLE := by
  decide

/-- Each receiver misses another packet between the first and the last one. -/
theorem agree_same_first :
    Agree (stream (steadyEnvironment 0) (streamingSession 1 2 3) threeSamples)
      [0, 1, 3] [0, 2, 3] := by
  have hReady := ready_streamingSession 1 2 3
  have hLength := stream_length_of_fits (steadyEnvironment 0) (fun _ => rfl) hReady
    threeSamples_fit
  exact (agree_iff_sameLead (steadyEnvironment 0) 1 2 3 threeSamples [0, 1, 3] [0, 2, 3] (by decide)
    (everySent_runNetwork _ hReady threeSamples_fit) (by rw [hLength]; decide)
    (by rw [hLength]; decide)).mpr (sameLead_of_same_first (by decide) [1, 3] [2, 3])

/-- A receiver that joins one packet late is 10 ms behind from then on. -/
theorem not_agree_late_receiver :
    EverySent (runNetwork (steadyEnvironment 0) (streamingSession 1 2 3) (some threeSamples)) ∧
      ¬ Agree (stream (steadyEnvironment 0) (streamingSession 1 2 3) threeSamples)
        [0, 1, 2] [1, 2] := by
  have hReady := ready_streamingSession 1 2 3
  have hSent := everySent_runNetwork (steadyEnvironment 0) hReady threeSamples_fit
  have hLength := stream_length_of_fits (steadyEnvironment 0) (fun _ => rfl) hReady
    threeSamples_fit
  refine ⟨hSent, fun hAgree => ?_⟩
  have hLead := sameLead_of_agree (isPacket_stream hReady (by decide) hSent)
    (timeUs_lt threeSamples) (by rw [hLength]; decide) (by rw [hLength]; decide) hAgree
  -- The schedules of the second packet.
  exact absurd (hLead 1 0 1 rfl rfl 0 rfl 10000 rfl) (by decide)

end AudioSync.Stream
